import ApiDesign.Proofs.Evaluation.Links
import ApiDesign.Proofs.Evaluation.Views

/-!
Contract: each result type of a model comes from one of generation.

After generation no result type is added and none gets lost. Each is staged on its own: its shortcuts are replaced, its
examples marked, its views named in full, its references linked. Sealing changes places only, and deriving views
changes views only.

Owns: `Registry.staged`, the passage from the result types of generation to those of the linked and derived registry.
Does not own: shapes at other places (`Proofs.Model.Places`), what views become (`Proofs.Evaluation.ViewFlow`).
-/

namespace ApiDesign

namespace Registry

variable {settings : Settings} {registry : Registry}

/-- The transformation that marks where examples are generated. -/
def marking (settings : Settings) (registry : Registry) : Transformation :=
  { details := Details.markExamples ((registry.generated settings).allowsExamples settings) }

/-- A result type of generation as it stands in the linked registry. -/
def staged (settings : Settings) (registry : Registry) (resultType : ResultType) : ResultType :=
  (((resultType.mapShape
    (Attribute.transform (Generation.resolution (registry.generation settings).targets))).mapShape
    (Attribute.transform (registry.marking settings))).canonicalViews).link (registry.prepared settings).typeIndex

/-- A result type of generation as it stands in the prepared registry. -/
def filled (settings : Settings) (registry : Registry) (resultType : ResultType) : ResultType :=
  ((resultType.mapShape
    (Attribute.transform (Generation.resolution (registry.generation settings).targets))).mapShape
    (Attribute.transform (registry.marking settings))).canonicalViews

/-- The prepared result types are those of generation, filled and sorted by identifier. -/
theorem IsDeclared.resultTypes_prepared (declared : registry.IsDeclared) :
    (registry.prepared settings).resultTypes =
      sortByName (·.identifier)
        ((registry.generation settings).registry.resultTypes.map (registry.filled settings)) := by
  unfold prepared completed markExamples
  rw [resultTypes_toSealed, resultTypes_shareErrors, resultTypes_canonicalViews, resultTypes_mapShapes,
    declared.generated_eq, resultTypes_mapShapes, List.map_map, List.map_map]
  unfold filled marking
  rw [declared.generated_eq]
  rfl

theorem IsDeclared.mem_resultTypes_prepared (declared : registry.IsDeclared) {resultType : ResultType} :
    resultType ∈ (registry.prepared settings).resultTypes ↔
      ∃ before ∈ (registry.generation settings).registry.resultTypes, registry.filled settings before = resultType := by
  rw [declared.resultTypes_prepared, mem_sortByName, List.mem_map]

theorem IsDeclared.mem_resultTypes_linked (declared : registry.IsDeclared) {resultType : ResultType} :
    resultType ∈ (registry.linked settings).resultTypes ↔
      ∃ before ∈ (registry.generation settings).registry.resultTypes, registry.staged settings before = resultType := by
  unfold linked
  rw [resultTypes_link, List.mem_map]
  constructor
  · rintro ⟨other, member, rfl⟩
    obtain ⟨before, inGeneration, rfl⟩ := declared.mem_resultTypes_prepared.mp member
    exact ⟨before, inGeneration, rfl⟩
  · rintro ⟨before, inGeneration, rfl⟩
    exact ⟨_, declared.mem_resultTypes_prepared.mpr ⟨before, inGeneration, rfl⟩, rfl⟩

/-- Staging keeps names, and which collections were generated. -/
theorem staged_spec (settings : Settings) (registry : Registry) (resultType : ResultType) :
    (registry.staged settings resultType).identifier = resultType.identifier ∧
      (registry.staged settings resultType).typeName = resultType.typeName ∧
      (registry.staged settings resultType).collection.map (·.generated) = resultType.collection.map (·.generated) := by
  unfold staged
  refine ⟨by rw [ResultType.identifier_link]; rfl, by rw [ResultType.typeName_link]; rfl, ?_⟩
  rw [ResultType.map_generated_link]
  simp only [ResultType.canonicalViews, Option.map_map]
  rfl

/-- Whatever agrees with a staged result type but for views has the names from before. -/
theorem names_of_withoutViews {before after : ResultType}
    (same : after.withoutViews = (registry.staged settings before).withoutViews) :
    after.identifier = before.identifier ∧ after.typeName = before.typeName := by
  obtain ⟨identifier, typeName, _⟩ := staged_spec settings registry before
  exact ⟨(congrArg ResultType.identifier same).trans identifier, (congrArg ResultType.typeName same).trans typeName⟩

/-- Each result type of generation stands in the model under its names, with the shape that staging gives it. -/
theorem IsDeclared.exists_derived (declared : registry.IsDeclared) {before : ResultType}
    (member : before ∈ (registry.generation settings).registry.resultTypes) :
    ∃ after ∈ (registry.derived settings).resultTypes, after.identifier = before.identifier ∧
      after.typeName = before.typeName ∧
      after.collection.map (·.generated) = before.collection.map (·.generated) ∧
      after.shape = (registry.staged settings before).shape := by
  have inLinked := declared.mem_resultTypes_linked.mpr ⟨before, member, rfl⟩
  have inMap : (registry.staged settings before).withoutViews ∈
      (Derivation.run (registry.linked settings).resultTypes).resultTypes.map (·.withoutViews) := by
    rw [Derivation.map_withoutViews_run]
    exact List.mem_map_of_mem inLinked
  obtain ⟨after, inRun, equal⟩ := List.mem_map.mp inMap
  obtain ⟨identifier, typeName⟩ := names_of_withoutViews equal
  have generated := (staged_spec settings registry before).2.2
  have sameShape := congrArg ResultType.shape equal
  have inDerived : after ∈ (registry.derived settings).resultTypes := by
    unfold derived
    exact inRun
  exact ⟨after, inDerived, identifier, typeName,
    (congrArg (fun resultType => resultType.collection.map (·.generated)) equal).trans generated, sameShape⟩

/-- Staging keeps the name of an element. -/
theorem exists_collection_of_staged {resultType : ResultType} {facts : Collection}
    (collects : (registry.staged settings resultType).collection = some facts) :
    ∃ given, resultType.collection = some given ∧ given.element.name = facts.element.name := by
  unfold staged at collects
  obtain ⟨canonical, has, sameName⟩ := ResultType.exists_collection_of_link collects
  simp only [ResultType.canonicalViews, ResultType.mapShape, Option.map_eq_some_iff] at has
  obtain ⟨given, isGiven, rfl⟩ := has
  exact ⟨given, isGiven, sameName⟩

theorem views_staged (settings : Settings) (registry : Registry) (resultType : ResultType) :
    (registry.staged settings resultType).views = resultType.views.map View.canonical := by
  unfold staged
  rw [ResultType.views_link]
  rfl

theorem isCollection_staged (settings : Settings) (registry : Registry) (resultType : ResultType) :
    (registry.staged settings resultType).isCollection = resultType.isCollection := by
  unfold staged
  rw [ResultType.isCollection_link]
  unfold ResultType.isCollection ResultType.canonicalViews
  rw [Option.isSome_map]
  rfl

/-- A staged result type inherits its views if it is a collection without any. -/
theorem inheritsViews_staged_iff (settings : Settings) (registry : Registry) {resultType : ResultType} :
    (registry.staged settings resultType).inheritsViews = true ↔
      resultType.isCollection = true ∧ resultType.views = [] := by
  unfold staged
  rw [ResultType.inheritsViews_link]
  unfold ResultType.inheritsViews ResultType.canonicalViews ResultType.isCollection
  simp only [ResultType.mapShape]
  cases resultType.collection <;> simp

theorem resultTypes_derived :
    (registry.derived settings).resultTypes =
      (Derivation.run (registry.linked settings).resultTypes).resultTypes := by
  unfold derived
  rfl

/-- Deriving views leaves every result type of the linked registry at its place. -/
theorem exists_linked {position : Nat} {after : ResultType}
    (here : (registry.derived settings).resultTypes[position]? = some after) :
    ∃ before, (registry.linked settings).resultTypes[position]? = some before ∧
      after.withoutViews = before.withoutViews := by
  rw [resultTypes_derived] at here
  exact exists_of_withoutViews (Derivation.map_withoutViews_run (registry.linked settings).resultTypes) here

/-- At its place in the linked registry, a result type of the derived registry is a staged one with other views. -/
theorem IsDeclared.exists_staged (declared : registry.IsDeclared) {position : Nat} {after : ResultType}
    (here : (registry.derived settings).resultTypes[position]? = some after) :
    ∃ before ∈ (registry.generation settings).registry.resultTypes,
      (registry.linked settings).resultTypes[position]? = some (registry.staged settings before) ∧
        after.withoutViews = (registry.staged settings before).withoutViews := by
  obtain ⟨linkedHere, there, same⟩ := exists_linked here
  obtain ⟨before, inGeneration, rfl⟩ := declared.mem_resultTypes_linked.mp (List.mem_of_getElem? there)
  exact ⟨before, inGeneration, there, same⟩

end Registry

end ApiDesign
