import ApiDesign.Evaluation.Collections
import ApiDesign.Proofs.Registry.Shapes

/-!
Contract: what generation adds to a registry, and what it puts in place of shortcuts.

Generation goes through the element names of shortcuts one by one. A name with a result type gets a target, the
identifier of that result type's collection; a collection that is missing is added at the end. Nothing speaks against
adding it, so generation reports nothing.

Owns: the step equation of generation, `Registry.Extends`, `Generation.IsSound`.
Does not own: which shortcuts accept which values (`Proofs.Model.Shortcuts`).
-/

namespace ApiDesign

/-! ## Generated collections -/

/-- The shape of a result type is an array of references by a name. -/
def ResultType.IsArrayOf (name : String) (resultType : ResultType) : Prop :=
  ∃ reference elementDetails details, reference.name = name ∧
    resultType.shape = ⟨.array ⟨.named reference, elementDetails⟩, details⟩

/-- A generated collection looks as if nobody had touched it: an array of references to its element. -/
structure ResultType.IsGenerated (resultType : ResultType) (element : String) : Prop where
  identifier : resultType.identifier = ResultType.collectionIdentifier element
  collection : ∃ facts, resultType.collection = some facts ∧ facts.element.name = element ∧ facts.generated = true
  shape : resultType.IsArrayOf element

theorem ResultType.isGenerated_generatedCollection (suffix : String) (element : ResultType) :
    (element.generatedCollection suffix).IsGenerated element.identifier :=
  ⟨rfl, ⟨_, rfl, rfl, rfl⟩, ⟨_, _, _, rfl, rfl⟩⟩

/-- Whether a result type is a collection that no declaration asked for. -/
def ResultType.isGeneratedCollection (resultType : ResultType) : Bool :=
  resultType.collection.any (·.generated)

theorem ResultType.isGeneratedCollection_iff {resultType : ResultType} :
    resultType.isGeneratedCollection = true ↔ resultType.collection.map (·.generated) = some true := by
  unfold isGeneratedCollection
  cases resultType.collection <;> simp

/-! ## Extended registries -/

/-- A registry with generated collections after the result types of another one, and otherwise the same. -/
structure Registry.Extends (base registry : Registry) : Prop where
  phase : registry.phase = base.phase
  api : registry.api = base.api
  services : registry.services = base.services
  userTypes : registry.userTypes = base.userTypes
  indexed : registry.IsIndexed
  resultTypes : ∃ added, registry.resultTypes = base.resultTypes ++ added ∧
    ∀ collection ∈ added, ∃ element, collection.IsGenerated element

namespace Registry

theorem IsIndexed.extends_refl {registry : Registry} (indexed : registry.IsIndexed) : registry.Extends registry :=
  ⟨rfl, rfl, rfl, rfl, indexed, [], by simp, by simp⟩

/-- A result type under a free identifier can be added while a registry is prepared. -/
theorem register_resultType {registry : Registry} (preparing : registry.phase = .preparing) {resultType : ResultType}
    (free : registry.contains .resultType resultType.identifier = false) :
    registry.register (.resultType resultType) = .ok (registry.append (.resultType resultType)) := by
  have nothing : registry.objection? (.resultType resultType) = none := by
    rw [objection?_eq_none_iff]
    refine ⟨?_, by simp [Root.kind], free⟩
    rw [preparing]
    rfl
  unfold register
  rw [nothing]

theorem Extends.append {base registry : Registry} (extended : base.Extends registry) {resultType : ResultType}
    {element : String} (generated : resultType.IsGenerated element)
    (indexed : (registry.append (.resultType resultType)).IsIndexed) :
    base.Extends (registry.append (.resultType resultType)) := by
  obtain ⟨added, same, allGenerated⟩ := extended.resultTypes
  refine ⟨extended.phase, extended.api, extended.services, extended.userTypes, indexed, added ++ [resultType], ?_, ?_⟩
  · simp [Registry.append, same]
  · intro collection member
    rcases List.mem_append.mp member with earlier | last
    · exact allGenerated collection earlier
    · rw [List.mem_singleton.mp last]
      exact ⟨element, generated⟩

end Registry

/-! ## One step -/

namespace Generation

variable {suffix : String}

/-- The registry with the collection of an element, which is added unless it is there. -/
def withCollection (suffix : String) (element : ResultType) (registry : Registry) : Registry :=
  if registry.contains .resultType (ResultType.collectionIdentifier element.identifier) then registry
  else registry.append (.resultType (element.generatedCollection suffix))

/-- What one step does: nothing for a name without a result type; otherwise the name gets a target and the collection
is there afterwards. -/
theorem provide_eq {generation : Generation} (preparing : generation.registry.phase = .preparing) (name : String) :
    generation.provide suffix name =
      match generation.registry.resultType? name with
      | none => generation
      | some element =>
          { generation with
            registry := withCollection suffix element generation.registry
            targets := generation.targets ++ [(name, ResultType.collectionIdentifier element.identifier)] } := by
  unfold provide
  cases generation.registry.resultType? name with
  | none => rfl
  | some element =>
      simp only [withCollection]
      split
      · rfl
      · rename_i free
        have notThere : generation.registry.contains .resultType (element.generatedCollection suffix).identifier =
            false := Bool.eq_false_iff.mpr free
        rw [Registry.register_resultType preparing notThere]

theorem withCollection_cases (suffix : String) (element : ResultType) (registry : Registry) :
    (registry.contains .resultType (ResultType.collectionIdentifier element.identifier) = true ∧
        withCollection suffix element registry = registry) ∨
      (registry.contains .resultType (ResultType.collectionIdentifier element.identifier) = false ∧
        withCollection suffix element registry =
          registry.append (.resultType (element.generatedCollection suffix))) := by
  unfold withCollection
  cases registry.contains .resultType (ResultType.collectionIdentifier element.identifier) with
  | true => exact .inl ⟨rfl, rfl⟩
  | false => exact .inr ⟨rfl, rfl⟩

theorem extends_withCollection {base registry : Registry} (extended : base.Extends registry)
    (preparing : registry.phase = .preparing) (element : ResultType) :
    base.Extends (withCollection suffix element registry) := by
  rcases withCollection_cases suffix element registry with ⟨_, same⟩ | ⟨free, added⟩
  · rw [same]
    exact extended
  · rw [added]
    exact extended.append (element.isGenerated_generatedCollection suffix)
      (extended.indexed.register (Registry.register_resultType preparing free))

/-- Afterwards the collection is there, and so is everything that was there before. -/
theorem mem_resultTypes_withCollection {registry : Registry} (element : ResultType) {resultType : ResultType}
    (member : resultType ∈ registry.resultTypes) :
    resultType ∈ (withCollection suffix element registry).resultTypes := by
  rcases withCollection_cases suffix element registry with ⟨_, same⟩ | ⟨_, added⟩
  · rw [same]
    exact member
  · rw [added]
    exact List.mem_append_left _ member

theorem exists_collection_withCollection (suffix : String) {registry : Registry} (indexed : registry.IsIndexed)
    (element : ResultType) :
    ∃ collection ∈ (withCollection suffix element registry).resultTypes,
      collection.identifier = ResultType.collectionIdentifier element.identifier := by
  rcases withCollection_cases suffix element registry with ⟨there, same⟩ | ⟨_, added⟩
  · rw [same]
    exact List.mem_map.mp (indexed.contains_iff.mp there)
  · rw [added]
    exact ⟨_, List.mem_append_right _ (List.mem_singleton_self _), rfl⟩

/-! ## A whole run -/

/-- A result type that is found for a name has it as identifier or as type name. -/
theorem isNamed_of_resultType? {name : String} {registry : Registry} (indexed : registry.IsIndexed)
    {resultType : ResultType} (found : registry.resultType? name = some resultType) :
    resultType ∈ registry.resultTypes ∧ resultType.isNamed name = true := by
  refine ⟨Registry.mem_resultTypes_of_resultType? found, ?_⟩
  rw [indexed.resultType?_eq] at found
  rcases Option.or_eq_some_iff.mp found with byIdentifier | ⟨_, byTypeName⟩
  · simp [ResultType.isNamed, List.find?_some byIdentifier]
  · simp [ResultType.isNamed, List.find?_some byTypeName]

/-- A state of generation over a base: the registry extends the base, nothing was reported, and every target is the
identifier of a collection that is there, of an element that is there and has the name. -/
structure IsSound (base : Registry) (generation : Generation) : Prop where
  extended : base.Extends generation.registry
  silent : generation.diagnostics = []
  targets : ∀ target ∈ generation.targets, ∃ element ∈ generation.registry.resultTypes,
    element.isNamed target.1 = true ∧ target.2 = ResultType.collectionIdentifier element.identifier ∧
      ∃ collection ∈ generation.registry.resultTypes, collection.identifier = target.2

variable {base : Registry}

theorem IsSound.provide {generation : Generation} (preparing : base.phase = .preparing)
    (sound : generation.IsSound base) (name : String) : (generation.provide suffix name).IsSound base := by
  have here : generation.registry.phase = .preparing := sound.extended.phase.trans preparing
  rw [provide_eq here]
  cases found : generation.registry.resultType? name with
  | none => exact sound
  | some element =>
      obtain ⟨member, named⟩ := isNamed_of_resultType? sound.extended.indexed found
      refine ⟨extends_withCollection sound.extended here element, sound.silent, ?_⟩
      intro target inTargets
      rcases List.mem_append.mp inTargets with earlier | last
      · obtain ⟨other, inBefore, isNamed, identifier, collection, collectionBefore, same⟩ :=
          sound.targets target earlier
        exact ⟨other, mem_resultTypes_withCollection element inBefore, isNamed, identifier, collection,
          mem_resultTypes_withCollection element collectionBefore, same⟩
      · rw [List.mem_singleton.mp last]
        obtain ⟨collection, inAfter, same⟩ :=
          exists_collection_withCollection suffix sound.extended.indexed element
        exact ⟨element, mem_resultTypes_withCollection element member, named, rfl, collection, inAfter, same⟩

theorem IsSound.foldl_provide (preparing : base.phase = .preparing) :
    ∀ (names : List String) (generation : Generation), generation.IsSound base →
      (names.foldl (Generation.provide suffix) generation).IsSound base
  | [], _, sound => sound
  | name :: rest, _, sound => foldl_provide preparing rest _ (sound.provide preparing name)

/-- The state at the end of generation, before shortcuts are replaced. -/
def final (suffix : String) (registry : Registry) : Generation :=
  registry.shortcutNames.foldl (Generation.provide suffix) ⟨registry, [], []⟩

theorem isSound_final {registry : Registry} (preparing : registry.phase = .preparing) (indexed : registry.IsIndexed)
    (suffix : String) : (final suffix registry).IsSound registry :=
  IsSound.foldl_provide preparing _ _ ⟨indexed.extends_refl, rfl, by simp⟩

/-- Generation reports nothing. -/
theorem run_eq {registry : Registry} (preparing : registry.phase = .preparing) (indexed : registry.IsIndexed)
    (suffix : String) :
    Generation.run suffix registry =
      ((final suffix registry).registry.mapShapes (Attribute.transform (resolution (final suffix registry).targets)),
        []) := by
  have silent := (isSound_final preparing indexed suffix).silent
  unfold final at silent
  unfold Generation.run final
  simp only [silent]

theorem keepsForm_resolution (targets : List (String × String)) : (resolution targets).KeepsForm where
  named := fun _ => rfl
  collection := by
    intro reference
    unfold resolution
    simp only
    split <;> rfl

/-! ## What is added -/

/-- After the result types of a base there are only collections generated for result types that are there. -/
def Adds (suffix : String) (base registry : Registry) : Prop :=
  ∃ added, registry.resultTypes = base.resultTypes ++ added ∧
    ∀ collection ∈ added, ∃ element ∈ registry.resultTypes, collection = element.generatedCollection suffix

theorem Adds.provide {generation : Generation} (preparing : generation.registry.phase = .preparing)
    (adds : Adds suffix base generation.registry) (name : String) :
    Adds suffix base (generation.provide suffix name).registry := by
  rw [provide_eq preparing]
  cases found : generation.registry.resultType? name with
  | none => exact adds
  | some element =>
      rcases withCollection_cases suffix element generation.registry with ⟨_, same⟩ | ⟨_, appended⟩
      · simp only [same]
        exact adds
      · obtain ⟨added, before, allGenerated⟩ := adds
        have elementThere := Registry.mem_resultTypes_of_resultType? found
        simp only [appended, Registry.append]
        refine ⟨added ++ [element.generatedCollection suffix], by rw [before, List.append_assoc], ?_⟩
        intro collection member
        rcases List.mem_append.mp member with earlier | last
        · obtain ⟨other, inBefore, isGenerated⟩ := allGenerated collection earlier
          exact ⟨other, List.mem_append_left _ inBefore, isGenerated⟩
        · exact ⟨element, List.mem_append_left _ elementThere, List.mem_singleton.mp last⟩

theorem Adds.foldl_provide (preparing : base.phase = .preparing) :
    ∀ (names : List String) (generation : Generation), generation.IsSound base →
      Adds suffix base generation.registry →
      Adds suffix base (names.foldl (Generation.provide suffix) generation).registry
  | [], _, _, adds => adds
  | name :: rest, _, sound, adds =>
      foldl_provide preparing rest _ (sound.provide preparing name)
        (adds.provide (sound.extended.phase.trans preparing) name)

/-- Generation adds collections of result types that are there in the end. -/
theorem adds_final {registry : Registry} (preparing : registry.phase = .preparing) (indexed : registry.IsIndexed)
    (suffix : String) : Adds suffix registry (final suffix registry).registry :=
  Adds.foldl_provide preparing _ _ ⟨indexed.extends_refl, rfl, by simp⟩ ⟨[], by simp, by simp⟩

end Generation

end ApiDesign
