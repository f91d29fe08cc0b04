import ApiDesign.Proofs.Evaluation.Persistence
import ApiDesign.Proofs.Model.Shortcuts

/-!
Contract: evaluation keeps what was declared.

A model has the API, the services, the user types and the result types of the declarations, each of them once and
completed, and besides these only collections that were generated for its result types. A declared collection may get
other names and the views of its element; its shape and its own views are completed like anything else.

Owns: `Model.Preserves`, that every model preserves what was declared.
Does not own: what completion may change (`Proofs.Schema.Completion`, `Proofs.Evaluation.Completion`), which names a
declared collection has in the end (`Proofs.Model.CollectionNames`).
-/

namespace ApiDesign

namespace Model

/-! ## What a model keeps -/

/-- A declared collection and what became of it, given what makes it a collection before and afterwards, and its
element in the model. The element has the name that was given for it; identifier and shape differ only by the name of
the element, and views that were declared stay, in the same order. -/
structure KeepsCollection (model : Model) (declared final : ResultType) (given facts : Collection)
    (element : ResultType) : Prop where
  collects : declared.collection = some given
  stillCollects : final.collection = some facts
  leads : model.resolve? facts.element = some (.result element)
  named : element.isNamed given.element.name = true
  identifier : final.identifier = ResultType.collectionIdentifier facts.element.name
  shape : declared.shape.CompletesTo final.shape ∨
    (ResultType.renameElement facts.element.name declared.shape).CompletesTo final.shape
  views : declared.views ≠ [] → List.Forall₂ View.FillsTo declared.views final.views

/-- A model that has what a registry has, in ascending order and completed, and otherwise only collections that were
generated for its result types. -/
structure Preserves (settings : Settings) (registry : Registry) (model : Model) : Prop where
  ascending : model.IsAscending
  noShortcut : ∀ node ∈ model.nodes, node.type.shortcut? = none
  api : Option.Rel Api.CompletesTo registry.api model.api
  services : Corresponds Service.CompletesTo registry.services model.services.toList
  userTypes : Corresponds UserType.CompletesTo registry.userTypes model.userTypes.toList
  plain : Corresponds ResultType.CompletesTo (registry.resultTypes.filter fun resultType => !resultType.isCollection)
    (model.resultTypes.toList.filter fun resultType => !resultType.isCollection)
  collections : Corresponds
    (fun declared final => ∃ given facts element, model.KeepsCollection declared final given facts element)
    (registry.resultTypes.filter (·.isCollection)) (model.resultTypes.toList.filter (·.isDeclaredCollection))
  generated : ∀ resultType ∈ model.resultTypes, resultType.isCollection = true →
    resultType.isDeclaredCollection = false → ∃ facts element, resultType.collection = some facts ∧
      model.resolve? facts.element = some (.result element) ∧ resultType.IsGenerated element.identifier ∧
      resultType.typeName = element.typeName ++ settings.collectionSuffix

/-- What a name denotes has it as identifier or as type name. -/
theorem isNamed_of_denoted? {model : Model} {name : String} {element : ResultType}
    (denotes : model.denoted? name = some (.result element)) : element.isNamed name = true := by
  unfold denoted? at denotes
  rcases Option.or_eq_some_iff.mp denotes with isUser | ⟨_, isResult⟩
  · obtain ⟨_, _, other⟩ := Option.map_eq_some_iff.mp isUser
    cases other
  · obtain ⟨resultType, first, same⟩ := Option.map_eq_some_iff.mp isResult
    cases same
    rcases Option.or_eq_some_iff.mp first with byIdentifier | ⟨_, byTypeName⟩
    · exact ResultType.isNamed_iff.mpr (.inl (by simpa using Array.find?_some byIdentifier))
    · exact ResultType.isNamed_iff.mpr (.inr (by simpa using Array.find?_some byTypeName))

end Model

namespace Registry

variable {settings : Settings} {registry : Registry}

/-! ## Result types that are no collections -/

/-- A result type that is no collection is completed. -/
theorem Succeeds.completesTo (succeeds : registry.Succeeds settings) (declared : registry.IsDeclared)
    {before named final : ResultType} (notCollection : before.isCollection = false)
    (names : registry.NamesAs settings before named) (finishes : registry.FinishesAs settings named final) :
    before.CompletesTo final := by
  obtain ⟨position, declaredHere, here⟩ := names
  obtain rfl := succeeds.named_eq_of_not_isCollection declared declaredHere here notCollection
  have noFacts : named.collection = none := by simpa [ResultType.isCollection] using notCollection
  rcases finishes with rfl | ⟨isCollection, _⟩
  · rw [succeeds.staged_eq declared (declared.mem_generation (List.mem_of_getElem? here)), noFacts]
    exact ⟨by rw [Option.map_none, ← noFacts],
      Attribute.completesTo_transform (isCompleting_completing settings registry) named.shape,
      forall₂_map_of_forall View.completesTo_canonical named.views⟩
  · rw [isCollection_staged, notCollection] at isCollection
    cases isCollection

/-! ## Elements -/

/-- What the identifier of a result type denotes in the end is what became of that result type. -/
theorem IsDeclared.names_of_denoted? (declared : registry.IsDeclared) {source element : ResultType}
    (inGeneration : source ∈ (registry.generation settings).registry.resultTypes)
    (denotes : (Model.ofRegistry (registry.derived settings)).denoted? source.identifier = some (.result element)) :
    element.identifier = source.identifier ∧ element.typeName = source.typeName := by
  obtain ⟨final, inDerived, identifier, typeName, _⟩ := declared.exists_derived inGeneration
  rw [← identifier] at denotes
  have isFinal := declared.isAscending.eq_of_denoted? (Model.mem_resultTypes_ofRegistry.mpr inDerived) denotes
  rw [isFinal]
  exact ⟨identifier, typeName⟩

/-! ## Declared collections -/

/-- Whatever an element name of naming denotes in the end has the name that was given for the element. -/
theorem NamesCollection.isNamed_element {before named : ResultType} {given facts : Collection}
    (naming : registry.NamesCollection settings before named given facts) (declared : registry.IsDeclared)
    {element : ResultType}
    (denotes : (Model.ofRegistry (registry.derived settings)).denoted? facts.element.name = some (.result element)) :
    element.isNamed given.element.name = true := by
  rcases naming.element with same | ⟨source, inNaming, isNamed, same⟩
  · rw [← same]
    exact Model.isNamed_of_denoted? denotes
  · rw [same] at denotes
    obtain ⟨identifier, typeName⟩ := declared.names_of_denoted? (declared.mem_generation inNaming) denotes
    rw [ResultType.isNamed, identifier, typeName]
    exact isNamed

/-- A declared collection is kept, and its element has the name that was given for it. -/
theorem Succeeds.keepsCollection (succeeds : registry.Succeeds settings) (declared : registry.IsDeclared)
    {before named final : ResultType} (isCollection : before.isCollection = true)
    (names : registry.NamesAs settings before named) (finishes : registry.FinishesAs settings named final)
    (inDerived : final ∈ (registry.derived settings).resultTypes) :
    ∃ given facts element,
      (Model.ofRegistry (registry.derived settings)).KeepsCollection before final given facts element := by
  obtain ⟨given, facts, naming⟩ := succeeds.namesCollection declared names isCollection
  obtain ⟨position, _, here⟩ := names
  obtain ⟨views, rfl, filled⟩ := finishes.exists_views
  have completed := Attribute.completesTo_transform (isCompleting_completing settings registry) named.shape
  rw [succeeds.staged_eq declared (declared.mem_generation (List.mem_of_getElem? here)), naming.stillCollects]
    at inDerived ⊢
  obtain ⟨element, denotes, leads⟩ :=
    (succeeds.isConsistent declared).exists_element (Model.mem_resultTypes_ofRegistry.mpr inDerived) rfl
  refine ⟨given, _, element, naming.collects, rfl, leads, naming.isNamed_element declared denotes,
    naming.identifier, ?_, ?_⟩
  · rcases naming.shape with same | same
    · left
      rw [← same]
      exact completed
    · right
      rw [← same]
      exact completed
  · rw [← naming.views]
    exact filled

/-! ## Generated collections -/

/-- A collection that no declaration asked for was generated for its element and is named after it. -/
theorem Succeeds.isGenerated (succeeds : registry.Succeeds settings) (declared : registry.IsDeclared)
    {final : ResultType} (inDerived : final ∈ (registry.derived settings).resultTypes)
    (isCollection : final.isCollection = true) (notAsked : final.isDeclaredCollection = false) :
    ∃ facts element, final.collection = some facts ∧
      (Model.ofRegistry (registry.derived settings)).resolve? facts.element = some (.result element) ∧
      final.IsGenerated element.identifier ∧ final.typeName = element.typeName ++ settings.collectionSuffix := by
  obtain ⟨facts, collects⟩ := Option.isSome_iff_exists.mp isCollection
  have generated : facts.generated = true := by simpa [ResultType.isDeclaredCollection, collects] using notAsked
  obtain ⟨position, here⟩ := List.mem_iff_getElem?.mp inDerived
  obtain ⟨before, inGeneration, _, same⟩ := declared.exists_staged here
  have sameCollection := Derivation.collection_of_withoutViews same
  obtain ⟨given, isGiven, sameName⟩ := Registry.exists_collection_of_staged (sameCollection ▸ collects)
  obtain ⟨identifier, typeName⟩ := names_of_withoutViews same
  obtain ⟨element, denotes, leads⟩ :=
    (succeeds.isConsistent declared).exists_element (Model.mem_resultTypes_ofRegistry.mpr inDerived) collects
  rcases declared.mem_resultTypes_generation inGeneration with fromNaming | ⟨_, source, sourceInGeneration, rfl⟩
  · -- What naming ends with was declared, so nothing of it is marked as generated.
    refine absurd ?_ (declared.not_generated_of_named fromNaming)
    rw [← (staged_spec settings registry before).2.2, ← sameCollection, collects, Option.map_some, generated]
  · cases isGiven
    have isSource : facts.element.name = source.identifier := sameName.symm
    rw [isSource] at denotes
    obtain ⟨sourceIdentifier, sourceTypeName⟩ := declared.names_of_denoted? sourceInGeneration denotes
    refine ⟨facts, _, collects, leads, ⟨?_, ⟨facts, collects, isSource.trans sourceIdentifier.symm, generated⟩, ?_⟩, ?_⟩
    · rw [identifier, sourceIdentifier]
      rfl
    · rw [sourceIdentifier]
      obtain ⟨inner, elementDetails, details, innerName, shape⟩ := isArrayOf_staged settings registry
        (source.isGenerated_generatedCollection settings.collectionSuffix).shape
      exact ⟨inner, elementDetails, details, innerName, (congrArg ResultType.shape same).trans shape⟩
    · rw [typeName, sourceTypeName]
      rfl

end Registry

/-! ## Models -/

/-- Every model of an evaluation preserves what was declared. -/
theorem evaluate_preserves {settings : Settings} {declarations : List Declaration} {model : Model}
    (evaluated : evaluate settings declarations = .ok model) :
    model.Preserves settings (declaredRegistry declarations) := by
  obtain ⟨registry, declares, succeeds, rfl⟩ := evaluate_eq_ok_iff.mp evaluated
  rw [declares.eq_declaredRegistry]
  have declared := declares.isDeclared
  have consistent := succeeds.isConsistent declared
  have completing := Registry.isCompleting_completing settings registry
  refine ⟨declared.isAscending, consistent.noShortcut, ?api, ?services, ?userTypes, ?plain, ?collections, ?generated⟩
  case api =>
    rw [Model.ofRegistry, declared.api_derived]
    exact optionRel_map_of_forall (Api.completesTo_mapShapes completing) registry.api
  case services =>
    exact ⟨_, forall₂_map_of_forall (Service.completesTo_shareErrors completing) registry.services,
      declared.services_derived.symm⟩
  case userTypes =>
    exact ⟨_, forall₂_map_of_forall (UserType.completesTo_mapShape completing) registry.userTypes,
      declared.userTypes_derived.symm⟩
  case plain =>
    have corresponds := succeeds.corresponds declared (fun resultType => !resultType.isCollection)
      (fun left right sameSort => by simp [ResultType.isCollection_eq, sameSort])
      fun resultType isGenerated => by simp [ResultType.isCollection_eq, isGenerated]
    refine corresponds.imp_mem fun before member final _ both => ?_
    obtain ⟨named, names, finishes⟩ := both
    exact succeeds.completesTo declared (by simpa using (List.mem_filter.mp member).2) names finishes
  case collections =>
    have corresponds := succeeds.corresponds declared ResultType.isDeclaredCollection
      (fun left right sameSort => by simp [ResultType.isDeclaredCollection_eq, sameSort])
      fun resultType isGenerated => by simp [ResultType.isDeclaredCollection_eq, isGenerated]
    have sameSorts : registry.resultTypes.filter (·.isDeclaredCollection) =
        registry.resultTypes.filter (·.isCollection) :=
      List.filter_congr fun resultType member => (declared.resultTypes resultType member).isDeclaredCollection_eq
    rw [sameSorts] at corresponds
    refine corresponds.imp_mem fun before member final inDerived both => ?_
    obtain ⟨named, names, finishes⟩ := both
    exact succeeds.keepsCollection declared (List.mem_filter.mp member).2 names finishes
      (List.mem_filter.mp inDerived).1
  case generated =>
    intro resultType member
    exact succeeds.isGenerated declared (Model.mem_resultTypes_ofRegistry.mp member)

/-- Bottles with a view without a name and their declared collection, a shortcut for that and one for a collection that
nobody declares, and an error that a method inherits. -/
def storedBottles : List Declaration :=
  [.resultType "vnd.bottle" [.child "year" [.type (.primitive .int32)], .block (.view "") [.child "year" []]],
    .collectionOf "Bottle" [], .resultType "vnd.rack" [.block (.view "default") []],
    .userType "Cellar" [.type (.array (.ofType (.collectionOf "vnd.rack")))],
    .service "storage" [.error "empty" [], .block (.method "list") [.result [.type (.collectionOf "Bottle")]]]]

/-- The model has the declared collection besides the generated one. -/
theorem preserves_storedBottles :
    ∃ model, evaluate {} storedBottles = .ok model ∧ model.Preserves {} (declaredRegistry storedBottles) ∧
      model.resultTypes.toList.map (·.identifier) =
        ["vnd.bottle", "vnd.bottle; type=collection", "vnd.rack", "vnd.rack; type=collection"] :=
  exists_model (fun model => model.resultTypes.toList.map (·.identifier) ==
      ["vnd.bottle", "vnd.bottle; type=collection", "vnd.rack", "vnd.rack; type=collection"])
    (by decide +kernel) fun _ evaluated passes => ⟨evaluate_preserves evaluated, beq_iff_eq.mp passes⟩

end ApiDesign
