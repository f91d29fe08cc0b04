import ApiDesign.Proofs.Evaluation.Settled
import ApiDesign.Proofs.Evaluation.Shortcuts
import ApiDesign.Proofs.Evaluation.Staging
import ApiDesign.Proofs.Model.Links

/-!
Contract: which collections of a model are named after their elements.

A generated collection is named after its element, and so is a declared one that naming settles. Naming may also leave
a declared collection waiting, because its element is generated only later or waits itself. Such a collection keeps the
provisional names that the given name of its element makes, and these are the right ones only if the element was given
by its identifier and has the type name that the identifier makes.

Owns: `ResultType.IsNamedAfter`, `Registry.leftWaiting`, the exact condition, and a design that fails it.
Does not own: in which order naming settles collections (`Proofs.Evaluation.Settled`).
-/

namespace ApiDesign

/-- The names of a collection are those of its element with the parameter and the suffix. -/
structure ResultType.IsNamedAfter (suffix : String) (collection element : ResultType) : Prop where
  identifier : collection.identifier = ResultType.collectionIdentifier element.identifier
  typeName : collection.typeName = element.typeName ++ suffix

/-- The names of a collection are made from the name that was given for its element. -/
structure ResultType.IsProvisional (suffix name : String) (collection : ResultType) : Prop where
  identifier : collection.identifier = ResultType.collectionIdentifier name
  typeName : collection.typeName = TypeName.derive name ++ suffix

/-- The identifiers of the declared collections that naming leaves waiting for their elements. -/
def Registry.leftWaiting (settings : Settings) (registry : Registry) : List String :=
  let naming := Naming.run settings.collectionSuffix registry.resultTypes
  naming.pending.filterMap fun position => naming.resultTypes[position]?.map (·.identifier)

/-- Provisional names are the final ones exactly if the given name is the element's identifier and makes the element's
type name. -/
theorem ResultType.IsProvisional.isNamedAfter_iff {suffix name : String} {collection element : ResultType}
    (provisional : collection.IsProvisional suffix name) :
    collection.IsNamedAfter suffix element ↔
      name = element.identifier ∧ element.typeName = TypeName.derive element.identifier := by
  constructor
  · intro namedAfter
    have sameIdentifier : name = element.identifier :=
      ResultType.collectionIdentifier_injective (provisional.identifier.symm.trans namedAfter.identifier)
    have sameTypeName : TypeName.derive name = element.typeName :=
      (String.append_left_inj _).mp (provisional.typeName.symm.trans namedAfter.typeName)
    exact ⟨sameIdentifier, sameIdentifier ▸ sameTypeName.symm⟩
  · rintro ⟨rfl, typeName⟩
    exact ⟨provisional.identifier, by rw [provisional.typeName, typeName]⟩

namespace Registry

variable {settings : Settings} {registry : Registry}

/-! ## What is left waiting -/

theorem IsDeclared.exists_of_mem_leftWaiting (declared : registry.IsDeclared) {identifier : String}
    (waits : identifier ∈ registry.leftWaiting settings) :
    ∃ position ∈ (Naming.run settings.collectionSuffix registry.resultTypes).pending, ∃ resultType,
      (registry.named settings).resultTypes[position]? = some resultType ∧ resultType.identifier = identifier := by
  obtain ⟨position, pending, isThere⟩ := List.mem_filterMap.mp waits
  obtain ⟨resultType, here, same⟩ := Option.map_eq_some_iff.mp isThere
  rw [← declared.resultTypes_named] at here
  exact ⟨position, pending, resultType, here, same⟩

theorem IsDeclared.mem_leftWaiting_iff_mem_pending (declared : registry.IsDeclared) {position : Nat}
    {resultType : ResultType} (here : (registry.named settings).resultTypes[position]? = some resultType) :
    resultType.identifier ∈ registry.leftWaiting settings ↔
      position ∈ (Naming.run settings.collectionSuffix registry.resultTypes).pending := by
  constructor
  · intro waits
    obtain ⟨other, pending, resultType, there, same⟩ := declared.exists_of_mem_leftWaiting waits
    have samePlace := position_eq_of_identifier_eq (declared.isIndexed_named.nodup .resultType) there here same
    exact samePlace ▸ pending
  · intro pending
    rw [declared.resultTypes_named] at here
    exact List.mem_filterMap.mpr ⟨position, pending, by rw [here]; rfl⟩

theorem IsDeclared.not_mem_leftWaiting_of_unknown (declared : registry.IsDeclared) {identifier : String}
    (unknown : identifier ∉ (registry.named settings).resultTypes.map (·.identifier)) :
    identifier ∉ registry.leftWaiting settings := by
  intro waits
  obtain ⟨_, _, resultType, there, same⟩ := declared.exists_of_mem_leftWaiting waits
  exact unknown (same ▸ List.mem_map_of_mem (List.mem_of_getElem? there))

/-- A collection that naming ends with began under provisional names. -/
theorem IsDeclared.exists_start (declared : registry.IsDeclared) {position : Nat} {collection : ResultType}
    {facts : Collection} (collects : collection.collection = some facts)
    (here : (registry.named settings).resultTypes[position]? = some collection) :
    ∃ before name, (Naming.start settings.collectionSuffix registry.resultTypes).resultTypes[position]? = some before ∧
      before.collection = some { element := ⟨name, none⟩ } ∧
      before.IsProvisional settings.collectionSuffix name := by
  obtain ⟨before, declaredHere⟩ := declared.exists_declared here
  rw [declared.resultTypes_named] at here
  have startHere : (Naming.start settings.collectionSuffix registry.resultTypes).resultTypes[position]? =
      some (before.nameProvisionally settings.collectionSuffix) := by
    simp [Naming.start, declaredHere]
  cases declared.resultTypes _ (List.mem_of_getElem? declaredHere) with
  | plain _ _ _ notCollection =>
      have sameGenerated := (Naming.related_run declaredHere here).2
      simp [collects, notCollection] at sameGenerated
  | collection name identifier _ isCollection =>
      refine ⟨_, name, startHere, ?_, ?_, ?_⟩
      · rw [Naming.collection_nameProvisionally, isCollection]
      · rw [Naming.identifier_nameProvisionally, identifier]
      · simp [ResultType.nameProvisionally, isCollection]

/-! ## After naming -/

/-- After naming, a collection that waits has provisional names, and any other one is named after a result type to whose
identifier its element name was changed. -/
theorem Succeeds.names_of_named (succeeds : registry.Succeeds settings) (declared : registry.IsDeclared)
    {collection : ResultType} (member : collection ∈ (registry.named settings).resultTypes) {facts : Collection}
    (collects : collection.collection = some facts) :
    (collection.identifier ∈ registry.leftWaiting settings ∧
        collection.IsProvisional settings.collectionSuffix facts.element.name) ∨
      (collection.identifier ∉ registry.leftWaiting settings ∧
        ∃ element ∈ (registry.named settings).resultTypes, element.identifier ∉ registry.leftWaiting settings ∧
          facts.element.name = element.identifier ∧
          collection.IsNamedAfter settings.collectionSuffix element) := by
  have faithful := (Naming.reaches_run settings.collectionSuffix registry.resultTypes).faithful
    (Naming.faithful_start _ _) succeeds.noDuplicate
  obtain ⟨position, here⟩ := List.mem_iff_getElem?.mp member
  rw [declared.mem_leftWaiting_iff_mem_pending here]
  obtain ⟨before, name, startHere, given, provisional⟩ := declared.exists_start collects here
  rw [declared.resultTypes_named] at here
  by_cases pending : position ∈ (Naming.run settings.collectionSuffix registry.resultTypes).pending
  · have waits := faithful.waiting pending startHere
    rw [here] at waits
    cases waits
    rw [given] at collects
    cases collects
    exact .inl ⟨pending, provisional⟩
  · have isDeclaredCollection : before.isDeclaredCollection = true := by
      simp [ResultType.isDeclaredCollection, given]
    obtain ⟨_, place, element, _, settledPlace, there, _, settled⟩ :=
      faithful.named pending startHere isDeclaredCollection
    rw [here] at settled
    cases settled
    rw [← declared.resultTypes_named] at there
    refine .inr ⟨pending, element, List.mem_of_getElem? there,
      mt (declared.mem_leftWaiting_iff_mem_pending there).mp settledPlace, ?_, rfl, rfl⟩
    simp only [ResultType.nameAfter, given, Option.map_some, Option.some.injEq] at collects
    rw [← collects]
    rfl

/-- A collection waits exactly if its element is not among the declared result types or waits itself. -/
theorem Succeeds.mem_leftWaiting_iff (succeeds : registry.Succeeds settings) (declared : registry.IsDeclared)
    {collection : ResultType} (member : collection ∈ (registry.named settings).resultTypes) {facts : Collection}
    (collects : collection.collection = some facts) :
    collection.identifier ∈ registry.leftWaiting settings ↔
      ∀ element, (registry.named settings).resultType? facts.element.name = some element →
        element.identifier ∈ registry.leftWaiting settings := by
  constructor
  · intro waits element found
    obtain ⟨position, here⟩ := List.mem_iff_getElem?.mp member
    have pending := (declared.mem_leftWaiting_iff_mem_pending here).mp waits
    obtain ⟨place, foundAt, there⟩ := Option.bind_eq_some_iff.mp found
    rw [declared.mem_leftWaiting_iff_mem_pending there]
    rw [declared.isIndexed_named.resultTypePosition?_eq] at foundAt
    rw [declared.resultTypes_named] at here there foundAt
    -- A run ends only when nothing that waits is ready, so an element that is found must wait.
    by_contra settledPlace
    exact Naming.ready?_ne_none here collects foundAt (List.getElem?_eq_some_iff.mp there).1 settledPlace
      (Naming.ready?_run_eq_none pending)
  · intro elementWaits
    rcases succeeds.names_of_named declared member collects with
      ⟨waits, _⟩ | ⟨_, element, inNaming, notWaiting, given, _⟩
    · exact waits
    · refine absurd (elementWaits element ?_) notWaiting
      rw [declared.isIndexed_named.resultType?_eq, given,
        (find?_eq_some_iff_mem (declared.isIndexed_named.nodup .resultType)).mpr ⟨inNaming, rfl⟩, Option.some_or]

/-! ## After generation -/

/-- The same after generation, which names every collection after its element that it adds. -/
theorem Succeeds.names_of_generation (succeeds : registry.Succeeds settings) (declared : registry.IsDeclared)
    {collection : ResultType} (member : collection ∈ (registry.generation settings).registry.resultTypes)
    {facts : Collection} (collects : collection.collection = some facts) :
    (collection.identifier ∈ registry.leftWaiting settings ∧
        collection.IsProvisional settings.collectionSuffix facts.element.name) ∨
      (collection.identifier ∉ registry.leftWaiting settings ∧
        ∃ element ∈ (registry.generation settings).registry.resultTypes, facts.element.name = element.identifier ∧
          collection.IsNamedAfter settings.collectionSuffix element) := by
  rcases declared.mem_resultTypes_generation member with fromNaming | ⟨unknown, element, inGeneration, rfl⟩
  · refine (succeeds.names_of_named declared fromNaming collects).imp_right ?_
    rintro ⟨notWaiting, element, inNaming, _, given, namedAfter⟩
    exact ⟨notWaiting, element, declared.mem_generation inNaming, given, namedAfter⟩
  · refine .inr ⟨declared.not_mem_leftWaiting_of_unknown unknown, element, inGeneration, ?_, rfl, rfl⟩
    cases collects
    rfl

/-- After generation a collection waits exactly if it was not generated and its element is not among the declared
result types or waits itself. -/
theorem Succeeds.mem_leftWaiting_iff_of_generation (succeeds : registry.Succeeds settings)
    (declared : registry.IsDeclared) {collection : ResultType}
    (member : collection ∈ (registry.generation settings).registry.resultTypes) {facts : Collection}
    (collects : collection.collection = some facts) :
    collection.identifier ∈ registry.leftWaiting settings ↔
      facts.generated = false ∧ ∀ element, (registry.named settings).resultType? facts.element.name = some element →
        element.identifier ∈ registry.leftWaiting settings := by
  rcases declared.mem_resultTypes_generation member with fromNaming | ⟨unknown, element, _, rfl⟩
  · have notGenerated : facts.generated = false := by
      simpa [collects] using declared.not_generated_of_named fromNaming
    rw [succeeds.mem_leftWaiting_iff declared fromNaming collects, and_iff_right notGenerated]
  · cases collects
    refine iff_of_false (declared.not_mem_leftWaiting_of_unknown unknown) fun both => ?_
    cases both.1

end Registry

/-! ## Models -/

/-- In every model, a collection is named after the result type that its element is linked to, exactly if naming did
not leave it waiting or the element was given by its identifier and has the type name that the identifier makes. And
naming leaves a collection waiting exactly if it was declared and the name of its element is that of no declared result
type, or that of one that waits itself. -/
theorem isNamedAfter_element_iff {settings : Settings} {declarations : List Declaration} {model : Model}
    (evaluated : evaluate settings declarations = .ok model) {collection : ResultType} {facts : Collection}
    (member : collection ∈ model.resultTypes) (collects : collection.collection = some facts) :
    (∃ element, model.resolve? facts.element = some (.result element) ∧
      (collection.IsNamedAfter settings.collectionSuffix element ↔
        (collection.identifier ∈ (declaredRegistry declarations).leftWaiting settings →
          facts.element.name = element.identifier ∧ element.typeName = TypeName.derive element.identifier))) ∧
      (collection.identifier ∈ (declaredRegistry declarations).leftWaiting settings ↔
        facts.generated = false ∧
          ∀ awaited, ((declaredRegistry declarations).named settings).resultType? facts.element.name = some awaited →
            awaited.identifier ∈ (declaredRegistry declarations).leftWaiting settings) := by
  obtain ⟨registry, declares, succeeds, rfl⟩ := evaluate_eq_ok_iff.mp evaluated
  have declared := declares.isDeclared
  have consistent := succeeds.isConsistent declared
  obtain ⟨element, denotes, leads⟩ := consistent.exists_element member collects
  rw [declares.eq_declaredRegistry]
  obtain ⟨position, here⟩ := Array.mem_iff_getElem?.mp member
  simp only [Model.ofRegistry, List.getElem?_toArray] at here
  obtain ⟨before, inGeneration, _, same⟩ := declared.exists_staged here
  obtain ⟨identifier, typeName⟩ := Registry.names_of_withoutViews same
  rw [Derivation.collection_of_withoutViews same] at collects
  obtain ⟨given, isGiven, sameName⟩ := Registry.exists_collection_of_staged collects
  have sameSort : given.generated = facts.generated := by
    simpa [isGiven, collects] using (Registry.staged_spec settings registry before).2.2.symm
  rw [← sameName] at denotes ⊢
  rw [identifier, ← sameSort]
  refine ⟨⟨element, leads, ?_⟩, succeeds.mem_leftWaiting_iff_of_generation declared inGeneration isGiven⟩
  rcases succeeds.names_of_generation declared inGeneration isGiven with
    ⟨waits, provisional⟩ | ⟨notWaiting, source, sourceInGeneration, givenName, namedAfter⟩
  · have stillProvisional : collection.IsProvisional settings.collectionSuffix given.element.name :=
      ⟨identifier.trans provisional.identifier, typeName.trans provisional.typeName⟩
    rw [stillProvisional.isNamedAfter_iff]
    exact ⟨fun right _ => right, fun right => right waits⟩
  · obtain ⟨final, inDerived, finalIdentifier, finalTypeName, _⟩ := declared.exists_derived sourceInGeneration
    rw [givenName, ← finalIdentifier] at denotes
    -- The name is an identifier now, so it can only denote what the source of the names became.
    have isFinal := consistent.ascending.eq_of_denoted? (by simpa [Model.ofRegistry] using inDerived) denotes
    subst isFinal
    refine ⟨fun _ waits => absurd waits notWaiting, fun _ => ⟨?_, ?_⟩⟩
    · rw [identifier, namedAfter.identifier, finalIdentifier]
    · rw [typeName, namedAfter.typeName, finalTypeName]

/-- A collection of collections of bottles, where each element is declared after its collection. -/
def stackedBottles : List Declaration :=
  [.collectionOf "BottleCollection" [], .collectionOf "Bottle" [],
    .resultType "vnd.bottle" [.block (.view "default") []]]

/-- No collection waits, so the collection of collections is named after the collection it contains. -/
theorem isNamedAfter_stackedBottles :
    ∃ model, evaluate {} stackedBottles = .ok model ∧
      ∃ collection ∈ model.resultTypes, ∃ facts element, collection.collection = some facts ∧
        model.resolve? facts.element = some (.result element) ∧ element.isCollection = true ∧
        collection.IsNamedAfter "Collection" element := by
  refine exists_model (Model.anyCollection fun _ element => element.isCollection) (by decide +kernel)
    fun model evaluated passes => ?_
  obtain ⟨collection, member, facts, element, collects, leads, stacked⟩ := Model.exists_of_anyCollection passes
  have noneWaits : (declaredRegistry stackedBottles).leftWaiting {} = [] := by decide +kernel
  obtain ⟨⟨other, leadsAgain, namedIff⟩, _⟩ := isNamedAfter_element_iff evaluated member collects
  rw [leads] at leadsAgain
  cases leadsAgain
  refine ⟨collection, member, facts, element, collects, leads, stacked, namedIff.mpr fun waits => ?_⟩
  rw [noneWaits] at waits
  cases waits

/-- A collection of a collection that a shortcut generates only after naming. -/
def lateElement : List Declaration :=
  [.resultType "a/x" [.block (.view "default") []], .userType "T" [.type (.collectionOf "a/x")],
    .collectionOf "a/x; type=collection" []]

/-- The collection keeps a provisional type name, which is even that of its element. -/
theorem exists_not_isNamedAfter :
    ∃ model, evaluate {} lateElement = .ok model ∧
      ∃ collection ∈ model.resultTypes, ∃ facts element, collection.collection = some facts ∧
        model.resolve? facts.element = some (.result element) ∧ ¬collection.IsNamedAfter "Collection" element := by
  refine exists_model (Model.anyCollection fun collection element =>
    collection.typeName != element.typeName ++ "Collection") (by decide +kernel) fun model _ passes => ?_
  obtain ⟨collection, member, facts, element, collects, leads, differs⟩ := Model.exists_of_anyCollection passes
  exact ⟨collection, member, facts, element, collects, leads,
    fun namedAfter => bne_iff_ne.mp differs namedAfter.typeName⟩

end ApiDesign
