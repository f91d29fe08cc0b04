import ApiDesign.Proofs.Evaluation.Naming

/-!
Contract: which names a run of naming arrives at.

`Naming.Settles` says which final form a declared result type may take, without any order of steps: a collection is
named after a settled result type that answers to the given name of its element. A run without duplicates is faithful
to this relation. Where no given name is ambiguous in the end, it arrives at every form the relation allows, so two
runs over the same result types in different orders arrive at the same forms.

Owns: `Naming.Settles`, `Naming.Faithful`, `IsUnambiguous`, the comparison of two runs.
Does not own: generation and what follows it (`Proofs.Evaluation.Order`).
-/

namespace ApiDesign

/-! ## Ambiguity -/

/-- A name leads to one result type at most: it is the identifier of one that is no collection, or no two result types
have it as identifier or as type name. -/
def IsUnambiguous (name : String) (resultTypes : List ResultType) : Prop :=
  (∃ resultType ∈ resultTypes, resultType.identifier = name ∧ resultType.isCollection = false) ∨
    ∀ left ∈ resultTypes, ∀ right ∈ resultTypes, left.isNamed name = true → right.isNamed name = true →
      left.identifier = right.identifier

instance (name : String) (resultTypes : List ResultType) : Decidable (IsUnambiguous name resultTypes) := by
  unfold IsUnambiguous
  infer_instance

theorem ResultType.isNamed_iff {name : String} {resultType : ResultType} :
    resultType.isNamed name = true ↔ resultType.identifier = name ∨ resultType.typeName = name := by
  simp [ResultType.isNamed]

theorem ResultType.isDeclaredCollection_iff {resultType : ResultType} :
    resultType.isDeclaredCollection = true ↔
      ∃ facts, resultType.collection = some facts ∧ facts.generated = false := by
  unfold ResultType.isDeclaredCollection
  cases resultType.collection <;> simp

/-- Distinct identifiers tell places apart. -/
theorem position_eq_of_identifier_eq {resultTypes : List ResultType}
    (distinct : (resultTypes.map (·.identifier)).Nodup) {first second : Nat} {left right : ResultType}
    (atFirst : resultTypes[first]? = some left) (atSecond : resultTypes[second]? = some right)
    (same : left.identifier = right.identifier) : first = second := by
  have firstBelow := (List.getElem?_eq_some_iff.mp atFirst).1
  have namedFirst : (resultTypes.map (·.identifier))[first]? = some left.identifier := by simp [atFirst]
  have namedSecond : (resultTypes.map (·.identifier))[second]? = some left.identifier := by simp [atSecond, same]
  exact (List.getElem?_inj (by simpa using firstBelow) distinct).mp (namedFirst.trans namedSecond.symm)

namespace Naming

variable {suffix : String} {given : List ResultType}

/-! ## Final forms -/

/-- A result type answers to the name of an element: by its identifier or, unless a result type that needs no naming
has that identifier, by its type name. -/
def Answers (given : List ResultType) (name : String) (element : ResultType) : Prop :=
  element.identifier = name ∨
    (element.typeName = name ∧
      ∀ plain ∈ given, plain.isDeclaredCollection = false → plain.identifier ≠ name)

theorem Answers.isNamed {name : String} {element : ResultType} (answers : Answers given name element) :
    element.isNamed name = true := by
  rw [ResultType.isNamed_iff]
  rcases answers with identifier | ⟨typeName, _⟩
  · exact .inl identifier
  · exact .inr typeName

/-- The final forms that naming may give to result types. -/
inductive Settles (suffix : String) (given : List ResultType) : ResultType → ResultType → Prop
  | plain {resultType : ResultType} (member : resultType ∈ given)
      (notCollection : resultType.isDeclaredCollection = false) : Settles suffix given resultType resultType
  | following {collection before element : ResultType} {facts : Collection} (member : collection ∈ given)
      (collects : collection.collection = some facts) (declared : facts.generated = false)
      (settled : Settles suffix given before element) (answers : Answers given facts.element.name element) :
      Settles suffix given collection (collection.nameAfter element suffix)

/-- Final forms do not depend on the order of the result types. -/
theorem Settles.of_mem_iff {other : List ResultType} (same : ∀ resultType, resultType ∈ given ↔ resultType ∈ other)
    {before after : ResultType} (settles : Settles suffix given before after) :
    Settles suffix other before after := by
  induction settles with
  | plain member notCollection => exact .plain ((same _).mp member) notCollection
  | following member collects declared _ answers inductionHypothesis =>
      refine .following ((same _).mp member) collects declared inductionHypothesis ?_
      rcases answers with identifier | ⟨typeName, free⟩
      · exact .inl identifier
      · exact .inr ⟨typeName, fun plain inOther => free plain ((same plain).mpr inOther)⟩

/-! ## Element look-up -/

theorem elementPosition?_spec {name : String} {resultTypes : List ResultType} {place : Nat}
    (found : elementPosition? name resultTypes = some place) :
    ∃ element, resultTypes[place]? = some element ∧
      (element.identifier = name ∨
        (element.typeName = name ∧ ∀ other ∈ resultTypes, other.identifier ≠ name)) := by
  unfold elementPosition? at found
  rcases Option.or_eq_some_iff.mp found with byIdentifier | ⟨noIdentifier, byTypeName⟩
  · obtain ⟨below, named, _⟩ := List.findIdx?_eq_some_iff_getElem.mp byIdentifier
    exact ⟨_, List.getElem?_eq_getElem below, .inl (by simpa using named)⟩
  · obtain ⟨below, named, _⟩ := List.findIdx?_eq_some_iff_getElem.mp byTypeName
    refine ⟨_, List.getElem?_eq_getElem below, .inr ⟨by simpa using named, ?_⟩⟩
    intro other member
    have refused := List.findIdx?_eq_none_iff.mp noIdentifier other member
    simpa using refused

theorem exists_elementPosition? {name : String} {resultTypes : List ResultType} {element : ResultType}
    (member : element ∈ resultTypes) (named : element.isNamed name = true) :
    ∃ place, elementPosition? name resultTypes = some place := by
  rw [← Option.isSome_iff_exists]
  unfold elementPosition?
  rw [Option.isSome_or, List.findIdx?_isSome, List.findIdx?_isSome, Bool.or_eq_true, List.any_eq_true,
    List.any_eq_true]
  rcases ResultType.isNamed_iff.mp named with identifier | typeName
  · exact .inl ⟨element, member, by simpa using identifier⟩
  · exact .inr ⟨element, member, by simpa using typeName⟩

/-! ## Faithful states -/

/-- A state of naming that agrees with the final forms: what waits is as it was given, what needs no naming stays, and
what is settled is named after something settled. -/
structure Faithful (suffix : String) (given : List ResultType) (naming : Naming) : Prop where
  length : naming.resultTypes.length = given.length
  declared : ∀ position ∈ naming.pending,
    ∃ collection, given[position]? = some collection ∧ collection.isDeclaredCollection = true
  waiting : ∀ {position : Nat} {collection : ResultType}, position ∈ naming.pending →
    given[position]? = some collection → naming.resultTypes[position]? = some collection
  plain : ∀ {position : Nat} {resultType : ResultType}, given[position]? = some resultType →
    resultType.isDeclaredCollection = false → naming.resultTypes[position]? = some resultType
  named : ∀ {position : Nat} {collection : ResultType}, position ∉ naming.pending → given[position]? = some collection →
    collection.isDeclaredCollection = true →
    ∃ facts place element, collection.collection = some facts ∧ place ∉ naming.pending ∧
      naming.resultTypes[place]? = some element ∧ Answers given facts.element.name element ∧
      naming.resultTypes[position]? = some (collection.nameAfter element suffix)
  settles : ∀ {position : Nat} {before after : ResultType}, position ∉ naming.pending → given[position]? = some before →
    naming.resultTypes[position]? = some after → Settles suffix given before after

theorem faithful_start (suffix : String) (declared : List ResultType) :
    Faithful suffix (start suffix declared).resultTypes (start suffix declared) := by
  have pendingIff : ∀ position, position ∈ (start suffix declared).pending ↔
      ∃ resultType, (start suffix declared).resultTypes[position]? = some resultType ∧
        resultType.isDeclaredCollection = true := by
    intro position
    rw [mem_pending_start]
    simp only [start, List.getElem?_map, Option.map_eq_some_iff]
    constructor
    · rintro ⟨resultType, here, isCollection⟩
      refine ⟨_, ⟨resultType, here, rfl⟩, ?_⟩
      simpa [ResultType.isDeclaredCollection] using isCollection
    · rintro ⟨_, ⟨resultType, here, rfl⟩, isCollection⟩
      refine ⟨resultType, here, ?_⟩
      simpa [ResultType.isDeclaredCollection] using isCollection
  refine ⟨rfl, fun position => (pendingIff position).mp, fun _ here => here, fun here _ => here, ?_, ?_⟩
  · intro position collection notPending here isCollection
    exact absurd ((pendingIff position).mpr ⟨collection, here, isCollection⟩) notPending
  · intro position before after notPending atBefore atAfter
    rw [atBefore] at atAfter
    cases atAfter
    refine .plain (List.mem_of_getElem? atBefore) ?_
    rw [← Bool.not_eq_true]
    intro isCollection
    exact notPending ((pendingIff position).mpr ⟨before, atBefore, isCollection⟩)

/-- An element found in a faithful state answers to its name. -/
theorem Faithful.answers {naming : Naming} (faithful : Faithful suffix given naming) {name : String} {place : Nat}
    {element : ResultType} (found : elementPosition? name naming.resultTypes = some place)
    (here : naming.resultTypes[place]? = some element) : Answers given name element := by
  obtain ⟨other, inPlace, named⟩ := elementPosition?_spec found
  rw [here] at inPlace
  cases inPlace
  refine named.imp_right fun both => ⟨both.1, ?_⟩
  intro plain member notCollection
  obtain ⟨position, atPosition⟩ := List.mem_iff_getElem?.mp member
  exact both.2 plain (List.mem_of_getElem? (faithful.plain atPosition notCollection))

theorem Faithful.exists_given {naming : Naming} (faithful : Faithful suffix given naming) {position : Nat}
    {resultType : ResultType} (here : naming.resultTypes[position]? = some resultType) :
    ∃ before, given[position]? = some before := by
  have below : position < given.length := by
    rw [← faithful.length]
    exact (List.getElem?_eq_some_iff.mp here).1
  exact ⟨_, List.getElem?_eq_getElem below⟩

theorem Faithful.isDeclaredCollection_of_mem_pending {naming : Naming} (faithful : Faithful suffix given naming)
    {position : Nat} (pending : position ∈ naming.pending) {resultType : ResultType}
    (givenHere : given[position]? = some resultType) : resultType.isDeclaredCollection = true := by
  obtain ⟨collection, there, declared⟩ := faithful.declared position pending
  rw [givenHere] at there
  cases there
  exact declared

/-- What is ready in a faithful state is as it was given, and its element is settled and answers to its name. -/
theorem Faithful.exists_of_ready {naming : Naming} (faithful : Faithful suffix given naming) {position : Nat}
    (pending : position ∈ naming.pending) {collection element : ResultType}
    (ready : naming.ready? position = some (collection, element)) :
    given[position]? = some collection ∧
      ∃ facts place before, collection.collection = some facts ∧ facts.generated = false ∧
        place ∉ naming.pending ∧ naming.resultTypes[place]? = some element ∧
        Settles suffix given before element ∧ Answers given facts.element.name element := by
  obtain ⟨here, facts, place, collects, found, placeSettled, atPlace⟩ := ready?_eq_some ready
  obtain ⟨provisional, givenHere, isCollection⟩ := faithful.declared position pending
  have waits := faithful.waiting pending givenHere
  rw [here] at waits
  cases waits
  obtain ⟨otherFacts, otherCollects, declared⟩ := ResultType.isDeclaredCollection_iff.mp isCollection
  rw [collects] at otherCollects
  cases otherCollects
  obtain ⟨before, givenThere⟩ := faithful.exists_given atPlace
  exact ⟨givenHere, facts, place, before, collects, declared, placeSettled, atPlace,
    faithful.settles placeSettled givenThere atPlace, faithful.answers found atPlace⟩

/-- Naming a ready collection keeps a state faithful. -/
theorem Faithful.settle {naming : Naming} {position : Nat} (faithful : Faithful suffix given naming)
    (pending : position ∈ naming.pending) {collection element : ResultType}
    (ready : naming.ready? position = some (collection, element)) :
    Faithful suffix given
      { naming with
        pending := naming.pending.filter (· != position)
        resultTypes := naming.resultTypes.set position (collection.nameAfter element suffix) } := by
  obtain ⟨givenHere, facts, place, elementBefore, collects, declared, placeSettled, atPlace, elementSettles, answers⟩ :=
    faithful.exists_of_ready pending ready
  have isCollection := faithful.isDeclaredCollection_of_mem_pending pending givenHere
  have placeElsewhere : place ≠ position := fun same => placeSettled (same ▸ pending)
  have below : position < naming.resultTypes.length := (List.getElem?_eq_some_iff.mp (ready?_eq_some ready).1).1
  have still : ∀ {other : Nat}, other ≠ position →
      (naming.resultTypes.set position (collection.nameAfter element suffix))[other]? = naming.resultTypes[other]? :=
    fun elsewhere => List.getElem?_set_ne (Ne.symm elsewhere)
  have atPosition : (naming.resultTypes.set position (collection.nameAfter element suffix))[position]? =
      some (collection.nameAfter element suffix) := by
    rw [List.getElem?_set_self below]
  have notWaiting : ∀ {other : Nat}, other ∉ naming.pending.filter (· != position) → other ≠ position →
      other ∉ naming.pending := by
    intro other absent elsewhere waits
    exact absent (List.mem_filter.mpr ⟨waits, by simpa using elsewhere⟩)
  have settledStays : ∀ {other : Nat}, other ∉ naming.pending → other ∉ naming.pending.filter (· != position) :=
    fun absent member => absent (List.mem_filter.mp member).1
  refine ⟨?length, ?declared, ?waiting, ?plain, ?named, ?settles⟩
  case length =>
    simpa using faithful.length
  case declared =>
    intro other member
    exact faithful.declared other (List.mem_filter.mp member).1
  case waiting =>
    intro other provisional member givenThere
    obtain ⟨waits, elsewhere⟩ := List.mem_filter.mp member
    rw [still (by simpa using elsewhere)]
    exact faithful.waiting waits givenThere
  case plain =>
    intro other resultType givenThere notCollection
    have elsewhere : other ≠ position := by
      intro same
      rw [same, givenHere] at givenThere
      cases givenThere
      rw [isCollection] at notCollection
      cases notCollection
    rw [still elsewhere]
    exact faithful.plain givenThere notCollection
  case named =>
    intro other provisional absent givenThere declaredThere
    by_cases same : other = position
    · subst same
      rw [givenHere] at givenThere
      cases givenThere
      exact ⟨facts, place, element, collects, settledStays placeSettled, by rw [still placeElsewhere]; exact atPlace,
        answers, atPosition⟩
    · obtain ⟨otherFacts, otherPlace, otherElement, otherCollects, otherSettled, atOther, otherAnswers, otherNamed⟩ :=
        faithful.named (notWaiting absent same) givenThere declaredThere
      have elsewhere : otherPlace ≠ position := fun equal => otherSettled (equal ▸ pending)
      exact ⟨otherFacts, otherPlace, otherElement, otherCollects, settledStays otherSettled,
        by rw [still elsewhere]; exact atOther, otherAnswers, by rw [still same]; exact otherNamed⟩
  case settles =>
    intro other before after absent givenThere atOther
    by_cases same : other = position
    · subst same
      rw [givenHere] at givenThere
      cases givenThere
      rw [atPosition] at atOther
      cases atOther
      exact .following (List.mem_of_getElem? givenHere) collects declared elementSettles answers
    · rw [still same] at atOther
      exact faithful.settles (notWaiting absent same) givenThere atOther

/-- As long as no duplicate is found, a run is faithful. -/
theorem Reaches.faithful {start reached : Naming} (reaches : Reaches suffix start reached)
    (faithfulStart : Faithful suffix given start) (noDuplicate : reached.diagnostics = []) :
    Faithful suffix given reached := by
  induction reaches with
  | refl => exact faithfulStart
  | @step before position _ pending inductionHypothesis =>
      rcases settle_cases suffix before position with ⟨_, same⟩ | ⟨collection, element, ready, ⟨_, taken⟩ | ⟨_, named⟩⟩
      · rw [same] at noDuplicate ⊢
        exact inductionHypothesis noDuplicate
      · rw [taken] at noDuplicate
        simp at noDuplicate
      · rw [named] at noDuplicate ⊢
        exact (inductionHypothesis noDuplicate).settle pending ready

/-! ## The end of a run -/

/-- The end of naming: faithful, with distinct identifiers, nothing that could still be named, and no given name of an
element ambiguous. -/
structure Complete (suffix : String) (given : List ResultType) (naming : Naming) : Prop
    extends Faithful suffix given naming where
  distinct : (naming.resultTypes.map (·.identifier)).Nodup
  stuck : ∀ position ∈ naming.pending, naming.ready? position = none
  unambiguous : ∀ collection ∈ given, ∀ facts, collection.collection = some facts → facts.generated = false →
    IsUnambiguous facts.element.name naming.resultTypes

namespace Complete

variable {naming : Naming}

/-- What has been named is a collection, so a result type that is none was given as it is. -/
theorem plain_of_not_isCollection (complete : Complete suffix given naming) {position : Nat}
    {resultType : ResultType} (here : naming.resultTypes[position]? = some resultType)
    (notCollection : resultType.isCollection = false) :
    given[position]? = some resultType ∧ position ∉ naming.pending := by
  obtain ⟨before, givenHere⟩ := complete.exists_given here
  have notDeclared : before.isDeclaredCollection = false := by
    rw [← Bool.not_eq_true]
    intro declared
    obtain ⟨facts, collects, _⟩ := ResultType.isDeclaredCollection_iff.mp declared
    by_cases pending : position ∈ naming.pending
    · rw [complete.waiting pending givenHere] at here
      cases here
      simp [ResultType.isCollection, collects] at notCollection
    · obtain ⟨_, _, element, _, _, _, _, named⟩ := complete.named pending givenHere declared
      rw [named] at here
      cases here
      simp [ResultType.isCollection, ResultType.nameAfter, collects] at notCollection
  have same := complete.plain givenHere notDeclared
  rw [here] at same
  refine ⟨by rw [givenHere, Option.some.inj same], ?_⟩
  intro pending
  rw [complete.isDeclaredCollection_of_mem_pending pending givenHere] at notDeclared
  cases notDeclared

/-- Two result types that answer to an unambiguous name are the same. -/
theorem position_eq_of_answers (complete : Complete suffix given naming) {name : String}
    (unambiguous : IsUnambiguous name naming.resultTypes) {first second : Nat} {left right : ResultType}
    (atFirst : naming.resultTypes[first]? = some left) (atSecond : naming.resultTypes[second]? = some right)
    (leftAnswers : Answers given name left) (rightAnswers : Answers given name right) : first = second := by
  apply position_eq_of_identifier_eq complete.distinct atFirst atSecond
  rcases unambiguous with ⟨plain, member, identifier, notCollection⟩ | atMostOne
  · obtain ⟨position, atPosition⟩ := List.mem_iff_getElem?.mp member
    obtain ⟨givenThere, _⟩ := complete.plain_of_not_isCollection atPosition notCollection
    have notDeclared : plain.isDeclaredCollection = false := by
      rw [← Bool.not_eq_true]
      intro declared
      obtain ⟨facts, collects, _⟩ := ResultType.isDeclaredCollection_iff.mp declared
      simp [ResultType.isCollection, collects] at notCollection
    have byIdentifier : ∀ {element : ResultType}, Answers given name element → element.identifier = name := by
      intro element answers
      rcases answers with same | ⟨_, free⟩
      · exact same
      · exact absurd identifier (free plain (List.mem_of_getElem? givenThere) notDeclared)
    rw [byIdentifier leftAnswers, byIdentifier rightAnswers]
  · exact atMostOne left (List.mem_of_getElem? atFirst) right (List.mem_of_getElem? atSecond) leftAnswers.isNamed
      rightAnswers.isNamed

/-- A collection whose element is settled is settled itself, for otherwise it would be ready. -/
theorem not_mem_pending_of_answers (complete : Complete suffix given naming) {position place : Nat}
    {collection element : ResultType} {facts : Collection} (givenHere : given[position]? = some collection)
    (collects : collection.collection = some facts) (declared : facts.generated = false)
    (settled : place ∉ naming.pending) (atPlace : naming.resultTypes[place]? = some element)
    (answers : Answers given facts.element.name element) : position ∉ naming.pending := by
  intro pending
  have unambiguous := complete.unambiguous collection (List.mem_of_getElem? givenHere) facts collects declared
  obtain ⟨found, lookup⟩ := exists_elementPosition? (List.mem_of_getElem? atPlace) answers.isNamed
  have below := elementPosition?_lt lookup
  have same : found = place :=
    complete.position_eq_of_answers unambiguous (List.getElem?_eq_getElem below) atPlace
      (complete.toFaithful.answers lookup (List.getElem?_eq_getElem below)) answers
  refine ready?_ne_none (complete.waiting pending givenHere) collects lookup below ?_ (complete.stuck position pending)
  rw [same]
  exact settled

/-- A complete state has arrived at every final form there is. -/
theorem exists_of_settles (complete : Complete suffix given naming) {before after : ResultType}
    (settles : Settles suffix given before after) :
    ∃ position, position ∉ naming.pending ∧ given[position]? = some before ∧
      naming.resultTypes[position]? = some after := by
  induction settles with
  | @plain resultType member notCollection =>
      obtain ⟨position, givenHere⟩ := List.mem_iff_getElem?.mp member
      refine ⟨position, ?_, givenHere, complete.plain givenHere notCollection⟩
      intro pending
      rw [complete.isDeclaredCollection_of_mem_pending pending givenHere] at notCollection
      cases notCollection
  | @following collection before element facts member collects declared _ answers inductionHypothesis =>
      obtain ⟨place, settled, _, atPlace⟩ := inductionHypothesis
      obtain ⟨position, givenHere⟩ := List.mem_iff_getElem?.mp member
      have notPending := complete.not_mem_pending_of_answers givenHere collects declared settled atPlace answers
      refine ⟨position, notPending, givenHere, ?_⟩
      have isCollection := ResultType.isDeclaredCollection_iff.mpr ⟨facts, collects, declared⟩
      obtain ⟨otherFacts, otherPlace, otherElement, otherCollects, _, atOther, otherAnswers, named⟩ :=
        complete.named notPending givenHere isCollection
      rw [collects] at otherCollects
      cases otherCollects
      have unambiguous := complete.unambiguous collection member facts collects declared
      have same := complete.position_eq_of_answers unambiguous atOther atPlace otherAnswers answers
      rw [same, atPlace] at atOther
      cases atOther
      exact named

end Complete

/-! ## Two runs -/

/-- Provisional identifiers are made from the given names of the elements. -/
def HasGivenIdentifiers (given : List ResultType) : Prop :=
  ∀ collection ∈ given, ∀ facts, collection.collection = some facts → facts.generated = false →
    collection.identifier = ResultType.collectionIdentifier facts.element.name

section TwoRuns

variable {other : List ResultType}

/-- Where one order of the result types ends complete, a step in another order finds no identifier taken: whoever has
the identifier would have the same final form. -/
theorem Faithful.not_isTaken {complete naming : Naming} (leftComplete : Complete suffix given complete)
    (sameMembers : ∀ resultType, resultType ∈ other ↔ resultType ∈ given)
    (distinct : (other.map (·.identifier)).Nodup) (givenIdentifiers : HasGivenIdentifiers other)
    (faithful : Faithful suffix other naming) {position : Nat} (pending : position ∈ naming.pending)
    {collection element : ResultType} (ready : naming.ready? position = some (collection, element)) :
    naming.isTaken position (ResultType.collectionIdentifier element.identifier) = false := by
  rw [← Bool.not_eq_true]
  intro taken
  obtain ⟨elsewhere, rival, differs, atRival, sameIdentifier⟩ := isTaken_eq_true_iff.mp taken
  obtain ⟨givenHere, facts, place, before, collects, declared, _, _, elementSettles, answers⟩ :=
    faithful.exists_of_ready pending ready
  have collectionSettles : Settles suffix other collection (collection.nameAfter element suffix) :=
    .following (List.mem_of_getElem? givenHere) collects declared elementSettles answers
  obtain ⟨rivalBefore, rivalGiven⟩ := faithful.exists_given atRival
  have rivalSettles : ∃ after, Settles suffix other rivalBefore after ∧
      after.identifier = ResultType.collectionIdentifier element.identifier := by
    by_cases rivalPending : elsewhere ∈ naming.pending
    · -- The rival has its provisional identifier still: its element has the name of ours, so it would be named alike.
      have same := faithful.waiting rivalPending rivalGiven
      rw [atRival] at same
      cases same
      obtain ⟨rivalFacts, rivalFactsAre, rivalDeclared⟩ := ResultType.isDeclaredCollection_iff.mp
        (faithful.isDeclaredCollection_of_mem_pending rivalPending rivalGiven)
      have member := List.mem_of_getElem? rivalGiven
      have provisionalName := givenIdentifiers _ member rivalFacts rivalFactsAre rivalDeclared
      have sameElement : rivalFacts.element.name = element.identifier :=
        ResultType.collectionIdentifier_injective (provisionalName.symm.trans sameIdentifier)
      exact ⟨_, .following member rivalFactsAre rivalDeclared elementSettles (.inl sameElement.symm), rfl⟩
    · exact ⟨rival, faithful.settles rivalPending rivalGiven atRival, sameIdentifier⟩
  have arrives : ∀ {before after : ResultType}, Settles suffix other before after →
      ∃ place : Nat, given[place]? = some before ∧ complete.resultTypes[place]? = some after := by
    intro before after settles
    obtain ⟨place, _, atGiven, atComplete⟩ := leftComplete.exists_of_settles (settles.of_mem_iff sameMembers)
    exact ⟨place, atGiven, atComplete⟩
  obtain ⟨after, rivalSettles, afterIdentifier⟩ := rivalSettles
  obtain ⟨first, firstGiven, atFirst⟩ := arrives collectionSettles
  obtain ⟨second, secondGiven, atSecond⟩ := arrives rivalSettles
  have samePlace := position_eq_of_identifier_eq leftComplete.distinct atFirst atSecond afterIdentifier.symm
  rw [samePlace, secondGiven] at firstGiven
  have sameGiven := Option.some.inj firstGiven
  refine differs (position_eq_of_identifier_eq distinct rivalGiven givenHere ?_)
  rw [sameGiven]

/-- Where one order ends complete, a run in another order finds no duplicate. -/
theorem Reaches.diagnostics_eq_nil {complete start reached : Naming} (leftComplete : Complete suffix given complete)
    (sameMembers : ∀ resultType, resultType ∈ other ↔ resultType ∈ given)
    (distinct : (other.map (·.identifier)).Nodup) (givenIdentifiers : HasGivenIdentifiers other)
    (reaches : Reaches suffix start reached) (faithfulStart : Faithful suffix other start)
    (nothingFound : start.diagnostics = []) : reached.diagnostics = [] := by
  induction reaches with
  | refl => exact nothingFound
  | @step before position reachesBefore pending inductionHypothesis =>
      rcases settle_cases suffix before position with ⟨_, same⟩ | ⟨collection, element, ready, ⟨taken, _⟩ | ⟨_, named⟩⟩
      · rw [same]
        exact inductionHypothesis
      · have faithful := reachesBefore.faithful faithfulStart inductionHypothesis
        rw [faithful.not_isTaken leftComplete sameMembers distinct givenIdentifiers pending ready] at taken
        cases taken
      · rw [named]
        exact inductionHypothesis

/-- What one complete order makes of a result type, another complete order makes of it too. -/
theorem Complete.mem_zip {left right : Naming} (leftComplete : Complete suffix given left)
    (rightComplete : Complete suffix other right) (sameMembers : ∀ resultType, resultType ∈ given ↔ resultType ∈ other)
    (distinct : (given.map (·.identifier)).Nodup) {before after : ResultType}
    (member : (before, after) ∈ given.zip left.resultTypes) :
    (before, after) ∈ other.zip right.resultTypes := by
  have zipped : ∀ {lefts rights : List ResultType} {first second : ResultType},
      (first, second) ∈ lefts.zip rights ↔
        ∃ position : Nat, lefts[position]? = some first ∧ rights[position]? = some second := by
    intro lefts rights first second
    rw [List.mem_iff_getElem?]
    simp only [List.getElem?_zip_eq_some]
  obtain ⟨position, givenHere, here⟩ := zipped.mp member
  rw [zipped]
  by_cases pending : position ∈ left.pending
  · rw [leftComplete.waiting pending givenHere] at here
    cases here
    obtain ⟨place, otherThere⟩ := List.mem_iff_getElem?.mp ((sameMembers before).mp (List.mem_of_getElem? givenHere))
    by_cases otherPending : place ∈ right.pending
    · exact ⟨place, otherThere, rightComplete.waiting otherPending otherThere⟩
    · have below : place < right.resultTypes.length := by
        rw [rightComplete.length]
        exact (List.getElem?_eq_some_iff.mp otherThere).1
      have settles := rightComplete.settles otherPending otherThere (List.getElem?_eq_getElem below)
      obtain ⟨again, notPending, givenAgain, atAgain⟩ :=
        leftComplete.exists_of_settles (settles.of_mem_iff fun resultType => (sameMembers resultType).symm)
      have samePlace := position_eq_of_identifier_eq distinct givenAgain givenHere rfl
      exact absurd (samePlace ▸ pending) notPending
  · have settles := leftComplete.settles pending givenHere here
    obtain ⟨place, _, otherThere, atPlace⟩ := rightComplete.exists_of_settles (settles.of_mem_iff sameMembers)
    exact ⟨place, otherThere, atPlace⟩

/-- Two complete orders of the same result types arrive at the same result types. -/
theorem Complete.perm {left right : Naming} (leftComplete : Complete suffix given left)
    (rightComplete : Complete suffix other right) (permutation : given.Perm other)
    (distinct : (given.map (·.identifier)).Nodup) : left.resultTypes.Perm right.resultTypes := by
  have otherDistinct : (other.map (·.identifier)).Nodup := (permutation.map _).nodup_iff.mp distinct
  have nodupZip : ∀ {lefts rights : List ResultType}, (lefts.map (·.identifier)).Nodup →
      lefts.length ≤ rights.length → (lefts.zip rights).Nodup := by
    intro lefts rights nodup fits
    refine List.Nodup.of_map Prod.fst ?_
    rw [List.map_fst_zip fits]
    exact nodup.of_map _
  -- Final forms alone need not be distinct as a list; paired with what was given they are.
  have pairs : (given.zip left.resultTypes).Perm (other.zip right.resultTypes) := by
    refine (List.perm_ext_iff_of_nodup (nodupZip distinct (Nat.le_of_eq leftComplete.length.symm))
      (nodupZip otherDistinct (Nat.le_of_eq rightComplete.length.symm))).mpr ?_
    rintro ⟨before, after⟩
    exact ⟨leftComplete.mem_zip rightComplete (fun _ => permutation.mem_iff) distinct,
      rightComplete.mem_zip leftComplete (fun _ => permutation.symm.mem_iff) otherDistinct⟩
  have ends := pairs.map Prod.snd
  rwa [List.map_snd_zip (Nat.le_of_eq leftComplete.length), List.map_snd_zip (Nat.le_of_eq rightComplete.length)]
    at ends

end TwoRuns

/-! ## Runs in two orders -/

/-- Names given for elements by declared collections. -/
def ElementsUnambiguous (declared : List ResultType) (named : List ResultType) : Prop :=
  ∀ collection ∈ declared, ∀ facts, collection.collection = some facts → facts.generated = false →
    IsUnambiguous facts.element.name named

theorem mem_start {declared : List ResultType} {resultType : ResultType} :
    resultType ∈ (start suffix declared).resultTypes ↔
      ∃ before ∈ declared, before.nameProvisionally suffix = resultType := by
  simp [start]

theorem identifiers_start (suffix : String) (declared : List ResultType) :
    (start suffix declared).resultTypes.map (·.identifier) = declared.map (·.identifier) := by
  simp [start, Function.comp_def]

/-- A run that finds no duplicate, over names that stay unambiguous, ends complete. -/
theorem complete_run {declared : List ResultType} (distinct : (declared.map (·.identifier)).Nodup)
    (noDuplicate : (run suffix declared).diagnostics = [])
    (unambiguous : ElementsUnambiguous declared (run suffix declared).resultTypes) :
    Complete suffix (start suffix declared).resultTypes (run suffix declared) where
  toFaithful := (reaches_run suffix declared).faithful (faithful_start suffix declared) noDuplicate
  distinct := (reaches_run suffix declared).nodup_identifiers (by rw [identifiers_start]; exact distinct)
  stuck := fun _ pending => ready?_run_eq_none pending
  unambiguous := by
    intro collection member facts collects isDeclared
    obtain ⟨before, inDeclared, rfl⟩ := mem_start.mp member
    rw [collection_nameProvisionally] at collects
    exact unambiguous before inDeclared facts collects isDeclared

/-- Naming in two orders: where no given name is ambiguous in either, the one finds no duplicate if the other finds
none, and both arrive at the same result types. -/
theorem run_perm {left right : List ResultType} (permutation : left.Perm right)
    (distinct : (left.map (·.identifier)).Nodup) (givenIdentifiers : HasGivenIdentifiers left)
    (leftUnambiguous : ElementsUnambiguous left (run suffix left).resultTypes)
    (rightUnambiguous : ElementsUnambiguous right (run suffix right).resultTypes)
    (noDuplicate : (run suffix left).diagnostics = []) :
    (run suffix right).diagnostics = [] ∧ (run suffix left).resultTypes.Perm (run suffix right).resultTypes := by
  have leftComplete := complete_run distinct noDuplicate leftUnambiguous
  have provisional : (start suffix left).resultTypes.Perm (start suffix right).resultTypes :=
    permutation.map _
  have distinctRight : (right.map (·.identifier)).Nodup := (permutation.map _).nodup_iff.mp distinct
  have startDistinct : ((start suffix left).resultTypes.map (·.identifier)).Nodup := by
    rw [identifiers_start]
    exact distinct
  have otherDistinct : ((start suffix right).resultTypes.map (·.identifier)).Nodup := by
    rw [identifiers_start]
    exact distinctRight
  have otherIdentifiers : HasGivenIdentifiers (start suffix right).resultTypes := by
    intro collection member facts collects declared
    obtain ⟨before, inRight, rfl⟩ := mem_start.mp member
    rw [collection_nameProvisionally] at collects
    rw [identifier_nameProvisionally]
    exact givenIdentifiers before (permutation.mem_iff.mpr inRight) facts collects declared
  have alsoNone : (run suffix right).diagnostics = [] :=
    (reaches_run suffix right).diagnostics_eq_nil leftComplete (fun _ => provisional.symm.mem_iff) otherDistinct
      otherIdentifiers (faithful_start suffix right) rfl
  exact ⟨alsoNone, leftComplete.perm (complete_run distinctRight alsoNone rightUnambiguous) provisional startDistinct⟩

end Naming

end ApiDesign
