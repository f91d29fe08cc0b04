import ApiDesign.Proofs.Design.FirstOfKey
import ApiDesign.Proofs.Evaluation.Settled
import ApiDesign.Proofs.Evaluation.Shortcuts
import ApiDesign.Proofs.Evaluation.Staging
import ApiDesign.Proofs.ResultType.TypeName
import Mathlib.Data.List.Perm.Basic

/-!
Contract: collections of collections take their names, in whatever order they are declared.

A chain starts at a base identifier; each rank is the collection of the rank before it, given by type name. While names
are being taken, a rank has either the names of its declaration or its final ones. Under both, a type name of the chain
finds the rank it belongs to and no other, and no other rank has the identifier that one is about to take. So a run of
naming keeps to the chain, and the least rank that waits would be ready.

Owns: `CollectionChain`, its names, `CollectionChain.IsNaming`.
Does not own: elements that are given by ambiguous names (`Proofs.Evaluation.Settled`).
-/

namespace ApiDesign

/-- The names of a result type: its identifier, its type name and, of a collection, the name of its element. -/
structure ResultType.Names where
  identifier : String
  typeName : String
  element : Option String
deriving DecidableEq, Repr

def ResultType.names (resultType : ResultType) : ResultType.Names :=
  ⟨resultType.identifier, resultType.typeName, resultType.collection.map (·.element.name)⟩

/-- A base identifier and a suffix for the type names of its collections. -/
structure CollectionChain where
  base : String
  suffix : String
  visible : Text.isBlankText base = false
  ascii : TypeName.IsAscii base.toList
  unparameterized : ';' ∉ base.toList
  nonempty : suffix ≠ ""
  alphanumeric : TypeName.IsAlphanumeric suffix.toList

namespace CollectionChain

/-! ## Names -/

/-- The type name of a rank: that of the base, followed by the suffix once for each rank. -/
def typeName (chain : CollectionChain) : Nat → String
  | 0 => TypeName.derive chain.base
  | rank + 1 => chain.typeName rank ++ chain.suffix

/-- The identifier of a rank: the base, followed by the parameter of collections once for each rank. -/
def identifier (chain : CollectionChain) : Nat → String
  | 0 => chain.base
  | rank + 1 => ResultType.collectionIdentifier (chain.identifier rank)

/-- The final names of a rank. -/
def names (chain : CollectionChain) : Nat → ResultType.Names
  | 0 => ⟨chain.identifier 0, chain.typeName 0, none⟩
  | rank + 1 => ⟨chain.identifier (rank + 1), chain.typeName (rank + 1), some (chain.identifier rank)⟩

/-- The names of a rank until it takes the final ones. -/
def givenNames (chain : CollectionChain) : Nat → ResultType.Names
  | 0 => chain.names 0
  | rank + 1 =>
      ⟨ResultType.collectionIdentifier (chain.typeName rank), chain.typeName (rank + 1), some (chain.typeName rank)⟩

/-- The declaration of a rank: of the base with its clauses, or of the collection of the rank before, without any. -/
def declaration (chain : CollectionChain) (clauses : List Clause) : Nat → Declaration
  | 0 => .resultType chain.base clauses
  | rank + 1 => .collectionOf (chain.typeName rank) []

variable (chain : CollectionChain)

theorem isCamelCase_typeName : ∀ rank, TypeName.IsCamelCase (chain.typeName rank).toList
  | 0 => TypeName.isCamelCase_derive chain.ascii
  | rank + 1 => by
      rw [typeName, String.toList_append]
      exact (isCamelCase_typeName rank).append chain.alphanumeric

/-- Each rank makes the type name longer. -/
theorem strictMono_length_typeName : StrictMono fun rank => (chain.typeName rank).length := by
  refine strictMono_nat_of_lt_succ fun rank => ?_
  have positive : chain.suffix.length ≠ 0 := by simpa using chain.nonempty
  simp only [typeName, String.length_append]
  omega

theorem typeName_injective : Function.Injective chain.typeName :=
  fun _ _ same => chain.strictMono_length_typeName.injective (congrArg String.length same)

theorem lt_collectionIdentifier (element : String) : element < ResultType.collectionIdentifier element := by
  rw [String.lt_iff, ResultType.collectionIdentifier, String.toList_append]
  induction element.toList with
  | nil => decide
  | cons first rest inductionHypothesis => simpa using inductionHypothesis

/-- Identifiers ascend with the ranks. -/
theorem identifier_lt_identifier {rank later : Nat} (before : rank < later) :
    chain.identifier rank < chain.identifier later := by
  induction later with
  | zero => omega
  | succ later inductionHypothesis =>
      have next := lt_collectionIdentifier (chain.identifier later)
      rcases Nat.lt_succ_iff_lt_or_eq.mp before with earlier | rfl
      · exact String.lt_trans (inductionHypothesis earlier) next
      · exact next

theorem identifier_injective : Function.Injective chain.identifier := by
  intro left right same
  rcases Nat.lt_trichotomy left right with before | equal | after
  · exact absurd (chain.identifier_lt_identifier before) (same ▸ String.lt_irrefl _)
  · exact equal
  · exact absurd (chain.identifier_lt_identifier after) (same ▸ String.lt_irrefl _)

/-- The identifier of a collection has a parameter. -/
theorem semicolon_mem_collectionIdentifier (element : String) :
    ';' ∈ (ResultType.collectionIdentifier element).toList := by
  rw [ResultType.collectionIdentifier, String.toList_append]
  exact List.mem_append_right _ (by decide)

theorem semicolon_not_mem_typeName (rank : Nat) : ';' ∉ (chain.typeName rank).toList := by
  intro member
  have alphanumeric := (chain.isCamelCase_typeName rank).alphanumeric ';' member
  revert alphanumeric
  decide

/-- A type name of the chain is no identifier of a collection. -/
theorem typeName_ne_collectionIdentifier (rank : Nat) (element : String) :
    chain.typeName rank ≠ ResultType.collectionIdentifier element :=
  fun same => chain.semicolon_not_mem_typeName rank (same ▸ semicolon_mem_collectionIdentifier element)

/-- No type name of the chain but the first can be the base: the name derived from that one would be as long. -/
theorem eq_zero_of_typeName_eq_base {rank : Nat} (same : chain.typeName rank = chain.base) : rank = 0 := by
  have camelCase := chain.isCamelCase_typeName rank
  have sameLength : (chain.typeName 0).length = (chain.typeName rank).length := by
    rw [typeName, ← same]
    exact TypeName.length_derive camelCase.alphanumeric camelCase.ne_nil
  exact (chain.strictMono_length_typeName.injective sameLength).symm

/-! ## Finding a rank -/

theorem typeName_names (rank : Nat) : (chain.names rank).typeName = chain.typeName rank := by
  cases rank <;> rfl

theorem identifier_names (rank : Nat) : (chain.names rank).identifier = chain.identifier rank := by
  cases rank <;> rfl

theorem identifier_of_names {resultType : ResultType} {rank : Nat} (named : resultType.names = chain.names rank) :
    resultType.identifier = chain.identifier rank :=
  (congrArg ResultType.Names.identifier named).trans (chain.identifier_names rank)

theorem typeName_givenNames (rank : Nat) : (chain.givenNames rank).typeName = chain.typeName rank := by
  cases rank <;> rfl

/-- The names of a rank, while it waits for the final ones and afterwards. -/
def namesIf (waits : Prop) [Decidable waits] (rank : Nat) : ResultType.Names :=
  if waits then chain.givenNames rank else chain.names rank

theorem typeName_namesIf (waits : Prop) [Decidable waits] (rank : Nat) :
    (chain.namesIf waits rank).typeName = chain.typeName rank := by
  unfold namesIf
  split
  · exact chain.typeName_givenNames rank
  · exact chain.typeName_names rank

/-- A type name of the chain belongs to one rank only, waiting or not. -/
theorem eq_of_namesIf (waits : Prop) [Decidable waits] {rank other : Nat}
    (named : (chain.namesIf waits rank).identifier = chain.typeName other ∨
      (chain.namesIf waits rank).typeName = chain.typeName other) : rank = other := by
  rcases named with byIdentifier | byTypeName
  · cases rank with
    | zero =>
        have isBase : (chain.namesIf waits 0).identifier = chain.base := by
          unfold namesIf
          split <;> rfl
        exact (chain.eq_zero_of_typeName_eq_base (byIdentifier.symm.trans isBase)).symm
    | succ rank =>
        have isCollection : ∃ element, (chain.namesIf waits (rank + 1)).identifier =
            ResultType.collectionIdentifier element := by
          unfold namesIf
          split <;> exact ⟨_, rfl⟩
        obtain ⟨element, isCollection⟩ := isCollection
        exact absurd (byIdentifier.symm.trans isCollection) (chain.typeName_ne_collectionIdentifier other element)
  · rw [chain.typeName_namesIf] at byTypeName
    exact chain.typeName_injective byTypeName

/-- The final identifier of a collection belongs to no other rank, waiting or not. -/
theorem eq_of_identifier_namesIf (waits : Prop) [Decidable waits] {rank other : Nat}
    (same : (chain.namesIf waits rank).identifier = chain.identifier (other + 1)) : rank = other + 1 := by
  unfold namesIf at same
  split at same
  · cases rank with
    | zero =>
        have isBase : chain.identifier 0 = chain.identifier (other + 1) := same
        exact chain.identifier_injective isBase
    | succ rank =>
        -- A waiting rank is known as the collection of a type name, which is the identifier of the base at most.
        have sameElement : chain.typeName rank = chain.identifier other :=
          ResultType.collectionIdentifier_injective same
        cases other with
        | zero => rw [chain.eq_zero_of_typeName_eq_base sameElement]
        | succ other => exact absurd sameElement (chain.typeName_ne_collectionIdentifier rank _)
  · rw [chain.identifier_names] at same
    exact chain.identifier_injective same

/-! ## A run of naming -/

/-- A state of naming in which the result type at each place is the rank that the list of ranks has there, under the
names of its declaration while it waits and under the final ones afterwards. The base never waits. -/
structure IsNaming (ranks : List Nat) (naming : Naming) : Prop where
  silent : naming.diagnostics = []
  length : naming.resultTypes.length = ranks.length
  names : ∀ position rank resultType, ranks[position]? = some rank → naming.resultTypes[position]? = some resultType →
    resultType.names = chain.namesIf (position ∈ naming.pending) rank
  pending : ∀ position ∈ naming.pending, ∃ rank, ranks[position]? = some (rank + 1)

variable {chain} {ranks : List Nat} {naming : Naming}

theorem IsNaming.exists_rank (isNaming : chain.IsNaming ranks naming) {position : Nat} {resultType : ResultType}
    (here : naming.resultTypes[position]? = some resultType) : ∃ rank, ranks[position]? = some rank := by
  have below := (List.getElem?_eq_some_iff.mp here).1
  rw [isNaming.length] at below
  exact ⟨_, List.getElem?_eq_getElem below⟩

theorem IsNaming.exists_resultType (isNaming : chain.IsNaming ranks naming) {position rank : Nat}
    (here : ranks[position]? = some rank) : ∃ resultType, naming.resultTypes[position]? = some resultType := by
  have below := (List.getElem?_eq_some_iff.mp here).1
  rw [← isNaming.length] at below
  exact ⟨_, List.getElem?_eq_getElem below⟩

/-- What is found under a type name of the chain is the rank of that type name. -/
theorem IsNaming.rank_of_found (isNaming : chain.IsNaming ranks naming) {rank place : Nat}
    (found : Naming.elementPosition? (chain.typeName rank) naming.resultTypes = some place) :
    ranks[place]? = some rank := by
  obtain ⟨element, here, isNamed⟩ := Naming.elementPosition?_spec found
  obtain ⟨other, atPlace⟩ := isNaming.exists_rank here
  have named := isNaming.names place other element atPlace here
  have sameRank : other = rank := by
    refine chain.eq_of_namesIf (place ∈ naming.pending) ?_
    rw [← named]
    exact isNamed.imp_right And.left
  rw [atPlace, sameRank]

/-- A type name of the chain is found as long as its rank is there. -/
theorem IsNaming.exists_found (isNaming : chain.IsNaming ranks naming) {rank : Nat} (member : rank ∈ ranks) :
    ∃ place, Naming.elementPosition? (chain.typeName rank) naming.resultTypes = some place := by
  obtain ⟨position, here⟩ := List.mem_iff_getElem?.mp member
  obtain ⟨resultType, atPosition⟩ := isNaming.exists_resultType here
  refine Naming.exists_elementPosition? (List.mem_of_getElem? atPosition) (ResultType.isNamed_iff.mpr (.inr ?_))
  have named := isNaming.names position rank resultType here atPosition
  exact (congrArg ResultType.Names.typeName named).trans (chain.typeName_namesIf _ rank)

/-- The identifier that a rank is about to take is free. -/
theorem IsNaming.isTaken_eq_false (isNaming : chain.IsNaming ranks naming) (distinct : ranks.Nodup)
    {position rank : Nat} (here : ranks[position]? = some (rank + 1)) :
    naming.isTaken position (chain.identifier (rank + 1)) = false := by
  rw [← Bool.not_eq_true, Naming.isTaken_eq_true_iff]
  rintro ⟨place, resultType, elsewhere, atPlace, same⟩
  obtain ⟨other, otherHere⟩ := isNaming.exists_rank atPlace
  have named := isNaming.names place other resultType otherHere atPlace
  have sameRank : other = rank + 1 := by
    refine chain.eq_of_identifier_namesIf (place ∈ naming.pending) ?_
    rw [← named]
    exact same
  rw [sameRank, ← here] at otherHere
  exact elsewhere ((List.getElem?_inj (List.getElem?_eq_some_iff.mp here).1 distinct).mp otherHere.symm).symm

/-- A collection that is ready is a rank waiting for its names, and its element is the rank before, under its final
names. -/
theorem IsNaming.ready (isNaming : chain.IsNaming ranks naming) {position : Nat} {collection element : ResultType}
    (waits : position ∈ naming.pending) (ready : naming.ready? position = some (collection, element)) :
    ∃ rank, ranks[position]? = some (rank + 1) ∧ element.names = chain.names rank ∧
      (collection.nameAfter element chain.suffix).names = chain.names (rank + 1) := by
  obtain ⟨rank, here⟩ := isNaming.pending position waits
  obtain ⟨inPlace, facts, place, collects, found, settled, atPlace⟩ := Naming.ready?_eq_some ready
  have given : collection.names = chain.givenNames (rank + 1) := by
    rw [isNaming.names position (rank + 1) collection here inPlace, namesIf, if_pos waits]
  have elementName : facts.element.name = chain.typeName rank := by
    have sameElement := congrArg ResultType.Names.element given
    simpa [ResultType.names, collects, givenNames] using sameElement
  rw [elementName] at found
  have elementNames : element.names = chain.names rank := by
    rw [isNaming.names place rank element (isNaming.rank_of_found found) atPlace, namesIf, if_neg settled]
  have identifier := chain.identifier_of_names elementNames
  have typeName : element.typeName = chain.typeName rank :=
    (congrArg ResultType.Names.typeName elementNames).trans (chain.typeName_names rank)
  refine ⟨rank, here, elementNames, ?_⟩
  simp [ResultType.names, ResultType.nameAfter, collects, CollectionChain.names, CollectionChain.identifier,
    CollectionChain.typeName, identifier, typeName, TypeRef.rename]

/-- Giving a waiting rank its final names keeps to the chain. -/
theorem IsNaming.name (isNaming : chain.IsNaming ranks naming) {position rank : Nat} {named : ResultType}
    (here : ranks[position]? = some rank) (names : named.names = chain.names rank) :
    chain.IsNaming ranks { naming with
      resultTypes := naming.resultTypes.set position named,
      pending := naming.pending.filter (· != position) } := by
  refine ⟨isNaming.silent, by simpa using isNaming.length, ?_, ?_⟩
  · intro other otherRank resultType otherHere atOther
    by_cases isHere : position = other
    · subst isHere
      obtain ⟨below, rfl⟩ := List.getElem?_eq_some_iff.mp atOther
      rw [here] at otherHere
      cases otherHere
      simpa [namesIf] using names
    · rw [List.getElem?_set_ne isHere] at atOther
      have unchanged : other ∈ naming.pending.filter (· != position) ↔ other ∈ naming.pending := by
        simp [List.mem_filter, Ne.symm isHere]
      rw [isNaming.names other otherRank resultType otherHere atOther]
      simp only [namesIf, unchanged]
  · intro other stillWaits
    exact isNaming.pending other (List.mem_filter.mp stillWaits).1

/-- A step of naming keeps to the chain. -/
theorem IsNaming.settle (isNaming : chain.IsNaming ranks naming) (distinct : ranks.Nodup) {position : Nat}
    (waits : position ∈ naming.pending) : chain.IsNaming ranks (naming.settle chain.suffix position) := by
  rcases Naming.settle_cases chain.suffix naming position with ⟨_, same⟩ | ⟨collection, element, ready, outcome⟩
  · rw [same]
    exact isNaming
  · obtain ⟨rank, here, elementNames, names⟩ := isNaming.ready waits ready
    rcases outcome with ⟨taken, _⟩ | ⟨_, named⟩
    · have free : naming.isTaken position (ResultType.collectionIdentifier (chain.identifier rank)) = false :=
        isNaming.isTaken_eq_false distinct here
      rw [chain.identifier_of_names elementNames, free] at taken
      cases taken
    · rw [named]
      exact isNaming.name here names

theorem IsNaming.reaches (isNaming : chain.IsNaming ranks naming) (distinct : ranks.Nodup) {reached : Naming}
    (reaches : Naming.Reaches chain.suffix naming reached) : chain.IsNaming ranks reached := by
  induction reaches with
  | refl => exact isNaming
  | step _ waits inductionHypothesis => exact inductionHypothesis.settle distinct waits

/-- A result type as the declaration of a rank leaves it. -/
def IsDeclaredRank (chain : CollectionChain) (rank : Nat) (resultType : ResultType) : Prop :=
  match rank with
  | 0 => resultType.names = chain.names 0 ∧ resultType.collection = none
  | rank + 1 => resultType = ResultType.collectionOf (chain.typeName rank)

/-- Declared ranks are named provisionally under their given names, and all but the base are to be named. -/
theorem IsDeclaredRank.provisional {rank : Nat} {resultType : ResultType}
    (isRank : chain.IsDeclaredRank rank resultType) :
    (resultType.nameProvisionally chain.suffix).names = chain.givenNames rank ∧
      (resultType.isDeclaredCollection = true ↔ rank ≠ 0) := by
  cases rank with
  | zero =>
      obtain ⟨names, notCollection⟩ := isRank
      simp [ResultType.nameProvisionally, ResultType.isDeclaredCollection, notCollection, givenNames, names]
  | succ rank =>
      cases isRank
      have derives := TypeName.derive_eq_self (chain.isCamelCase_typeName rank)
      simp [ResultType.nameProvisionally, ResultType.isDeclaredCollection, ResultType.collectionOf, ResultType.names,
        givenNames, typeName, derives]

/-- Naming begins with the ranks under the names of their declarations. -/
theorem isNaming_start {declared : List ResultType} (ofRanks : List.Forall₂ chain.IsDeclaredRank ranks declared) :
    chain.IsNaming ranks (Naming.start chain.suffix declared) := by
  have isRank : ∀ {position rank : Nat} {resultType : ResultType}, ranks[position]? = some rank →
      declared[position]? = some resultType → chain.IsDeclaredRank rank resultType := by
    intro position rank resultType here atPosition
    obtain ⟨below, rfl⟩ := List.getElem?_eq_some_iff.mp here
    obtain ⟨declaredBelow, rfl⟩ := List.getElem?_eq_some_iff.mp atPosition
    exact ofRanks.get below declaredBelow
  refine ⟨rfl, by simp [Naming.start, ofRanks.length_eq], ?_, ?_⟩
  · intro position rank resultType here atStart
    simp only [Naming.start, List.getElem?_map] at atStart
    obtain ⟨before, atPosition, rfl⟩ := Option.map_eq_some_iff.mp atStart
    obtain ⟨given, isCollection⟩ := (isRank here atPosition).provisional
    have waits : position ∈ (Naming.start chain.suffix declared).pending ↔ rank ≠ 0 := by
      rw [Naming.mem_pending_start, ← isCollection]
      simp [atPosition]
    unfold namesIf
    split
    · exact given
    · rename_i settled
      have isBase : rank = 0 := by
        by_contra notBase
        exact settled (waits.mpr notBase)
      subst isBase
      exact given
  · intro position waits
    obtain ⟨resultType, atPosition, isCollection⟩ := Naming.mem_pending_start.mp waits
    have below := (List.getElem?_eq_some_iff.mp atPosition).1
    rw [← ofRanks.length_eq] at below
    have here : ranks[position]? = some ranks[position] := List.getElem?_eq_getElem below
    have notBase := ((isRank here atPosition).provisional.2).mp isCollection
    exact ⟨ranks[position] - 1, by rw [here]; congr 1; omega⟩

/-- When naming ends, no rank waits: the element of the least rank that waits has its final names. -/
theorem IsNaming.pending_run {declared : List ResultType}
    (isNaming : chain.IsNaming ranks (Naming.run chain.suffix declared))
    (closed : ∀ rank, rank + 1 ∈ ranks → rank ∈ ranks) :
    ∀ rank position, ranks[position]? = some rank → position ∉ (Naming.run chain.suffix declared).pending
  | 0, position, here, waits => by
      obtain ⟨rank, again⟩ := isNaming.pending position waits
      rw [here] at again
      cases again
  | rank + 1, position, here, waits => by
      obtain ⟨place, found⟩ := isNaming.exists_found (closed rank (List.mem_of_getElem? here))
      have notWaiting := pending_run isNaming closed rank place (isNaming.rank_of_found found)
      obtain ⟨collection, atPosition⟩ := isNaming.exists_resultType here
      have given := isNaming.names position (rank + 1) collection here atPosition
      rw [namesIf, if_pos waits] at given
      obtain ⟨facts, collects, elementName⟩ := Option.map_eq_some_iff.mp (congrArg ResultType.Names.element given)
      rw [← elementName] at found
      exact Naming.ready?_ne_none atPosition collects found (Naming.elementPosition?_lt found) notWaiting
        (Naming.ready?_run_eq_none waits)

/-- Naming reports nothing about a chain and gives each rank its final names. -/
theorem run_spec {declared : List ResultType} (ofRanks : List.Forall₂ chain.IsDeclaredRank ranks declared)
    (distinct : ranks.Nodup) (closed : ∀ rank, rank + 1 ∈ ranks → rank ∈ ranks) :
    (Naming.run chain.suffix declared).diagnostics = [] ∧
      (Naming.run chain.suffix declared).resultTypes.map ResultType.names = ranks.map chain.names := by
  have isNaming := (isNaming_start ofRanks).reaches distinct (Naming.reaches_run chain.suffix declared)
  refine ⟨isNaming.silent, List.ext_getElem (by simpa using isNaming.length) fun position below rankBelow => ?_⟩
  simp only [List.length_map] at below rankBelow
  have here := List.getElem?_eq_getElem rankBelow
  have named := isNaming.names position _ _ here (List.getElem?_eq_getElem below)
  rw [namesIf, if_neg (isNaming.pending_run closed _ position here)] at named
  simpa using named

/-! ## Declaring a chain -/

theorem isBlankText_typeName (chain : CollectionChain) (rank : Nat) :
    Text.isBlankText (chain.typeName rank) = false := by
  have camelCase := chain.isCamelCase_typeName rank
  obtain ⟨first, rest, split, _⟩ := camelCase.head
  have visible := TypeName.not_isBlank_of_isAlphanum (camelCase.alphanumeric first (by simp [split]))
  simp [Text.isBlankText, split, visible]

/-- A declared result type under the base identifier is the base of the chain. -/
theorem isDeclaredRank_zero {resultType : ResultType} (declared : resultType.IsDeclared)
    (identifier : resultType.identifier = chain.base) : chain.IsDeclaredRank 0 resultType := by
  rcases declared with ⟨name, isName, typeName, notCollection⟩ | ⟨element, isCollection, _, _⟩
  · rw [identifier] at isName
    refine ⟨?_, notCollection⟩
    simp [ResultType.names, CollectionChain.names, CollectionChain.identifier, CollectionChain.typeName, identifier,
      typeName, isName, notCollection]
  · rw [identifier] at isCollection
    exact absurd (isCollection ▸ semicolon_mem_collectionIdentifier element) chain.unparameterized

/-- The declaration of a rank builds it, if the clauses of the base can be carried out. -/
theorem exists_built {clauses : List Clause} (carried : ∀ clause ∈ clauses, ¬clause.HasFailed) (rank : Nat) :
    ∃ resultType, ((chain.declaration clauses rank).built?.bind Root.resultType?) = some resultType ∧
      chain.IsDeclaredRank rank resultType := by
  cases rank with
  | zero =>
      have succeeds : (chain.declaration clauses 0).built? ≠ none := by
        rw [Ne, Declaration.built?_eq_none_iff]
        rintro (blank | ⟨clause, member, failed⟩)
        · have visible := chain.visible
          rw [show Text.isBlankText chain.base = true from blank] at visible
          cases visible
        · exact carried clause member failed
      obtain ⟨root, builds⟩ := Option.ne_none_iff_exists'.mp succeeds
      have declared := Declaration.isDeclared_of_built? builds
      obtain ⟨kind, name⟩ := Declaration.kindAndName_of_built? builds
      cases root with
      | resultType held => exact ⟨held, by simp [builds, Root.resultType?], isDeclaredRank_zero declared name⟩
      | _ => cases kind
  | succ rank =>
      refine ⟨ResultType.collectionOf (chain.typeName rank), ?_, rfl⟩
      have opens : (chain.declaration clauses (rank + 1)).opening =
          .ok ⟨Kind.resultType.frame (ResultType.collectionIdentifier (chain.typeName rank)),
            .resultType (.collectionOf (chain.typeName rank)), []⟩ := by
        simp [declaration, Declaration.opening, Declaration.name, chain.isBlankText_typeName rank, Declaration.begin]
      rw [Declaration.built?, opens]
      rfl

/-- No two ranks are declared under one key. -/
theorem key_declaration_injective (chain : CollectionChain) (clauses : List Clause) :
    Function.Injective fun rank => (chain.declaration clauses rank).key := by
  have baseAlone : ∀ rank, chain.base ≠ ResultType.collectionIdentifier (chain.typeName rank) := by
    intro rank same
    exact chain.unparameterized (same ▸ semicolon_mem_collectionIdentifier _)
  intro left right same
  cases left with
  | zero =>
      cases right with
      | zero => rfl
      | succ right => exact absurd (DeclarationKey.resultType.inj same) (baseAlone right)
  | succ left =>
      cases right with
      | zero => exact absurd (DeclarationKey.resultType.inj same).symm (baseAlone left)
      | succ right =>
          have sameElement := ResultType.collectionIdentifier_injective (DeclarationKey.resultType.inj same)
          rw [chain.typeName_injective sameElement]

/-- Items that are all found stand beside what is found for them. -/
theorem forall₂_filterMap {α β : Type} {relation : α → β → Prop} {item? : α → Option β}
    (found : ∀ key, ∃ item, item? key = some item ∧ relation key item) :
    ∀ keys : List α, List.Forall₂ relation keys (keys.filterMap item?)
  | [] => .nil
  | key :: rest => by
      obtain ⟨item, isItem, related⟩ := found key
      rw [List.filterMap_cons_some isItem]
      exact .cons related (forall₂_filterMap found rest)

/-- The declarations of a chain make its ranks, in the order in which they come among whatever else. -/
theorem exists_ranks {clauses : List Clause} (carried : ∀ clause ∈ clauses, ¬clause.HasFailed) {count : Nat}
    {declarations : List Declaration}
    (chained : (declarations.filter Declaration.isResultType).Perm
      ((List.range (count + 1)).map (chain.declaration clauses))) :
    ∃ ranks, ranks.Perm (List.range (count + 1)) ∧
      List.Forall₂ chain.IsDeclaredRank ranks (Design.empty.declareEach declarations).registry.resultTypes := by
  obtain ⟨ranks, inOrder, permutation⟩ :=
    Eq.mpr (congrFun₂ (List.eq_map_comp_perm (chain.declaration clauses)) _ _) chained
  refine ⟨ranks, permutation, ?_⟩
  have distinctRanks : ranks.Nodup := permutation.nodup_iff.mpr List.nodup_range
  have distinct : ((([] ++ declarations).filter Declaration.isResultType).map Declaration.key).Nodup := by
    rw [List.nil_append, inOrder, List.map_map]
    exact distinctRanks.map (chain.key_declaration_injective clauses)
  have holds := (Design.hasDeclared_declareEach declarations).holds.resultTypes
  rw [List.filterMap_cons_none rfl, Declaration.resultTypes_firstRoots [] declarations distinct, inOrder,
    List.filterMap_map] at holds
  rw [holds]
  exact forall₂_filterMap (fun rank => exists_built carried rank) ranks

/-- The ranks stand in the order of their identifiers. -/
theorem pairwise_names (chain : CollectionChain) (count : Nat) :
    ((List.range count).map chain.names).Pairwise fun left right => left.identifier < right.identifier := by
  rw [List.pairwise_map]
  refine List.pairwise_lt_range.imp fun before => ?_
  rw [chain.identifier_names, chain.identifier_names]
  exact chain.identifier_lt_identifier before

end CollectionChain

/-! ## Preparation -/

namespace Registry

variable {settings : Settings} {registry : Registry}

/-- What is filled in leaves the names of a result type. -/
theorem names_filled (resultType : ResultType) : (registry.filled settings resultType).names = resultType.names := by
  simp only [filled, ResultType.canonicalViews, ResultType.names, ResultType.mapShape, Option.map_map]
  rfl

/-- Without shortcuts nothing is generated. -/
theorem IsDeclared.generation_of_noShortcut (declared : registry.IsDeclared)
    (noShortcut : ∀ node ∈ registry.nodes, node.type.shortcut? = none) :
    registry.generation settings = ⟨registry.named settings, [], []⟩ := by
  have noNames : (registry.named settings).shortcutNames = [] := by
    rw [declared.shortcutNames_named, List.eq_nil_iff_forall_not_mem]
    intro name member
    obtain ⟨node, inNodes, isShortcut⟩ := mem_shortcutNames.mp member
    rw [noShortcut node inNodes] at isShortcut
    cases isShortcut
  rw [generation, Generation.final, noNames]
  rfl

/-- The prepared result types have the names that naming gave them, in the order of their identifiers. -/
theorem IsDeclared.names_prepared_of_noShortcut (declared : registry.IsDeclared)
    (noShortcut : ∀ node ∈ registry.nodes, node.type.shortcut? = none) :
    ((registry.prepared settings).resultTypes.map ResultType.names).Perm
        ((registry.named settings).resultTypes.map ResultType.names) ∧
      ((registry.prepared settings).resultTypes.map ResultType.names).Pairwise fun left right =>
        left.identifier < right.identifier := by
  have sorted : (registry.prepared settings).resultTypes =
      sortByName (·.identifier) ((registry.named settings).resultTypes.map (registry.filled settings)) := by
    rw [declared.resultTypes_prepared, declared.generation_of_noShortcut noShortcut]
  have sameNames : ((registry.named settings).resultTypes.map (registry.filled settings)).map ResultType.names =
      (registry.named settings).resultTypes.map ResultType.names := by
    rw [List.map_map]
    exact List.map_congr_left fun resultType _ => names_filled resultType
  rw [sorted]
  constructor
  · rw [← sameNames]
    exact (sortByName_perm _ _).map _
  · rw [List.pairwise_map]
    refine pairwise_lt_sortByName _ _ ?_
    rw [List.map_map]
    exact declared.isIndexed_named.nodup .resultType

/-- Preparing a registry whose result types are the ranks of a chain. -/
theorem IsDeclared.prepare_ranks {chain : CollectionChain} {ranks : List Nat} {count : Nat}
    (declared : registry.IsDeclared) (sameSuffix : settings.collectionSuffix = chain.suffix)
    (noShortcut : ∀ node ∈ registry.nodes, node.type.shortcut? = none)
    (ofRanks : List.Forall₂ chain.IsDeclaredRank ranks registry.resultTypes)
    (permutation : ranks.Perm (List.range count)) :
    (registry.prepare settings).2 = [] ∧
      (registry.prepare settings).1.resultTypes.map ResultType.names = (List.range count).map chain.names := by
  have closed : ∀ rank, rank + 1 ∈ ranks → rank ∈ ranks := by
    intro rank member
    rw [permutation.mem_iff, List.mem_range] at member ⊢
    omega
  obtain ⟨silent, named⟩ := CollectionChain.run_spec ofRanks (permutation.nodup_iff.mpr List.nodup_range) closed
  rw [← sameSuffix] at silent named
  rw [← declared.resultTypes_named] at named
  obtain ⟨rearranged, ascending⟩ := declared.names_prepared_of_noShortcut noShortcut
  rw [named] at rearranged
  rw [declared.prepare_eq]
  refine ⟨silent, (rearranged.trans (permutation.map _)).eq_of_pairwise ?_ ascending (chain.pairwise_names count)⟩
  intro left right _ _ before after
  exact absurd (String.lt_trans before after) (String.lt_irrefl _)

end Registry

/-- In whatever order the ranks of a chain are declared, among whatever other declarations but of result types, and
with no shortcut anywhere, preparation finds nothing and leaves exactly these ranks, each under its final names. -/
theorem prepare_chain (settings : Settings) (chain : CollectionChain)
    (sameSuffix : settings.collectionSuffix = chain.suffix)
    {clauses : List Clause} (carried : ∀ clause ∈ clauses, ¬clause.HasFailed) {count : Nat}
    {declarations : List Declaration}
    (chained : (declarations.filter Declaration.isResultType).Perm
      ((List.range (count + 1)).map (chain.declaration clauses)))
    (noShortcut : ∀ node ∈ (Design.empty.declareEach declarations).registry.nodes, node.type.shortcut? = none) :
    let prepared := (Design.empty.declareEach declarations).registry.prepare settings
    prepared.2 = [] ∧ prepared.1.resultTypes.map ResultType.names = (List.range (count + 1)).map chain.names := by
  obtain ⟨ranks, permutation, ofRanks⟩ := CollectionChain.exists_ranks carried chained
  exact (Design.isDeclared_declareEach declarations).prepare_ranks sameSuffix noShortcut ofRanks permutation

/-- Lists of lists of bottles. -/
def bottleLists : CollectionChain where
  base := "vnd.bottle"
  suffix := "List"
  visible := by decide
  ascii := by decide
  unparameterized := by decide
  nonempty := by decide
  alphanumeric := by decide

/-- The bottles and their lists from the outside in, with a service in between. -/
def bottleListsInward : List Declaration :=
  [.collectionOf "BottleList" [], .service "cellar" [], .collectionOf "Bottle" [],
    .resultType "vnd.bottle" [.block (.view "default") []]]

theorem prepare_bottleListsInward :
    let prepared := (Design.empty.declareEach bottleListsInward).registry.prepare { collectionSuffix := "List" }
    prepared.2 = [] ∧ prepared.1.resultTypes.map ResultType.names =
      [⟨"vnd.bottle", "Bottle", none⟩, ⟨"vnd.bottle; type=collection", "BottleList", some "vnd.bottle"⟩,
        ⟨"vnd.bottle; type=collection; type=collection", "BottleListList", some "vnd.bottle; type=collection"⟩] := by
  have carried : ∀ clause ∈ [Clause.block (.view "default") []], ¬clause.HasFailed := by
    intro clause member failed
    have found := (Clause.isSome_firstFailure?_iff _).mpr ⟨clause, member, failed⟩
    cases found
  have chained : (bottleListsInward.filter Declaration.isResultType).Perm
      ((List.range 3).map (bottleLists.declaration [.block (.view "default") []])) := by
    have typeName : TypeName.derive "vnd.bottle" = "Bottle" := by decide +kernel
    have ranks : (List.range 3).map (bottleLists.declaration [.block (.view "default") []]) =
        (bottleListsInward.filter Declaration.isResultType).reverse := by
      simp [List.range, List.range.loop, CollectionChain.declaration, CollectionChain.typeName, bottleLists, typeName,
        bottleListsInward, Declaration.isResultType, Declaration.kind]
    rw [ranks]
    exact (List.reverse_perm _).symm
  have names : (List.range 3).map bottleLists.names =
      [⟨"vnd.bottle", "Bottle", none⟩, ⟨"vnd.bottle; type=collection", "BottleList", some "vnd.bottle"⟩,
        ⟨"vnd.bottle; type=collection; type=collection", "BottleListList", some "vnd.bottle; type=collection"⟩] := by
    decide +kernel
  rw [← names]
  exact prepare_chain { collectionSuffix := "List" } bottleLists rfl carried chained (by decide +kernel)

end ApiDesign
