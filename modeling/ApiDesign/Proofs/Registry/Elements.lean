import ApiDesign.Evaluation.Findings
import Mathlib.Data.List.Nodup
import Mathlib.Data.List.Perm.Subperm
import Mathlib.Logic.Function.Iterate
import Mathlib.Logic.Relation

/-!
Contract: the innermost element of a result type is the end of its chain of elements.

`Registry.Ends` follows elements by name to the end, with the number of steps. A chain that ends meets no result type
twice, because each is a different number of steps away from the end; so the bounded search that evaluation uses finds
the end of every chain that has one, and finds nothing else. A chain without an end stops at a name without a result
type or goes on forever.

Owns: `Registry.Ends`, `Registry.StepsTo`, `Registry.innermost?` in terms of both.
-/

namespace ApiDesign.Registry

variable {registry : Registry}

/-- The chain of elements, followed by name, leads in a number of steps to a result type that is no collection. -/
inductive Ends (registry : Registry) : Nat → ResultType → ResultType → Prop
  | plain {resultType : ResultType} (notCollection : resultType.collection = none) :
      Ends registry 0 resultType resultType
  | following {steps : Nat} {collection element innermost : ResultType} {facts : Collection}
      (collects : collection.collection = some facts)
      (found : registry.resultType? facts.element.name = some element)
      (onward : Ends registry steps element innermost) : Ends registry (steps + 1) collection innermost

/-- A chain has one end, at one distance. -/
theorem Ends.unique {left right : Nat} {resultType leftEnd rightEnd : ResultType}
    (leftEnds : registry.Ends left resultType leftEnd) (rightEnds : registry.Ends right resultType rightEnd) :
    left = right ∧ leftEnd = rightEnd := by
  induction leftEnds generalizing right with
  | plain notCollection =>
      cases rightEnds with
      | plain _ => exact ⟨rfl, rfl⟩
      | following collects _ _ =>
          rw [notCollection] at collects
          cases collects
  | following collects found _ inductionHypothesis =>
      cases rightEnds with
      | plain notCollection =>
          rw [notCollection] at collects
          cases collects
      | following otherCollects otherFound otherOnward =>
          rw [collects] at otherCollects
          cases otherCollects
          rw [found] at otherFound
          cases otherFound
          obtain ⟨sameSteps, sameEnd⟩ := inductionHypothesis otherOnward
          exact ⟨by rw [sameSteps], sameEnd⟩

/-- The elements on a chain are distinct: each is closer to the end than the one before. -/
theorem Ends.exists_visited {steps : Nat} {resultType innermost : ResultType}
    (ends : registry.Ends steps resultType innermost) :
    ∃ visited : List ResultType, visited.length = steps ∧ visited.Nodup ∧
      ∀ element ∈ visited, element ∈ registry.resultTypes ∧
        ∃ rest, rest < steps ∧ registry.Ends rest element innermost := by
  induction ends with
  | plain _ => exact ⟨[], rfl, List.nodup_nil, by simp⟩
  | @following steps collection element innermost facts collects found onward inductionHypothesis =>
      obtain ⟨visited, length, distinct, each⟩ := inductionHypothesis
      refine ⟨element :: visited, by simp [length], ?_, ?_⟩
      · rw [List.nodup_cons]
        refine ⟨?_, distinct⟩
        intro again
        obtain ⟨_, rest, closer, endsAgain⟩ := each element again
        have sameSteps := (onward.unique endsAgain).1
        omega
      · intro other member
        rcases List.mem_cons.mp member with same | inRest
        · subst same
          exact ⟨mem_resultTypes_of_resultType? found, steps, Nat.lt_succ_self _, onward⟩
        · obtain ⟨inRegistry, rest, closer, ends⟩ := each other inRest
          exact ⟨inRegistry, rest, by omega, ends⟩

theorem Ends.steps_le {steps : Nat} {resultType innermost : ResultType}
    (ends : registry.Ends steps resultType innermost) : steps ≤ registry.resultTypes.length := by
  obtain ⟨visited, length, distinct, each⟩ := ends.exists_visited
  rw [← length]
  exact (List.subperm_of_subset distinct fun element member => (each element member).1).length_le

/-- A chain that begins at a result type of the registry ends at one. -/
theorem Ends.mem {steps : Nat} {resultType innermost : ResultType} (ends : registry.Ends steps resultType innermost)
    (member : resultType ∈ registry.resultTypes) : innermost ∈ registry.resultTypes := by
  induction ends with
  | plain _ => exact member
  | following _ found _ inductionHypothesis => exact inductionHypothesis (mem_resultTypes_of_resultType? found)

/-! ## The bounded search -/

theorem innermostWithin?_of_ends {steps : Nat} {resultType innermost : ResultType}
    (ends : registry.Ends steps resultType innermost) {bound : Nat} (enough : steps < bound) :
    registry.innermostWithin? bound resultType = some innermost := by
  induction ends generalizing bound with
  | plain notCollection =>
      cases bound with
      | zero => omega
      | succ bound => simp [innermostWithin?, notCollection]
  | following collects found _ inductionHypothesis =>
      cases bound with
      | zero => omega
      | succ bound =>
          simp only [innermostWithin?, collects, found]
          exact inductionHypothesis (by omega)

theorem exists_ends_of_innermostWithin? {bound : Nat} {resultType innermost : ResultType}
    (found : registry.innermostWithin? bound resultType = some innermost) :
    ∃ steps, registry.Ends steps resultType innermost := by
  induction bound generalizing resultType with
  | zero => cases found
  | succ bound inductionHypothesis =>
      unfold innermostWithin? at found
      cases collects : resultType.collection with
      | none =>
          simp only [collects, Option.some.injEq] at found
          exact ⟨0, found ▸ .plain collects⟩
      | some facts =>
          simp only [collects] at found
          cases isElement : registry.resultType? facts.element.name with
          | none => simp [isElement] at found
          | some element =>
              simp only [isElement] at found
              obtain ⟨steps, onward⟩ := inductionHypothesis found
              exact ⟨steps + 1, .following collects isElement onward⟩

/-- The search for the innermost element finds exactly the end of the chain. -/
theorem innermost?_eq_some_iff {resultType innermost : ResultType} :
    registry.innermost? resultType = some innermost ↔ ∃ steps, registry.Ends steps resultType innermost := by
  constructor
  · exact exists_ends_of_innermostWithin?
  · rintro ⟨steps, ends⟩
    exact innermostWithin?_of_ends ends (Nat.lt_succ_of_le ends.steps_le)

/-! ## Chains with and without an end -/

/-- One step of a chain: the name of the element of a collection leads to a result type. -/
def StepsTo (registry : Registry) (collection element : ResultType) : Prop :=
  ∃ facts, collection.collection = some facts ∧ registry.resultType? facts.element.name = some element

theorem StepsTo.unique {collection left right : ResultType} (toLeft : registry.StepsTo collection left)
    (toRight : registry.StepsTo collection right) : left = right := by
  obtain ⟨facts, collects, found⟩ := toLeft
  obtain ⟨otherFacts, otherCollects, otherFound⟩ := toRight
  rw [collects, Option.some.injEq] at otherCollects
  rw [← otherCollects, found, Option.some.injEq] at otherFound
  exact otherFound

/-- A chain ends where steps lead to a result type that is no collection. -/
theorem exists_ends_iff {resultType innermost : ResultType} :
    (∃ steps, registry.Ends steps resultType innermost) ↔
      Relation.ReflTransGen registry.StepsTo resultType innermost ∧ innermost.collection = none := by
  constructor
  · rintro ⟨steps, ends⟩
    induction ends with
    | plain notCollection => exact ⟨.refl, notCollection⟩
    | following collects found _ inductionHypothesis =>
        exact ⟨.head ⟨_, collects, found⟩ inductionHypothesis.1, inductionHypothesis.2⟩
  · rintro ⟨reaches, notCollection⟩
    induction reaches using Relation.ReflTransGen.head_induction_on with
    | refl => exact ⟨0, .plain notCollection⟩
    | head step _ inductionHypothesis =>
        obtain ⟨facts, collects, found⟩ := step
        obtain ⟨steps, onward⟩ := inductionHypothesis
        exact ⟨steps + 1, .following collects found onward⟩

/-- Whatever a chain comes by has the same end. -/
theorem exists_ends_of_reaches {resultType reached innermost : ResultType}
    (reaches : Relation.ReflTransGen registry.StepsTo resultType reached)
    (ends : ∃ steps, registry.Ends steps resultType innermost) : ∃ steps, registry.Ends steps reached innermost := by
  induction reaches with
  | refl => exact ends
  | tail _ step inductionHypothesis =>
      obtain ⟨steps, onward⟩ := inductionHypothesis
      cases onward with
      | plain notCollection =>
          obtain ⟨facts, collects, _⟩ := step
          rw [notCollection] at collects
          cases collects
      | following collects found rest =>
          have same := step.unique ⟨_, collects, found⟩
          exact ⟨_, same ▸ rest⟩

/-- A chain stops at a collection whose element name leads to no result type. -/
def Stops (registry : Registry) (resultType : ResultType) : Prop :=
  ∃ last facts, Relation.ReflTransGen registry.StepsTo resultType last ∧ last.collection = some facts ∧
    registry.resultType? facts.element.name = none

/-- A chain goes on forever: every result type on it is a collection with an element. -/
def GoesOn (registry : Registry) (resultType : ResultType) : Prop :=
  ∃ chain : Nat → ResultType, chain 0 = resultType ∧ ∀ step, registry.StepsTo (chain step) (chain (step + 1))

theorem Stops.not_ends {resultType innermost : ResultType} (stops : registry.Stops resultType) :
    ¬ ∃ steps, registry.Ends steps resultType innermost := by
  obtain ⟨last, facts, reaches, collects, missing⟩ := stops
  intro ends
  obtain ⟨steps, onward⟩ := exists_ends_of_reaches reaches ends
  cases onward with
  | plain notCollection =>
      rw [notCollection] at collects
      cases collects
  | following otherCollects otherFound _ =>
      rw [collects, Option.some.injEq] at otherCollects
      rw [← otherCollects, missing] at otherFound
      cases otherFound

theorem GoesOn.not_ends {resultType innermost : ResultType} (goesOn : registry.GoesOn resultType) :
    ¬ ∃ steps, registry.Ends steps resultType innermost := by
  obtain ⟨chain, first, each⟩ := goesOn
  rintro ⟨steps, ends⟩
  -- At the distance of the end, the chain would have to stand at the end and still have an element.
  induction ends generalizing chain with
  | plain notCollection =>
      obtain ⟨facts, collects, _⟩ := each 0
      rw [first, notCollection] at collects
      cases collects
  | following collects found _ inductionHypothesis =>
      have second := (each 0).unique ⟨_, first ▸ collects, found⟩
      exact inductionHypothesis (fun step => chain (step + 1)) second fun step => each (step + 1)

/-- A chain that neither ends nor stops has a next result type everywhere, so it can be followed forever. -/
theorem goesOn_of_not_stops {resultType : ResultType}
    (endless : ∀ innermost, ¬ ∃ steps, registry.Ends steps resultType innermost)
    (unstopped : ¬ registry.Stops resultType) : registry.GoesOn resultType := by
  have onward : ∀ reached, Relation.ReflTransGen registry.StepsTo resultType reached →
      ∃ element, registry.StepsTo reached element := by
    intro reached reaches
    cases collects : reached.collection with
    | none => exact absurd (exists_ends_iff.mpr ⟨reaches, collects⟩) (endless reached)
    | some facts =>
        cases found : registry.resultType? facts.element.name with
        | none => exact absurd ⟨reached, facts, reaches, collects, found⟩ unstopped
        | some element => exact ⟨element, facts, collects, found⟩
  choose! next isNext using onward
  have reached : ∀ step, Relation.ReflTransGen registry.StepsTo resultType (next^[step] resultType) := by
    intro step
    induction step with
    | zero => exact .refl
    | succ step inductionHypothesis =>
        rw [Function.iterate_succ_apply']
        exact inductionHypothesis.tail (isNext _ inductionHypothesis)
  refine ⟨fun step => next^[step] resultType, rfl, fun step => ?_⟩
  show registry.StepsTo (next^[step] resultType) (next^[step + 1] resultType)
  rw [Function.iterate_succ_apply']
  exact isNext _ (reached step)

/-- The bounded search follows the whole chain. It finds a result type exactly if any number of steps by element names
lead to it and it is no collection; it finds nothing exactly if the chain stops at a name without a result type or goes
on forever; and a greater bound finds the same. -/
theorem innermost?_follows_chain (registry : Registry) (resultType : ResultType) :
    (∀ innermost, registry.innermost? resultType = some innermost ↔
      Relation.ReflTransGen registry.StepsTo resultType innermost ∧ innermost.collection = none) ∧
    (registry.innermost? resultType = none ↔ registry.Stops resultType ∨ registry.GoesOn resultType) ∧
    ∀ bound, registry.resultTypes.length < bound →
      registry.innermostWithin? bound resultType = registry.innermost? resultType := by
  have finds : ∀ innermost, registry.innermost? resultType = some innermost ↔
      ∃ steps, registry.Ends steps resultType innermost := fun _ => innermost?_eq_some_iff
  refine ⟨fun innermost => (finds innermost).trans exists_ends_iff, ⟨fun nothing => ?_, fun endless => ?_⟩, ?_⟩
  · have endless : ∀ innermost, ¬ ∃ steps, registry.Ends steps resultType innermost := by
      intro innermost ends
      rw [(finds innermost).mpr ends] at nothing
      cases nothing
    by_cases stops : registry.Stops resultType
    · exact .inl stops
    · exact .inr (goesOn_of_not_stops endless stops)
  · rw [Option.eq_none_iff_forall_not_mem]
    intro innermost found
    have ends := (finds innermost).mp found
    rcases endless with stops | goesOn
    · exact stops.not_ends ends
    · exact goesOn.not_ends ends
  · intro bound enough
    apply Option.ext
    intro innermost
    rw [finds]
    constructor
    · exact exists_ends_of_innermostWithin?
    · rintro ⟨steps, ends⟩
      exact innermostWithin?_of_ends ends (Nat.lt_of_le_of_lt ends.steps_le enough)

end ApiDesign.Registry
