import ApiDesign.Proofs.Schema.Aliases

/-!
Contract: asking with a list of visited names comes to an end and answers what `accepts` answers.

`acceptsWithin?` asks type after type, each question one call deeper than the one that led to it. Aliases hand on the
names that were met, so a name that comes again is not asked again; a step down into the value starts with no names.
The depth of the calls is bounded: on one level of the value every call but the last meets a new name, and there are as
many levels as the value is high. No vocabulary is excluded, neither aliases in a circle nor shortcuts.

Owns: `Value.parts`, `Value.height`, `Vocabulary.acceptsWithin?`, `Vocabulary.acceptsWithin?_eq`.
Does not own: what following aliases finds (`Proofs.Schema.Acceptance`).
-/

namespace ApiDesign

/-! ## Levels of a value -/

namespace Value

/-- The values one level below a value: items, or keys and values of entries. -/
def parts : Value → List Value
  | .array items => items
  | .map entries => entries.flatMap fun entry => [entry.1, entry.2]
  | _ => []

theorem mem_parts_of_mem {entries : List (Value × Value)} {entry : Value × Value} (member : entry ∈ entries) :
    entry.1 ∈ (Value.map entries).parts ∧ entry.2 ∈ (Value.map entries).parts :=
  ⟨List.mem_flatMap.mpr ⟨entry, member, by simp⟩, List.mem_flatMap.mpr ⟨entry, member, by simp⟩⟩

mutual

/-- The number of levels of a value. -/
def height : Value → Nat
  | .array items => itemsHeight items + 1
  | .map entries => entriesHeight entries + 1
  | _ => 1

/-- The number of levels of the highest item. -/
def itemsHeight : List Value → Nat
  | [] => 0
  | item :: rest => max item.height (itemsHeight rest)

/-- The number of levels of the highest key or value. -/
def entriesHeight : List (Value × Value) → Nat
  | [] => 0
  | (key, value) :: rest => max (max key.height value.height) (entriesHeight rest)

end

theorem height_le_itemsHeight : {items : List Value} → ∀ item ∈ items, item.height ≤ itemsHeight items
  | [], _, member => by cases member
  | head :: rest, item, member => by
      rw [itemsHeight]
      rcases List.mem_cons.mp member with rfl | inRest
      · exact Nat.le_max_left _ _
      · exact Nat.le_trans (height_le_itemsHeight item inRest) (Nat.le_max_right _ _)

theorem height_le_entriesHeight : {entries : List (Value × Value)} →
    ∀ entry ∈ entries, max entry.1.height entry.2.height ≤ entriesHeight entries
  | [], _, member => by cases member
  | (key, value) :: rest, entry, member => by
      rw [entriesHeight]
      rcases List.mem_cons.mp member with rfl | inRest
      · exact Nat.le_max_left _ _
      · exact Nat.le_trans (height_le_entriesHeight entry inRest) (Nat.le_max_right _ _)

/-- What stands one level below a value has fewer levels. -/
theorem height_lt_of_mem_parts {value part : Value} (below : part ∈ value.parts) : part.height < value.height := by
  cases value with
  | array items =>
      have bounded : part.height ≤ itemsHeight items := height_le_itemsHeight part below
      rw [height]
      omega
  | map entries =>
      obtain ⟨entry, member, isPart⟩ := List.mem_flatMap.mp below
      have bounded := height_le_entriesHeight entry member
      rw [height]
      rcases List.mem_pair.mp isPart with rfl | rfl <;> omega
  | _ => cases below

end Value

namespace Vocabulary

variable {vocabulary : Vocabulary}

/-! ## Asking call by call -/

/-- Whether a type accepts a value after some names have been met on the way through aliases; nothing, if it takes
more than a depth of calls to tell. -/
def acceptsWithin? (vocabulary : Vocabulary) : Nat → List String → DataType → Value → Option Bool
  | 0, _, _, _ => none
  | depth + 1, seen, type, value =>
      match type, value with
      | .primitive builtIn, value => some (builtIn.accepts value)
      | .array element, .array items => items.allM (vocabulary.acceptsWithin? depth [] element.type)
      | .map keyShape valueShape, .map entries => entries.allM fun (key, value) => do
          if ← vocabulary.acceptsWithin? depth [] keyShape.type key then
            vocabulary.acceptsWithin? depth [] valueShape.type value
          else
            some false
      | .object fields, .map entries => entries.allM fun (key, value) =>
          match key.text?.bind (fun name => fields.lookup name) with
          | some field => vocabulary.acceptsWithin? depth [] field.type value
          | none => some false
      | .named reference, value =>
          if seen.contains reference.name then some true
          else
            match vocabulary.shapeOf reference.name with
            | none => some true
            | some shape => vocabulary.acceptsWithin? depth (reference.name :: seen) shape.type value
      | .collection reference, value =>
          if seen.contains reference.name then some true
          else
            match vocabulary.shapeOf reference.name, value with
            | none, _ => some true
            | some shape, .array items => items.allM (vocabulary.acceptsWithin? depth [] shape.type)
            | some _, _ => some false
      | _, _ => some false

/-- A test that answers for every item answers for all of them. -/
theorem allM_eq_some {α : Type} {test? : α → Option Bool} {test : α → Bool} :
    {items : List α} → (∀ item ∈ items, test? item = some (test item)) → items.allM test? = some (items.all test)
  | [], _ => rfl
  | item :: rest, answers => by
      have onRest := allM_eq_some fun other member => answers other (List.mem_cons_of_mem item member)
      simp only [List.allM, answers item List.mem_cons_self, Option.bind_eq_bind, Option.bind_some, onRest,
        List.all_cons]
      cases test item <;> rfl

theorem acceptsItems_eq_all (type : DataType) (items : List Value) :
    vocabulary.acceptsItems type items = items.all (vocabulary.accepts type) := by
  induction items with
  | nil => rfl
  | cons item rest inductionHypothesis => rw [acceptsItems, inductionHypothesis, List.all_cons]

theorem acceptsEntries_eq_all (keyType valueType : DataType) (entries : List (Value × Value)) :
    vocabulary.acceptsEntries keyType valueType entries =
      entries.all fun entry => vocabulary.accepts keyType entry.1 && vocabulary.accepts valueType entry.2 := by
  induction entries with
  | nil => rfl
  | cons entry rest inductionHypothesis => rw [acceptsEntries, inductionHypothesis, List.all_cons]

theorem acceptsMembers_eq_all (fields : List (String × Attribute)) (entries : List (Value × Value)) :
    vocabulary.acceptsMembers fields entries = entries.all fun entry =>
      match entry.1.text?.bind (fun name => fields.lookup name) with
      | some field => vocabulary.accepts field.type entry.2
      | none => false := by
  induction entries with
  | nil => rfl
  | cons entry rest inductionHypothesis =>
      rw [acceptsMembers, inductionHypothesis]
      rfl

/-- From some depth on, the calls answer for everything one level below a value. -/
def AnswersBelow (vocabulary : Vocabulary) (value : Value) (depth : Nat) : Prop :=
  ∀ part ∈ value.parts, ∀ type, vocabulary.acceptsWithin? depth [] type part = some (vocabulary.accepts type part)

section

variable {depth : Nat} {seen : List String} {asked : DataType} {value : Value}

theorem AnswersBelow.items {items : List Value} (answers : vocabulary.AnswersBelow (.array items) depth)
    (type : DataType) :
    items.allM (vocabulary.acceptsWithin? depth [] type) = some (vocabulary.acceptsItems type items) := by
  rw [acceptsItems_eq_all]
  exact allM_eq_some fun item member => answers item member type

/-- A type that is no reference answers for the value, once there are answers one level below. -/
theorem acceptsWithin?_concrete {type : DataType} (isConcrete : type.isReference = false)
    (means : vocabulary.meaning asked = .concrete type) (answers : vocabulary.AnswersBelow value depth) :
    vocabulary.acceptsWithin? (depth + 1) seen type value = some (vocabulary.accepts asked value) := by
  cases type with
  | primitive builtIn => cases value <;> simp only [acceptsWithin?, accepts, means]
  | array element =>
      cases value with
      | array items => simp only [acceptsWithin?, accepts, means, answers.items]
      | _ => simp only [acceptsWithin?, accepts, means]
  | map keyShape valueShape =>
      cases value with
      | map entries =>
          simp only [acceptsWithin?, accepts, means, acceptsEntries_eq_all]
          refine allM_eq_some fun entry member => ?_
          obtain ⟨isKey, isValue⟩ := Value.mem_parts_of_mem member
          have ofKey := answers entry.1 isKey keyShape.type
          have ofValue := answers entry.2 isValue valueShape.type
          simp only [ofKey, ofValue, Option.bind_eq_bind, Option.bind_some]
          cases vocabulary.accepts keyShape.type entry.1 <;> rfl
      | _ => simp only [acceptsWithin?, accepts, means]
  | object fields =>
      cases value with
      | map entries =>
          simp only [acceptsWithin?, accepts, means, acceptsMembers_eq_all]
          refine allM_eq_some fun entry member => ?_
          have ofValue := answers entry.2 (Value.mem_parts_of_mem member).2
          cases entry.1.text?.bind (fun name => fields.lookup name) with
          | none => rfl
          | some field => exact ofValue field.type
      | _ => simp only [acceptsWithin?, accepts, means]
  | named reference => cases isConcrete
  | collection reference => cases isConcrete

theorem accepts_of_anything (means : vocabulary.meaning asked = .anything) (value : Value) :
    vocabulary.accepts asked value = true := by
  cases value <;> simp only [accepts, means]

/-- Each call through an alias meets a new name, so as many calls as there are names left, and one more, get to the end
of the aliases. -/
theorem acceptsWithin?_of_follow (answers : ∀ further, vocabulary.AnswersBelow value (depth + further)) :
    (steps : Nat) → (seen : List String) → (type : DataType) → vocabulary.names.length ≤ steps + seen.length →
      seen.Nodup → (∀ name ∈ seen, (vocabulary.shapeOf name).isSome) →
      vocabulary.follow steps seen type = vocabulary.meaning asked → (further : Nat) →
      vocabulary.acceptsWithin? (depth + further + steps + 1) seen type value =
        some (vocabulary.accepts asked value)
  | steps, seen, .named reference, enough, distinct, known, means, further => by
      unfold follow at means
      simp only [acceptsWithin?]
      by_cases met : seen.contains reference.name
      · rw [if_pos met] at means ⊢
        rw [accepts_of_anything means.symm]
      · rw [if_neg met] at means ⊢
        cases stands : vocabulary.shapeOf reference.name with
        | none =>
            rw [stands] at means
            rw [accepts_of_anything means.symm]
        | some shape =>
            have distinctMore : (reference.name :: seen).Nodup := List.nodup_cons.mpr ⟨by simpa using met, distinct⟩
            have knownMore : ∀ name ∈ reference.name :: seen, (vocabulary.shapeOf name).isSome := by
              simpa [stands] using known
            -- A name that is known and new leaves a name less, so there was a step left for it.
            have more := length_le_of_seen distinctMore knownMore
            rw [List.length_cons] at more
            obtain ⟨rest, rfl⟩ : ∃ rest, steps = rest + 1 := ⟨steps - 1, by omega⟩
            rw [stands] at means
            exact acceptsWithin?_of_follow answers rest (reference.name :: seen) shape.type
              (by rw [List.length_cons]; omega) distinctMore knownMore means further
  | steps, seen, .collection reference, _, _, _, means, further => by
      unfold follow at means
      simp only [acceptsWithin?]
      by_cases met : seen.contains reference.name
      · rw [if_pos met] at means ⊢
        rw [accepts_of_anything means.symm]
      · rw [if_neg met] at means ⊢
        cases stands : vocabulary.shapeOf reference.name with
        | none =>
            rw [stands] at means
            rw [accepts_of_anything means.symm]
        | some shape =>
            rw [stands] at means
            cases value with
            | array items =>
                have onItems := (answers (further + steps)).items shape.type
                rw [← Nat.add_assoc] at onItems
                simp only [accepts, ← means, onItems]
            | _ => simp only [accepts, ← means]
  | steps, seen, .primitive builtIn, _, _, _, means, further
  | steps, seen, .array element, _, _, _, means, further
  | steps, seen, .map key item, _, _, _, means, further
  | steps, seen, .object fields, _, _, _, means, further => by
      rw [follow_concrete rfl] at means
      rw [Nat.add_assoc depth]
      exact acceptsWithin?_concrete rfl means.symm (answers (further + steps))
termination_by steps => steps

end

/-- Asked from scratch, the calls end and answer what `accepts` answers: on each level of the value they meet every
name once at most before one more call settles the level. -/
theorem acceptsWithin?_eq (type : DataType) (value : Value) {depth : Nat}
    (enough : (vocabulary.names.length + 1) * value.height ≤ depth) :
    vocabulary.acceptsWithin? depth [] type value = some (vocabulary.accepts type value) := by
  induction levels : value.height using Nat.strongRecOn generalizing type value depth with
  | ind height inductionHypothesis =>
      subst levels
      have positive : 0 < value.height := by cases value <;> simp [Value.height]
      obtain ⟨below, isHeight⟩ : ∃ below, value.height = below + 1 := ⟨value.height - 1, by omega⟩
      rw [isHeight, Nat.mul_succ] at enough
      have answers : ∀ further,
          vocabulary.AnswersBelow value ((vocabulary.names.length + 1) * below + further) := by
        intro further part isPart partType
        have lower := Value.height_lt_of_mem_parts isPart
        refine inductionHypothesis part.height lower partType part ?_ rfl
        have bounded : (vocabulary.names.length + 1) * part.height ≤ (vocabulary.names.length + 1) * below :=
          Nat.mul_le_mul_left _ (by omega)
        omega
      obtain ⟨further, rfl⟩ : ∃ further,
          depth = (vocabulary.names.length + 1) * below + further + vocabulary.names.length + 1 :=
        ⟨depth - (vocabulary.names.length + 1) * below - vocabulary.names.length - 1, by omega⟩
      exact acceptsWithin?_of_follow answers vocabulary.names.length [] type (by simp) List.nodup_nil (by simp) rfl
        further

end Vocabulary

end ApiDesign
