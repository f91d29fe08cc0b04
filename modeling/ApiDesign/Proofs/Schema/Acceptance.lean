import ApiDesign.Evaluation.Collections
import ApiDesign.Schema.Acceptance
import Mathlib.Data.List.Nodup
import Mathlib.Data.List.Perm.Subperm

/-!
Contract: a reference accepts what the shape of its name accepts.

`Vocabulary.Leads` follows aliases without counting names or remembering them. In a vocabulary whose shapes are no
shortcuts, following with a bound finds exactly what aliases lead to: no name is met twice on a chain that ends, so as
many steps as there are names suffice.

Owns: `Vocabulary.Leads`, `Vocabulary.meaning` in terms of it, the acceptance of references and shortcuts.
-/

namespace ApiDesign

/-- Whether a type is a reference of either sort. -/
def DataType.isReference (type : DataType) : Bool := type.reference?.isSome

namespace Vocabulary

variable {vocabulary : Vocabulary}

/-- A type leads to a type that is no reference, through the shapes of a number of names. -/
inductive Leads (vocabulary : Vocabulary) : Nat → DataType → DataType → Prop
  | concrete {type : DataType} (isConcrete : type.isReference = false) : Leads vocabulary 0 type type
  | through {steps : Nat} {reference : TypeRef} {shape : Attribute} {type : DataType}
      (known : vocabulary.shapeOf reference.name = some shape) (onward : Leads vocabulary steps shape.type type) :
      Leads vocabulary (steps + 1) (.named reference) type

/-- No name stands for a shortcut. -/
def HasNoShortcuts (vocabulary : Vocabulary) : Prop :=
  ∀ name shape, vocabulary.shapeOf name = some shape → shape.type.shortcut? = none

/-! ## Chains of aliases -/

theorem Leads.isConcrete {steps : Nat} {type final : DataType} (leads : vocabulary.Leads steps type final) :
    final.isReference = false := by
  induction leads with
  | concrete isConcrete => exact isConcrete
  | through _ _ inductionHypothesis => exact inductionHypothesis

/-- A name leads to one type only, and in one number of steps. -/
theorem Leads.unique {left right : Nat} {leftReference rightReference : TypeRef} {leftFinal rightFinal : DataType}
    (leftLeads : vocabulary.Leads left (.named leftReference) leftFinal)
    (rightLeads : vocabulary.Leads right (.named rightReference) rightFinal)
    (same : leftReference.name = rightReference.name) : left = right ∧ leftFinal = rightFinal := by
  induction left generalizing leftReference rightReference right with
  | zero =>
      cases leftLeads with
      | concrete isConcrete => simp [DataType.isReference, DataType.reference?] at isConcrete
  | succ left inductionHypothesis =>
      cases leftLeads with
      | through leftKnown leftOnward =>
          cases rightLeads with
          | concrete isConcrete => simp [DataType.isReference, DataType.reference?] at isConcrete
          | @through rightSteps _ rightShape _ rightKnown rightOnward =>
              rw [← same, leftKnown] at rightKnown
              cases rightKnown
              rename_i shape
              cases type : shape.type with
              | named reference =>
                  rw [type] at leftOnward rightOnward
                  obtain ⟨sameSteps, sameFinal⟩ := inductionHypothesis leftOnward rightOnward rfl
                  exact ⟨by omega, sameFinal⟩
              | _ =>
                  rw [type] at leftOnward rightOnward
                  cases leftOnward
                  cases rightOnward
                  exact ⟨rfl, rfl⟩

/-- The names on a chain are known and distinct: each leads on in another number of steps. -/
theorem Leads.exists_names {steps : Nat} {type final : DataType} (leads : vocabulary.Leads steps type final) :
    ∃ visited : List String, visited.length = steps ∧ visited.Nodup ∧
      ∀ name ∈ visited, name ∈ vocabulary.names ∧
        ∃ rest, rest ≤ steps ∧ vocabulary.Leads rest (.named ⟨name, none⟩) final := by
  induction leads with
  | concrete _ => exact ⟨[], rfl, List.nodup_nil, by simp⟩
  | @through steps reference shape final known onward inductionHypothesis =>
      obtain ⟨visited, length, distinct, each⟩ := inductionHypothesis
      have here : vocabulary.Leads (steps + 1) (.named ⟨reference.name, none⟩) final := .through known onward
      refine ⟨reference.name :: visited, by simp [length], ?_, ?_⟩
      · rw [List.nodup_cons]
        refine ⟨?_, distinct⟩
        intro again
        obtain ⟨_, rest, bounded, leadsAgain⟩ := each reference.name again
        have sameSteps := (here.unique leadsAgain rfl).1
        omega
      · intro name member
        rcases List.mem_cons.mp member with same | inRest
        · subst same
          exact ⟨vocabulary.covers _ (by rw [known]; rfl), steps + 1, Nat.le_refl _, here⟩
        · obtain ⟨isKnown, rest, bounded, leads⟩ := each name inRest
          exact ⟨isKnown, rest, by omega, leads⟩

theorem Leads.steps_le {steps : Nat} {type final : DataType} (leads : vocabulary.Leads steps type final) :
    steps ≤ vocabulary.names.length := by
  obtain ⟨visited, length, distinct, each⟩ := leads.exists_names
  rw [← length]
  exact (List.subperm_of_subset distinct fun name member => (each name member).1).length_le

/-! ## Following with a bound -/

/-- A type that is no reference is followed to itself. -/
theorem follow_concrete {type : DataType} (isConcrete : type.isReference = false) (steps : Nat) (seen : List String) :
    vocabulary.follow steps seen type = .concrete type := by
  cases type with
  | named reference => cases isConcrete
  | collection reference => cases isConcrete
  | _ => simp only [follow]

/-- Enough steps follow a chain to its end, if no name that was seen before stands on it: a seen name needs more
steps than are left. -/
theorem follow_of_leads {steps : Nat} {type final : DataType} (leads : vocabulary.Leads steps type final)
    {bound : Nat} (enough : steps ≤ bound) {seen : List String}
    (behind : ∀ name ∈ seen, ∃ rest, steps < rest ∧ vocabulary.Leads rest (.named ⟨name, none⟩) final) :
    vocabulary.follow bound seen type = .concrete final := by
  induction leads generalizing bound seen with
  | concrete isConcrete => exact follow_concrete isConcrete bound seen
  | @through steps reference shape final known onward inductionHypothesis =>
      cases bound with
      | zero => omega
      | succ bound =>
          have here : vocabulary.Leads (steps + 1) (.named ⟨reference.name, none⟩) final := .through known onward
          have notSeen : reference.name ∉ seen := by
            intro member
            obtain ⟨rest, more, leadsAgain⟩ := behind reference.name member
            have sameSteps := (here.unique leadsAgain rfl).1
            omega
          unfold follow
          rw [if_neg (by simpa using notSeen)]
          simp only [known]
          refine inductionHypothesis (by omega) ?_
          intro name member
          rcases List.mem_cons.mp member with same | before
          · subst same
            exact ⟨steps + 1, by omega, here⟩
          · obtain ⟨rest, more, leadsAgain⟩ := behind name before
            exact ⟨rest, by omega, leadsAgain⟩

/-- What is followed to an end is led to that end; without shortcuts there is no other outcome than that or nothing
definite. -/
theorem follow_cases (noShortcuts : vocabulary.HasNoShortcuts) :
    ∀ (bound : Nat) (seen : List String) (type : DataType), type.shortcut? = none →
      vocabulary.follow bound seen type = .anything ∨
        ∃ steps final, vocabulary.follow bound seen type = .concrete final ∧ vocabulary.Leads steps type final := by
  intro bound
  induction bound with
  | zero =>
      intro seen type notShortcut
      cases type with
      | named reference =>
          left
          unfold follow
          split
          · rfl
          · cases vocabulary.shapeOf reference.name <;> rfl
      | collection reference => simp [DataType.shortcut?] at notShortcut
      | _ => exact .inr ⟨0, _, follow_concrete rfl _ _, .concrete rfl⟩
  | succ bound inductionHypothesis =>
      intro seen type notShortcut
      cases type with
      | named reference =>
          unfold follow
          split
          · exact .inl rfl
          · cases known : vocabulary.shapeOf reference.name with
            | none => exact .inl rfl
            | some shape =>
                rcases inductionHypothesis (reference.name :: seen) shape.type
                  (noShortcuts reference.name shape known) with nothing | ⟨steps, final, found, leads⟩
                · exact .inl nothing
                · exact .inr ⟨steps + 1, final, found, .through known leads⟩
      | collection reference => simp [DataType.shortcut?] at notShortcut
      | _ => exact .inr ⟨0, _, follow_concrete rfl _ _, .concrete rfl⟩

/-- Where following comes to an end, aliases lead there. -/
theorem leads_of_follow {final : DataType} : (bound : Nat) → (seen : List String) → (type : DataType) →
    vocabulary.follow bound seen type = .concrete final → ∃ steps, vocabulary.Leads steps type final
  | 0, seen, .named reference, follows => by
      unfold follow at follows
      split at follows
      · cases follows
      · cases stands : vocabulary.shapeOf reference.name <;> simp [stands] at follows
  | bound + 1, seen, .named reference, follows => by
      unfold follow at follows
      cases stands : vocabulary.shapeOf reference.name with
      | none => simp [stands] at follows
      | some shape =>
          simp only [stands] at follows
          split at follows
          · cases follows
          · obtain ⟨steps, leads⟩ := leads_of_follow bound _ shape.type follows
            exact ⟨steps + 1, .through stands leads⟩
  | bound, seen, .collection reference, follows => by
      unfold follow at follows
      split at follows
      · cases follows
      · cases stands : vocabulary.shapeOf reference.name <;> simp [stands] at follows
  | bound, seen, .primitive _, follows
  | bound, seen, .array _, follows
  | bound, seen, .map _ _, follows
  | bound, seen, .object _, follows => by
      simp only [follow, Meaning.concrete.injEq] at follows
      exact ⟨0, follows ▸ .concrete rfl⟩

theorem meaning_eq_concrete {steps : Nat} {type final : DataType} (leads : vocabulary.Leads steps type final) :
    vocabulary.meaning type = .concrete final :=
  follow_of_leads leads leads.steps_le (by simp)

/-- Following aliases comes to a type exactly if they lead to it. -/
theorem meaning_eq_concrete_iff {type final : DataType} :
    vocabulary.meaning type = .concrete final ↔ ∃ steps, vocabulary.Leads steps type final :=
  ⟨leads_of_follow _ _ type, fun ⟨_, leads⟩ => meaning_eq_concrete leads⟩

/-- A shortcut means items of the shape of its name. -/
theorem meaning_shortcut (shortcut : TypeRef) :
    vocabulary.meaning (.collection shortcut) =
      ((vocabulary.shapeOf shortcut.name).map fun shape => Meaning.itemsOf shape.type).getD .anything := by
  unfold meaning follow
  simp only [List.contains_nil, Bool.false_eq_true, if_false]
  cases vocabulary.shapeOf shortcut.name <;> rfl

/-- A type means nothing definite, the items of an array, or a type that is no reference. -/
theorem meaning_cases (noShortcuts : vocabulary.HasNoShortcuts) (type : DataType) :
    vocabulary.meaning type = .anything ∨ (∃ item, vocabulary.meaning type = .itemsOf item) ∨
      ∃ final, vocabulary.meaning type = .concrete final ∧ final.isReference = false := by
  cases isShortcut : type.shortcut? with
  | none =>
      rcases follow_cases noShortcuts vocabulary.names.length [] type isShortcut with
        nothing | ⟨steps, final, found, leads⟩
      · exact .inl nothing
      · exact .inr (.inr ⟨final, found, leads.isConcrete⟩)
  | some name =>
      cases type with
      | collection shortcut =>
          rw [meaning_shortcut]
          cases vocabulary.shapeOf shortcut.name with
          | none => exact .inl rfl
          | some shape => exact .inr (.inl ⟨shape.type, rfl⟩)
      | _ => cases isShortcut

/-- A reference means what the shape of its name means. -/
theorem meaning_named (noShortcuts : vocabulary.HasNoShortcuts) {reference : TypeRef} {shape : Attribute}
    (known : vocabulary.shapeOf reference.name = some shape) :
    vocabulary.meaning (.named reference) = vocabulary.meaning shape.type := by
  rcases follow_cases noShortcuts vocabulary.names.length [] shape.type (noShortcuts _ _ known) with
    nothing | ⟨steps, final, found, leads⟩
  · rcases follow_cases noShortcuts vocabulary.names.length [] (.named reference) rfl with
      alsoNothing | ⟨steps, final, found, leads⟩
    · exact alsoNothing.trans nothing.symm
    · cases leads with
      | concrete isConcrete => simp [DataType.isReference, DataType.reference?] at isConcrete
      | through otherKnown onward =>
          rw [known] at otherKnown
          cases otherKnown
          have definite := meaning_eq_concrete onward
          rw [meaning, nothing] at definite
          cases definite
  · rw [meaning_eq_concrete (.through known leads)]
    exact found.symm

/-! ## Acceptance -/

/-- Types of the same meaning accept the same values. -/
theorem accepts_congr {left right : DataType} (same : vocabulary.meaning left = vocabulary.meaning right)
    (value : Value) : vocabulary.accepts left value = vocabulary.accepts right value := by
  cases value <;> simp only [accepts, same]

theorem acceptsItems_congr {left right : DataType} (same : vocabulary.meaning left = vocabulary.meaning right)
    (items : List Value) : vocabulary.acceptsItems left items = vocabulary.acceptsItems right items := by
  induction items with
  | nil => rfl
  | cons head rest inductionHypothesis =>
      simp only [acceptsItems]
      rw [accepts_congr same, inductionHypothesis]

/-- A reference accepts what the shape of its name accepts. -/
theorem accepts_named (noShortcuts : vocabulary.HasNoShortcuts) {reference : TypeRef} {shape : Attribute}
    (known : vocabulary.shapeOf reference.name = some shape) (value : Value) :
    vocabulary.accepts (.named reference) value = vocabulary.accepts shape.type value :=
  accepts_congr (meaning_named noShortcuts known) value

/-- A shortcut accepts what a reference to an array of references to its element accepts. -/
theorem accepts_collection (noShortcuts : vocabulary.HasNoShortcuts) {collection element shortcut : TypeRef}
    {elementDetails details : Details} {shape : Attribute}
    (isArray : vocabulary.shapeOf collection.name = some ⟨.array ⟨.named element, elementDetails⟩, details⟩)
    (known : vocabulary.shapeOf element.name = some shape) (sameShape : vocabulary.shapeOf shortcut.name = some shape)
    (value : Value) :
    vocabulary.accepts (.named collection) value = vocabulary.accepts (.collection shortcut) value := by
  have ofArray : vocabulary.meaning (.named collection) = .concrete (.array ⟨.named element, elementDetails⟩) :=
    meaning_eq_concrete (.through isArray (.concrete rfl))
  have ofShortcut : vocabulary.meaning (.collection shortcut) = .itemsOf shape.type := by
    rw [meaning_shortcut, sameShape]
    rfl
  cases value with
  | array items =>
      simp only [accepts, ofArray, ofShortcut]
      exact acceptsItems_congr (meaning_named noShortcuts known) items
  | _ => simp only [accepts, ofArray, ofShortcut]

end Vocabulary

end ApiDesign
