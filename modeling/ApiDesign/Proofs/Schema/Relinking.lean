import ApiDesign.Proofs.Schema.Acceptance
import ApiDesign.Schema.Traversal

/-!
Contract: links play no part in which values a type accepts.

A transformation that keeps the names of references changes a type at most in its links and in details. A vocabulary
whose shapes were all changed in this way leads each changed type where the other one leads the type itself, so both
accept the same values.

Owns: `Transformation.KeepsNames`, `Vocabulary.Relinks`, chains of aliases and acceptance under them.
Does not own: the vocabularies of registries and models (`Proofs.Model.Vocabulary`).
-/

namespace ApiDesign

/-- A transformation that puts references and shortcuts in place of references and shortcuts of the same names. -/
structure Transformation.KeepsNames (change : Transformation) : Prop where
  named : ∀ reference, ∃ other, change.named reference = .named other ∧ other.name = reference.name
  collection : ∀ reference, ∃ other, change.collection reference = .collection other ∧ other.name = reference.name

/-! ## Types under a transformation -/

section Types

variable {change : Transformation}

theorem DataType.isReference_transform (keepsNames : change.KeepsNames) (type : DataType) :
    (type.transform change).isReference = type.isReference := by
  cases type with
  | named reference =>
      obtain ⟨other, becomes, _⟩ := keepsNames.named reference
      simp [transform, becomes, isReference, reference?]
  | collection reference =>
      obtain ⟨other, becomes, _⟩ := keepsNames.collection reference
      simp [transform, becomes, isReference, reference?]
  | _ => rfl

theorem DataType.shortcut?_transform (keepsNames : change.KeepsNames) (type : DataType) :
    (type.transform change).shortcut? = type.shortcut? := by
  cases type with
  | named reference =>
      obtain ⟨other, becomes, _⟩ := keepsNames.named reference
      simp [transform, becomes, shortcut?]
  | collection reference =>
      obtain ⟨other, becomes, sameName⟩ := keepsNames.collection reference
      simp [transform, becomes, shortcut?, sameName]
  | _ => rfl

/-- What becomes a reference was a reference of the same name. -/
theorem DataType.exists_named_of_transform (keepsNames : change.KeepsNames) {type : DataType} {reference : TypeRef}
    (becomes : type.transform change = .named reference) :
    ∃ before, type = .named before ∧ before.name = reference.name := by
  cases type with
  | named before =>
      obtain ⟨other, isOther, sameName⟩ := keepsNames.named before
      rw [DataType.transform, isOther] at becomes
      cases becomes
      exact ⟨before, rfl, sameName.symm⟩
  | collection before =>
      obtain ⟨other, isOther, _⟩ := keepsNames.collection before
      rw [DataType.transform, isOther] at becomes
      cases becomes
  | _ => cases becomes

theorem DataType.transformFields_eq_map (change : Transformation) (fields : List (String × Attribute)) :
    DataType.transformFields change fields = fields.map fun field => (field.1, field.2.transform change) := by
  induction fields with
  | nil => rfl
  | cons field rest inductionHypothesis => rw [transformFields, inductionHypothesis, List.map_cons]

theorem DataType.map_fst_transformFields (change : Transformation) (fields : List (String × Attribute)) :
    (DataType.transformFields change fields).map Prod.fst = fields.map Prod.fst := by
  rw [transformFields_eq_map, List.map_map]
  rfl

theorem DataType.lookup_transformFields (change : Transformation) (name : String)
    (fields : List (String × Attribute)) :
    (DataType.transformFields change fields).lookup name = (fields.lookup name).map (Attribute.transform change) := by
  induction fields with
  | nil => rfl
  | cons field rest inductionHypothesis =>
      obtain ⟨other, child⟩ := field
      simp only [DataType.transformFields, List.lookup_cons]
      cases name == other with
      | true => rfl
      | false => exact inductionHypothesis

theorem Attribute.type_transform (change : Transformation) (shape : Attribute) :
    (shape.transform change).type = shape.type.transform change := by
  obtain ⟨type, details⟩ := shape
  rfl

end Types

/-- A meaning with the types in it transformed. -/
def Meaning.transform (change : Transformation) : Meaning → Meaning
  | .anything => .anything
  | .itemsOf type => .itemsOf (type.transform change)
  | .concrete type => .concrete (type.transform change)

namespace Vocabulary

/-! ## Chains of aliases -/

/-- The right vocabulary knows the names of the left one, each with its shape transformed. -/
structure Relinks (change : Transformation) (left right : Vocabulary) : Prop where
  keepsNames : change.KeepsNames
  shapeOf : ∀ name, right.shapeOf name = (left.shapeOf name).map (Attribute.transform change)

section Relinking

variable {change : Transformation} {left right : Vocabulary}

theorem Relinks.hasNoShortcuts_iff (relinks : Relinks change left right) :
    right.HasNoShortcuts ↔ left.HasNoShortcuts := by
  have sameShortcut : ∀ shape : Attribute, (shape.transform change).type.shortcut? = shape.type.shortcut? := by
    intro shape
    rw [Attribute.type_transform, DataType.shortcut?_transform relinks.keepsNames]
  constructor
  · intro noShortcuts name shape known
    rw [← sameShortcut]
    exact noShortcuts name _ (by rw [relinks.shapeOf, known]; rfl)
  · intro noShortcuts name shape known
    rw [relinks.shapeOf] at known
    obtain ⟨before, knownBefore, rfl⟩ := Option.map_eq_some_iff.mp known
    rw [sameShortcut]
    exact noShortcuts name before knownBefore

/-- A transformed type leads to the transformed end. -/
theorem Relinks.leads (relinks : Relinks change left right) {steps : Nat} {type final : DataType}
    (leads : left.Leads steps type final) : right.Leads steps (type.transform change) (final.transform change) := by
  induction leads with
  | concrete isConcrete => exact .concrete (by rw [DataType.isReference_transform relinks.keepsNames, isConcrete])
  | @through steps reference shape final known onward inductionHypothesis =>
      obtain ⟨other, becomes, sameName⟩ := relinks.keepsNames.named reference
      rw [DataType.transform, becomes]
      have knownAfter : right.shapeOf other.name = some (shape.transform change) := by
        rw [sameName, relinks.shapeOf, known]
        rfl
      refine .through knownAfter ?_
      rw [Attribute.type_transform]
      exact inductionHypothesis

/-- Whatever a transformed type leads to is the transformed end of the type itself. -/
theorem Relinks.exists_leads (relinks : Relinks change left right) {steps : Nat} {type transformed final : DataType}
    (leads : right.Leads steps transformed final) (isTransformed : type.transform change = transformed) :
    ∃ before, final = before.transform change ∧ left.Leads steps type before := by
  induction leads generalizing type with
  | concrete isConcrete =>
      rw [← isTransformed, DataType.isReference_transform relinks.keepsNames] at isConcrete
      exact ⟨type, isTransformed.symm, .concrete isConcrete⟩
  | @through steps reference shape final known onward inductionHypothesis =>
      obtain ⟨before, rfl, sameName⟩ := DataType.exists_named_of_transform relinks.keepsNames isTransformed
      rw [relinks.shapeOf] at known
      obtain ⟨shapeBefore, knownBefore, rfl⟩ := Option.map_eq_some_iff.mp known
      obtain ⟨finalBefore, same, onwardBefore⟩ :=
        inductionHypothesis (Attribute.type_transform change shapeBefore).symm
      exact ⟨finalBefore, same, .through (sameName ▸ knownBefore) onwardBefore⟩

/-! ## Meaning -/

theorem Relinks.meaning_collection (relinks : Relinks change left right) (shortcut : TypeRef) :
    right.meaning ((DataType.collection shortcut).transform change) =
      (left.meaning (.collection shortcut)).transform change := by
  obtain ⟨other, becomes, sameName⟩ := relinks.keepsNames.collection shortcut
  rw [DataType.transform, becomes, meaning_shortcut, meaning_shortcut, sameName, relinks.shapeOf]
  cases left.shapeOf shortcut.name with
  | none => rfl
  | some shape =>
      simp only [Option.map_some, Attribute.type_transform]
      rfl

/-- A transformed type means the transformed meaning of the type itself: where following the one ends, following the
other does too. -/
theorem Relinks.meaning_transform_of_plain (relinks : Relinks change left right) (noShortcuts : left.HasNoShortcuts)
    {type : DataType} (isPlain : type.shortcut? = none) :
    right.meaning (type.transform change) = (left.meaning type).transform change := by
  have becomesPlain : (type.transform change).shortcut? = none := by
    rw [DataType.shortcut?_transform relinks.keepsNames, isPlain]
  rcases follow_cases noShortcuts left.names.length [] type isPlain with nothing | ⟨steps, final, found, leads⟩
  · rcases follow_cases (relinks.hasNoShortcuts_iff.mpr noShortcuts) right.names.length [] _ becomesPlain with
      alsoNothing | ⟨steps, final, _, leads⟩
    · rw [meaning, meaning, nothing, alsoNothing]
      rfl
    · obtain ⟨before, _, leadsBefore⟩ := relinks.exists_leads leads rfl
      have definite := meaning_eq_concrete leadsBefore
      rw [meaning, nothing] at definite
      cases definite
  · rw [meaning_eq_concrete leads, meaning_eq_concrete (relinks.leads leads)]
    rfl

theorem Relinks.meaning_transform (relinks : Relinks change left right) (noShortcuts : left.HasNoShortcuts)
    (type : DataType) : right.meaning (type.transform change) = (left.meaning type).transform change := by
  cases type with
  | collection shortcut => exact relinks.meaning_collection shortcut
  | _ => exact relinks.meaning_transform_of_plain noShortcuts rfl

/-- A transformed type has the transformed fields. -/
theorem Relinks.fieldsOf?_transform (relinks : Relinks change left right) (noShortcuts : left.HasNoShortcuts)
    (type : DataType) :
    right.fieldsOf? (type.transform change) = (left.fieldsOf? type).map (DataType.transformFields change) := by
  unfold fieldsOf?
  rw [relinks.meaning_transform noShortcuts]
  rcases meaning_cases noShortcuts type with nothing | ⟨item, isItems⟩ | ⟨final, isFinal, isConcrete⟩
  · rw [nothing]
    rfl
  · rw [isItems]
    rfl
  · rw [isFinal]
    cases final with
    | named reference => cases isConcrete
    | collection reference => cases isConcrete
    | _ => rfl

/-! ## Acceptance -/

/-- A value without parts. -/
theorem Relinks.accepts_transform_of_scalar (relinks : Relinks change left right) (noShortcuts : left.HasNoShortcuts)
    {value : Value} (noArray : ∀ items, value ≠ .array items) (noMap : ∀ entries, value ≠ .map entries)
    (type : DataType) : right.accepts (type.transform change) value = left.accepts type value := by
  cases value with
  | array items => exact absurd rfl (noArray items)
  | map entries => exact absurd rfl (noMap entries)
  | _ =>
      simp only [accepts, relinks.meaning_transform noShortcuts]
      rcases meaning_cases noShortcuts type with nothing | ⟨item, isItems⟩ | ⟨final, isFinal, isConcrete⟩
      · rw [nothing]
        rfl
      · rw [isItems]
        rfl
      · rw [isFinal]
        cases final with
        | named reference => cases isConcrete
        | collection reference => cases isConcrete
        | _ => rfl

mutual

/-- A transformed type accepts, under transformed shapes, exactly what the type accepted. -/
theorem Relinks.accepts_transform (relinks : Relinks change left right) (noShortcuts : left.HasNoShortcuts) :
    ∀ (value : Value) (type : DataType),
      right.accepts (type.transform change) value = left.accepts type value
  | .array items, type => by
      simp only [accepts, relinks.meaning_transform noShortcuts]
      rcases meaning_cases noShortcuts type with nothing | ⟨item, isItems⟩ | ⟨final, isFinal, isConcrete⟩
      · rw [nothing]
        rfl
      · rw [isItems]
        exact relinks.acceptsItems_transform noShortcuts items item
      · rw [isFinal]
        cases final with
        | named reference => cases isConcrete
        | collection reference => cases isConcrete
        | array element =>
            simp only [Meaning.transform, DataType.transform, Attribute.type_transform]
            exact relinks.acceptsItems_transform noShortcuts items element.type
        | _ => rfl
  | .map entries, type => by
      simp only [accepts, relinks.meaning_transform noShortcuts]
      rcases meaning_cases noShortcuts type with nothing | ⟨item, isItems⟩ | ⟨final, isFinal, isConcrete⟩
      · rw [nothing]
        rfl
      · rw [isItems]
        rfl
      · rw [isFinal]
        cases final with
        | named reference => cases isConcrete
        | collection reference => cases isConcrete
        | map key value =>
            simp only [Meaning.transform, DataType.transform, Attribute.type_transform]
            exact relinks.acceptsEntries_transform noShortcuts entries key.type value.type
        | object fields =>
            simp only [Meaning.transform, DataType.transform]
            exact relinks.acceptsMembers_transform noShortcuts entries fields
        | _ => rfl
  | .null, type => relinks.accepts_transform_of_scalar noShortcuts (by simp) (by simp) type
  | .bool _, type => relinks.accepts_transform_of_scalar noShortcuts (by simp) (by simp) type
  | .int _, type => relinks.accepts_transform_of_scalar noShortcuts (by simp) (by simp) type
  | .float _, type => relinks.accepts_transform_of_scalar noShortcuts (by simp) (by simp) type
  | .text _, type => relinks.accepts_transform_of_scalar noShortcuts (by simp) (by simp) type
  | .bytes _, type => relinks.accepts_transform_of_scalar noShortcuts (by simp) (by simp) type

theorem Relinks.acceptsItems_transform (relinks : Relinks change left right) (noShortcuts : left.HasNoShortcuts) :
    ∀ (items : List Value) (type : DataType),
      right.acceptsItems (type.transform change) items = left.acceptsItems type items
  | [], _ => rfl
  | item :: rest, type => by
      simp only [acceptsItems]
      rw [relinks.accepts_transform noShortcuts item type, relinks.acceptsItems_transform noShortcuts rest type]

theorem Relinks.acceptsEntries_transform (relinks : Relinks change left right) (noShortcuts : left.HasNoShortcuts) :
    ∀ (entries : List (Value × Value)) (keyType valueType : DataType),
      right.acceptsEntries (keyType.transform change) (valueType.transform change) entries =
        left.acceptsEntries keyType valueType entries
  | [], _, _ => rfl
  | (key, value) :: rest, keyType, valueType => by
      simp only [acceptsEntries]
      rw [relinks.accepts_transform noShortcuts key keyType, relinks.accepts_transform noShortcuts value valueType,
        relinks.acceptsEntries_transform noShortcuts rest keyType valueType]

theorem Relinks.acceptsMembers_transform (relinks : Relinks change left right) (noShortcuts : left.HasNoShortcuts) :
    ∀ (entries : List (Value × Value)) (fields : List (String × Attribute)),
      right.acceptsMembers (DataType.transformFields change fields) entries = left.acceptsMembers fields entries
  | [], _ => rfl
  | (key, value) :: rest, fields => by
      simp only [acceptsMembers]
      rw [relinks.acceptsMembers_transform noShortcuts rest fields]
      congr 1
      cases key.text? with
      | none => rfl
      | some name =>
          simp only [Option.bind_some, DataType.lookup_transformFields]
          cases fields.lookup name with
          | none => rfl
          | some field =>
              simp only [Option.map_some, Attribute.type_transform]
              exact relinks.accepts_transform noShortcuts value field.type

end

end Relinking

end Vocabulary

end ApiDesign
