import ApiDesign.Schema.Traversal

/-!
Contract: what may happen to an attribute that is completed.

`Attribute.CompletesTo` says what a declared attribute has in common with the one that a model holds, at every depth:
all of its form and details, except where references lead, whether examples are generated, and that a shortcut may
have become a reference. The relation is given by itself, without the transformations that evaluation applies; a
transformation that only touches these things respects it.

Owns: `Attribute.CompletesTo`, `Transformation.IsCompleting`, transformations one after the other.
Does not own: which transformations evaluation applies (`Proofs.Evaluation.Completion`).
-/

namespace ApiDesign

/-! ## Completed attributes -/

mutual

/-- An attribute and what it may have been completed to: the details differ in the flag for examples only. -/
inductive Attribute.CompletesTo : Attribute → Attribute → Prop
  | node {type final : DataType} {details : Details} {flag : Bool} (ofType : type.CompletesTo final) :
      Attribute.CompletesTo ⟨type, details⟩ ⟨final, { details with generateExamples := flag }⟩

/-- A type and what it may have been completed to: a reference keeps its name, a shortcut becomes a reference or stays,
any other type keeps its form. -/
inductive DataType.CompletesTo : DataType → DataType → Prop
  | primitive (builtIn : Primitive) : DataType.CompletesTo (.primitive builtIn) (.primitive builtIn)
  | array {element final : Attribute} (ofElement : element.CompletesTo final) :
      DataType.CompletesTo (.array element) (.array final)
  | map {key finalKey value finalValue : Attribute} (ofKey : key.CompletesTo finalKey)
      (ofValue : value.CompletesTo finalValue) : DataType.CompletesTo (.map key value) (.map finalKey finalValue)
  | object {fields final : List (String × Attribute)} (ofFields : DataType.FieldsCompleteTo fields final) :
      DataType.CompletesTo (.object fields) (.object final)
  | named (reference : TypeRef) (target : Option TypeId) :
      DataType.CompletesTo (.named reference) (.named { reference with target := target })
  | replaced (shortcut reference : TypeRef) : DataType.CompletesTo (.collection shortcut) (.named reference)
  | kept (shortcut : TypeRef) : DataType.CompletesTo (.collection shortcut) (.collection shortcut)

/-- Fields and what they may have been completed to: the same names in the same order. -/
inductive DataType.FieldsCompleteTo : List (String × Attribute) → List (String × Attribute) → Prop
  | nil : DataType.FieldsCompleteTo [] []
  | cons (name : String) {child finalChild : Attribute} {rest finalRest : List (String × Attribute)}
      (ofChild : child.CompletesTo finalChild) (ofRest : DataType.FieldsCompleteTo rest finalRest) :
      DataType.FieldsCompleteTo ((name, child) :: rest) ((name, finalChild) :: finalRest)

end

/-! ## Completing transformations -/

/-- A transformation that touches only what completion may touch. -/
structure Transformation.IsCompleting (change : Transformation) : Prop where
  named : ∀ reference, ∃ target, change.named reference = .named { reference with target := target }
  collection : ∀ shortcut,
    change.collection shortcut = .collection shortcut ∨ ∃ reference, change.collection shortcut = .named reference
  details : ∀ details, ∃ flag, change.details details = { details with generateExamples := flag }

section Completing

variable {change : Transformation}

mutual

/-- A completing transformation completes every attribute, at every depth. -/
theorem Attribute.completesTo_transform (completing : change.IsCompleting) :
    ∀ shape : Attribute, shape.CompletesTo (shape.transform change)
  | ⟨type, details⟩ => by
      obtain ⟨flag, flagged⟩ := completing.details details
      rw [Attribute.transform, flagged]
      exact .node (DataType.completesTo_transform completing type)

theorem DataType.completesTo_transform (completing : change.IsCompleting) :
    ∀ type : DataType, type.CompletesTo (type.transform change)
  | .primitive builtIn => .primitive builtIn
  | .array element => .array (Attribute.completesTo_transform completing element)
  | .map key value =>
      .map (Attribute.completesTo_transform completing key) (Attribute.completesTo_transform completing value)
  | .object fields => .object (DataType.fieldsCompleteTo_transformFields completing fields)
  | .named reference => by
      obtain ⟨target, linked⟩ := completing.named reference
      rw [DataType.transform, linked]
      exact .named reference target
  | .collection shortcut => by
      rw [DataType.transform]
      rcases completing.collection shortcut with kept | ⟨reference, replaced⟩
      · rw [kept]
        exact .kept shortcut
      · rw [replaced]
        exact .replaced shortcut reference

theorem DataType.fieldsCompleteTo_transformFields (completing : change.IsCompleting) :
    ∀ fields : List (String × Attribute),
      DataType.FieldsCompleteTo fields (DataType.transformFields change fields)
  | [] => .nil
  | (name, child) :: rest =>
      .cons name (Attribute.completesTo_transform completing child)
        (DataType.fieldsCompleteTo_transformFields completing rest)

end

end Completing

/-! ## One transformation after the other -/

/-- The transformation that does in one walk what two do in two walks. -/
def Transformation.andThen (first second : Transformation) : Transformation where
  named reference := (first.named reference).transform second
  collection shortcut := (first.collection shortcut).transform second
  details := second.details ∘ first.details

mutual

theorem Attribute.transform_transform (first second : Transformation) :
    ∀ shape : Attribute, (shape.transform first).transform second = shape.transform (first.andThen second)
  | ⟨type, details⟩ => by
      simp only [Attribute.transform]
      rw [DataType.transform_transform first second type]
      rfl

theorem DataType.transform_transform (first second : Transformation) :
    ∀ type : DataType, (type.transform first).transform second = type.transform (first.andThen second)
  | .primitive _ => rfl
  | .array element => by
      simp only [DataType.transform]
      rw [Attribute.transform_transform first second element]
  | .map key value => by
      simp only [DataType.transform]
      rw [Attribute.transform_transform first second key, Attribute.transform_transform first second value]
  | .object fields => by
      simp only [DataType.transform]
      rw [DataType.transformFields_transformFields first second fields]
  | .named _ => rfl
  | .collection _ => rfl

theorem DataType.transformFields_transformFields (first second : Transformation) :
    ∀ fields : List (String × Attribute),
      DataType.transformFields second (DataType.transformFields first fields) =
        DataType.transformFields (first.andThen second) fields
  | [] => rfl
  | (name, child) :: rest => by
      simp only [DataType.transformFields]
      rw [Attribute.transform_transform first second child, DataType.transformFields_transformFields first second rest]

end

/-- Completing transformations one after the other complete. -/
theorem Transformation.IsCompleting.andThen {first second : Transformation} (completing : first.IsCompleting)
    (next : second.IsCompleting) : (first.andThen second).IsCompleting where
  named reference := by
    obtain ⟨target, linked⟩ := completing.named reference
    obtain ⟨nextTarget, relinked⟩ := next.named { reference with target := target }
    exact ⟨nextTarget, by simp only [Transformation.andThen, linked, DataType.transform, relinked]⟩
  collection shortcut := by
    simp only [Transformation.andThen]
    rcases completing.collection shortcut with kept | ⟨reference, replaced⟩
    · rw [kept]
      exact next.collection shortcut
    · rw [replaced]
      obtain ⟨target, linked⟩ := next.named reference
      exact .inr ⟨_, linked⟩
  details details := by
    obtain ⟨flag, flagged⟩ := completing.details details
    obtain ⟨nextFlag, reflagged⟩ := next.details { details with generateExamples := flag }
    exact ⟨nextFlag, by simp only [Transformation.andThen, Function.comp_apply, flagged, reflagged]⟩

end ApiDesign
