import ApiDesign.Schema.Attribute

/-!
Contract: what a reference by name stands for.

A vocabulary knows the shapes of finitely many names. A reference stands for the shape of its name, which may be a
reference again; `meaning` follows such aliases to their end. Aliases that run into a cycle, and names that the
vocabulary does not know, say nothing about values.
-/

namespace ApiDesign

/-- The shapes of finitely many names. -/
structure Vocabulary where
  shapeOf : String → Option Attribute
  names : List String
  covers : ∀ name, (shapeOf name).isSome → name ∈ names

/-- The vocabulary that knows no name. -/
def Vocabulary.empty : Vocabulary := ⟨fun _ => none, [], by simp⟩

/-- What following the aliases of a type leads to. -/
inductive Meaning where
  /-- A cycle or an unknown name: nothing is said about values. -/
  | anything
  /-- A collection shortcut: an array of values of this type. -/
  | itemsOf (type : DataType)
  /-- A type that is no reference. -/
  | concrete (type : DataType)

namespace Vocabulary

/-- Follows aliases for at most `steps` names, none of which may be among the `seen` ones. -/
def follow (vocabulary : Vocabulary) : Nat → List String → DataType → Meaning
  | steps, seen, .named reference =>
      if seen.contains reference.name then .anything
      else
        match vocabulary.shapeOf reference.name, steps with
        | none, _ => .anything
        | some _, 0 => .anything
        | some shape, steps + 1 => vocabulary.follow steps (reference.name :: seen) shape.type
  | _, seen, .collection reference =>
      if seen.contains reference.name then .anything
      else
        match vocabulary.shapeOf reference.name with
        | none => .anything
        | some shape => .itemsOf shape.type
  | _, _, type => .concrete type

/-- What following the aliases of a type leads to. No name is followed twice, so as many steps as there are names
suffice. -/
def meaning (vocabulary : Vocabulary) (type : DataType) : Meaning :=
  vocabulary.follow vocabulary.names.length [] type

/-- What an attribute denotes, as far as its children are concerned: the fields of an object, no fields, or nothing
known. -/
def fieldsOf? (vocabulary : Vocabulary) (type : DataType) : Option (List (String × Attribute)) :=
  match vocabulary.meaning type with
  | .concrete (.object fields) => some fields
  | .concrete _ => some []
  | .anything => none
  | .itemsOf _ => none

end Vocabulary

end ApiDesign
