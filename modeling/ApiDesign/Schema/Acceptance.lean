import ApiDesign.Schema.Vocabulary

/-!
Contract: which values a type accepts.

A reference accepts what its meaning accepts; one that means nothing definite accepts every value. An object accepts
a map whose keys are all texts that name fields; a field may be missing. Of several fields of one name the first one
counts.
-/

namespace ApiDesign.Vocabulary

mutual

/-- Whether a type accepts a value. -/
def accepts (vocabulary : Vocabulary) (type : DataType) : Value → Bool
  | .array items =>
      match vocabulary.meaning type with
      | .anything => true
      | .itemsOf item => vocabulary.acceptsItems item items
      | .concrete (.array element) => vocabulary.acceptsItems element.type items
      | .concrete (.primitive builtIn) => builtIn.accepts (.array items)
      | .concrete _ => false
  | .map entries =>
      match vocabulary.meaning type with
      | .anything => true
      | .itemsOf _ => false
      | .concrete (.map key value) => vocabulary.acceptsEntries key.type value.type entries
      | .concrete (.object fields) => vocabulary.acceptsMembers fields entries
      | .concrete (.primitive builtIn) => builtIn.accepts (.map entries)
      | .concrete _ => false
  | value =>
      match vocabulary.meaning type with
      | .anything => true
      | .concrete (.primitive builtIn) => builtIn.accepts value
      | _ => false

/-- Whether a type accepts every item. -/
def acceptsItems (vocabulary : Vocabulary) (type : DataType) : List Value → Bool
  | [] => true
  | item :: rest => vocabulary.accepts type item && vocabulary.acceptsItems type rest

/-- Whether two types accept the key and the value of every entry. -/
def acceptsEntries (vocabulary : Vocabulary) (keyType valueType : DataType) : List (Value × Value) → Bool
  | [] => true
  | (key, value) :: rest =>
      vocabulary.accepts keyType key && vocabulary.accepts valueType value &&
        vocabulary.acceptsEntries keyType valueType rest

/-- Whether every entry is a value of the field its key names. -/
def acceptsMembers (vocabulary : Vocabulary) (fields : List (String × Attribute)) : List (Value × Value) → Bool
  | [] => true
  | (key, value) :: rest =>
      (match key.text?.bind (fun name => fields.lookup name) with
        | some field => vocabulary.accepts field.type value
        | none => false) &&
        vocabulary.acceptsMembers fields rest

end

end ApiDesign.Vocabulary
