import ApiDesign.Schema.Details

/-!
Contract: attributes and their types.

An attribute is a type with details. A type is primitive, composed of attributes, or a reference by name to a type
declared elsewhere. A collection reference is a shortcut for the collection of the result type it names.

Owns: the types, the texts that name them, fields of inline objects.
Does not own: what a reference stands for (`Schema.Vocabulary`), which values fit (`Schema.Acceptance`).
-/

namespace ApiDesign

/-! ## Primitive types -/

inductive Primitive where
  | string | bytes | boolean | int32 | int64 | float32 | float64 | any
deriving DecidableEq, Repr

namespace Primitive

def all : List Primitive := [.string, .bytes, .boolean, .int32, .int64, .float32, .float64, .any]

def name : Primitive → String
  | .string => "String"
  | .bytes => "Bytes"
  | .boolean => "Boolean"
  | .int32 => "Int32"
  | .int64 => "Int64"
  | .float32 => "Float32"
  | .float64 => "Float64"
  | .any => "Any"

/-- Whether an integer fits into 32 bits with a sign. -/
def fitsInt32 (number : Int64) : Bool :=
  -2147483648 ≤ number.toInt && number.toInt ≤ 2147483647

/-- Whether a value has a built-in type. A text may stand for bytes and an integer for a float. -/
def accepts : Primitive → Value → Bool
  | .any, _ => true
  | .string, .text _ => true
  | .bytes, .bytes _ => true
  | .bytes, .text _ => true
  | .boolean, .bool _ => true
  | .int32, .int number => fitsInt32 number
  | .int64, .int _ => true
  | .float32, .int _ => true
  | .float32, .float _ => true
  | .float64, .int _ => true
  | .float64, .float _ => true
  | _, _ => false

end Primitive

/-! ## References -/

/-- A declared type by its place among the user types or among the result types. -/
inductive TypeId where
  | user (position : Nat)
  | result (position : Nat)
deriving DecidableEq, Repr

/-- A reference by name; once it is linked, also by place. -/
structure TypeRef where
  name : String
  target : Option TypeId := none
deriving DecidableEq, Repr

namespace TypeRef

def isResolved (reference : TypeRef) : Bool := reference.target.isSome

/-- The reference linked to a place. -/
def resolve (target : TypeId) (reference : TypeRef) : TypeRef := { reference with target := some target }

/-- The reference under another name. The link belonged to the old name, so it is gone. -/
def rename (name : String) (_ : TypeRef) : TypeRef := ⟨name, none⟩

end TypeRef

/-! ## Types and attributes -/

mutual

inductive DataType where
  | primitive (primitive : Primitive)
  | array (element : Attribute)
  | map (key value : Attribute)
  | object (fields : List (String × Attribute))
  | named (reference : TypeRef)
  | collection (reference : TypeRef)

structure Attribute where
  type : DataType
  details : Details := {}

end

deriving instance Repr for DataType, Attribute

mutual

def DataType.name : DataType → String
  | .primitive primitive => primitive.name
  | .array element => "ArrayOf(" ++ element.typeName ++ ")"
  | .map key value => "MapOf(" ++ key.typeName ++ ", " ++ value.typeName ++ ")"
  | .object _ => "Object"
  | .named reference => reference.name
  | .collection reference => "CollectionOf(" ++ reference.name ++ ")"

def Attribute.typeName : Attribute → String
  | ⟨type, _⟩ => type.name

end

namespace DataType

/-- The type of inline objects without fields. -/
def emptyObject : DataType := .object []

/-- The reference to a type by its name. -/
def reference (name : String) : DataType := .named ⟨name, none⟩

/-- The shortcut for the collection of the result type of a name. -/
def collectionOf (name : String) : DataType := .collection ⟨name, none⟩

def isObject : DataType → Bool
  | .object _ => true
  | _ => false

def primitive? : DataType → Option Primitive
  | .primitive builtIn => some builtIn
  | _ => none

def reference? : DataType → Option TypeRef
  | .named reference => some reference
  | .collection reference => some reference
  | _ => none

def fields? : DataType → Option (List (String × Attribute))
  | .object fields => some fields
  | _ => none

/-- The element of an array or the value of a map. -/
def element? : DataType → Option Attribute
  | .array element => some element
  | .map _ value => some value
  | _ => none

def key? : DataType → Option Attribute
  | .map key _ => some key
  | _ => none

/-- The type with another element (of an array) or value (of a map). -/
def withElement (element : Attribute) : DataType → DataType
  | .array _ => .array element
  | .map key _ => .map key element
  | type => type

/-- The type with another key (of a map). -/
def withKey (key : Attribute) : DataType → DataType
  | .map _ value => .map key value
  | type => type

end DataType

namespace Attribute

/-- The attribute of a type, without details. -/
def ofType (type : DataType) : Attribute := ⟨type, {}⟩

def string : Attribute := ofType (.primitive .string)

/-- The attribute of inline objects without fields. -/
def object : Attribute := ofType .emptyObject

/-- The attribute with changed details. -/
def modifyDetails (change : Details → Details) (shape : Attribute) : Attribute :=
  ⟨shape.type, change shape.details⟩

/-- The fields of an inline object; any other attribute has none. -/
def fields (shape : Attribute) : List (String × Attribute) :=
  (shape.type.fields?).getD []

def field? (name : String) (shape : Attribute) : Option Attribute :=
  shape.fields.lookup name

def hasField (name : String) (shape : Attribute) : Bool :=
  (shape.field? name).isSome

/-- The names of the children that must be present. -/
def required (shape : Attribute) : List String :=
  shape.details.validation.required

/-- Whether the child of a name must be present. -/
def isRequired (name : String) (shape : Attribute) : Bool :=
  shape.required.contains name

/-- The attribute with one more field at the end, if it is an inline object. -/
def pushField? (shape : Attribute) (name : String) (child : Attribute) : Option Attribute :=
  match shape.type with
  | .object fields => some ⟨.object (fields ++ [(name, child)]), shape.details⟩
  | _ => none

/-- The attribute with one more field at the end; one that is no inline object stays as it is. -/
def pushField (shape : Attribute) (name : String) (child : Attribute) : Attribute :=
  (shape.pushField? name child).getD shape

end Attribute

end ApiDesign
