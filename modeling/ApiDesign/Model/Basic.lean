import ApiDesign.Model.Search
import ApiDesign.Registry.Basic
import ApiDesign.Schema.Acceptance

/-!
Contract: the model, the result of an evaluation.

A model holds the declarations of a sealed registry in the order of their names, with their references linked. It is
found in by name, and by following a linked reference.
-/

namespace ApiDesign

/-- The result of an evaluation. -/
structure Model where
  api : Option Api
  services : Array Service
  userTypes : Array UserType
  resultTypes : Array ResultType
deriving Repr

/-- A declared type of either sort. -/
inductive TypeDeclaration where
  | user (userType : UserType)
  | result (resultType : ResultType)
deriving Repr

namespace TypeDeclaration

def kind : TypeDeclaration → Kind
  | .user _ => .userType
  | .result _ => .resultType

/-- The name or the identifier of a declared type. -/
def name : TypeDeclaration → String
  | .user declared => declared.name
  | .result declared => declared.identifier

def shape : TypeDeclaration → Attribute
  | .user declared => declared.shape
  | .result declared => declared.shape

end TypeDeclaration

namespace Model

def ofRegistry (registry : Registry) : Model where
  api := registry.api
  services := registry.services.toArray
  userTypes := registry.userTypes.toArray
  resultTypes := registry.resultTypes.toArray

/-! ## Lookup by name -/

def service? (name : String) (model : Model) : Option Service :=
  search? (·.name) model.services name

def method? (service method : String) (model : Model) : Option Method :=
  (model.service? service).bind (·.method? method)

def error? (service method error : String) (model : Model) : Option ErrorAnswer :=
  (model.method? service method).bind (·.error? error)

def userType? (name : String) (model : Model) : Option UserType :=
  search? (·.name) model.userTypes name

/-- The result type of an identifier or, if there is none, the first one of a type name. -/
def resultType? (name : String) (model : Model) : Option ResultType :=
  (search? (·.identifier) model.resultTypes name).or (model.resultTypes.find? (·.typeName == name))

def view? (resultType view : String) (model : Model) : Option View :=
  (model.resultType? resultType).bind (·.view? view)

/-- The shape of the type that a name refers to: a user type before a result type. -/
def shapeOf? (name : String) (model : Model) : Option Attribute :=
  ((model.userType? name).map (·.shape)).or ((model.resultType? name).map (·.shape))

/-! ## References -/

/-- The type that a reference is linked to. -/
def resolve? (reference : TypeRef) (model : Model) : Option TypeDeclaration :=
  match reference.target with
  | some (.user position) => model.userTypes[position]?.map .user
  | some (.result position) => model.resultTypes[position]?.map .result
  | none => none

/-- Every name by which a type may be found. -/
def typeNames (model : Model) : List String :=
  model.userTypes.toList.map (·.name) ++ model.resultTypes.toList.map (·.identifier) ++
    model.resultTypes.toList.map (·.typeName)

/-- A name that has a shape is one of the names by which a type may be found. -/
theorem mem_typeNames_of_shapeOf? {name : String} {model : Model}
    (found : (model.shapeOf? name).isSome) : name ∈ model.typeNames := by
  simp only [shapeOf?, Option.isSome_or, Option.isSome_map, Bool.or_eq_true, userType?, resultType?,
    Option.isSome_iff_exists] at found
  simp only [typeNames, List.mem_append, List.mem_map]
  rcases found with ⟨userType, isUser⟩ | ⟨resultType, isIdentifier⟩ | ⟨resultType, isTypeName⟩
  · obtain ⟨member, sameName⟩ := mem_of_search? isUser
    exact .inl (.inl ⟨userType, by simpa using member, sameName⟩)
  · obtain ⟨member, sameName⟩ := mem_of_search? isIdentifier
    exact .inl (.inr ⟨resultType, by simpa using member, sameName⟩)
  · have member := Array.mem_of_find?_eq_some isTypeName
    have sameName := Array.find?_some isTypeName
    exact .inr ⟨resultType, by simpa using member, by simpa using sameName⟩

/-- The shapes of the declared types, by name. -/
def vocabulary (model : Model) : Vocabulary :=
  ⟨model.shapeOf?, model.typeNames, fun _ => mem_typeNames_of_shapeOf?⟩

end Model

/-! ## Paths -/

/-- A step from an attribute into one of its parts. -/
inductive Step where
  | element
  | key
  | field (name : String)
deriving DecidableEq, Repr

/-- The part that a step leads to. -/
def Attribute.part? (shape : Attribute) : Step → Option Attribute
  | .element => shape.type.element?
  | .key => shape.type.key?
  | .field name => shape.field? name

/-- The part that a path leads to. -/
def Attribute.follow? : List Step → Attribute → Option Attribute
  | [], shape => some shape
  | step :: rest, shape => (shape.part? step).bind (Attribute.follow? rest)

/-- The reference at the end of a path from the shape of a named type. -/
def Model.referenceAt? (type : String) (path : List Step) (model : Model) : Option TypeRef :=
  ((model.shapeOf? type).bind (Attribute.follow? path)).bind fun shape => shape.type.reference?

end ApiDesign
