import ApiDesign.ResultType.TypeName
import ApiDesign.Schema.Attribute

/-!
Contract: user types and result types.

A user type is a named shape. A result type has a media type identifier, a type name and views, each of which selects
some attributes of the shape. A collection is a result type for arrays of another one, its element; its identifier is
the element's with a parameter, and it may take its views from the element.
-/

namespace ApiDesign

/-- A named type. -/
structure UserType where
  name : String
  shape : Attribute
deriving Repr

/-- A view: the attributes that an answer in this view has. -/
structure View where
  name : String
  description : Option String := none
  attributes : List String := []
deriving DecidableEq, Repr

namespace View

/-- The name of the view that every result type must have. -/
def defaultName : String := "default"

/-- The view with one more attribute, unless it is selected already. -/
def select (name : String) (view : View) : View :=
  { view with attributes := addNames [name] view.attributes }

end View

/-- What makes a result type a collection. `generated` marks one that no declaration asked for by name. -/
structure Collection where
  element : TypeRef
  inheritViews : Bool := false
  generated : Bool := false
deriving DecidableEq, Repr

/-- A result type. -/
structure ResultType where
  identifier : String
  typeName : String
  shape : Attribute := Attribute.object
  views : List View := []
  collection : Option Collection := none
deriving Repr

namespace ResultType

/-- The parameter that makes a collection's identifier out of its element's. -/
def collectionParameter : String := "; type=collection"

/-- The identifier of the collection of a result type. -/
def collectionIdentifier (identifier : String) : String := identifier ++ collectionParameter

/-- The ending of a collection's type name where nothing else is configured. -/
def defaultSuffix : String := "Collection"

/-- A result type without attributes and views. -/
def named (identifier : String) : ResultType :=
  { identifier := identifier, typeName := TypeName.derive identifier }

/-- The collection of an element given by name. Its own names are provisional until the element is known. -/
def collectionOf (element : String) : ResultType where
  identifier := collectionIdentifier element
  typeName := TypeName.derive element ++ defaultSuffix
  shape := .ofType (.array (.ofType (.reference element)))
  collection := some { element := ⟨element, none⟩ }

/-- An array of references, with the reference under another name; any other shape stays as it is. -/
def renameElement (name : String) : Attribute → Attribute
  | ⟨.array ⟨.named reference, elementDetails⟩, details⟩ =>
      ⟨.array ⟨.named (reference.rename name), elementDetails⟩, details⟩
  | shape => shape

/-- The collection named after its element: identifier, type name with a suffix, and references to the element. -/
def nameAfter (collection element : ResultType) (suffix : String) : ResultType :=
  { collection with
    identifier := collectionIdentifier element.identifier
    typeName := element.typeName ++ suffix
    collection := collection.collection.map fun facts =>
      { facts with element := facts.element.rename element.identifier }
    shape := renameElement element.identifier collection.shape }

/-- Whether a name is the identifier or the type name. -/
def isNamed (name : String) (resultType : ResultType) : Bool :=
  resultType.identifier == name || resultType.typeName == name

def view? (name : String) (resultType : ResultType) : Option View :=
  resultType.views.find? (·.name == name)

/-- Whether there is a default view. -/
def hasDefaultView (resultType : ResultType) : Bool :=
  (resultType.view? View.defaultName).isSome

def isCollection (resultType : ResultType) : Bool := resultType.collection.isSome

def inheritsViews (resultType : ResultType) : Bool :=
  resultType.collection.any (·.inheritViews)

end ResultType

end ApiDesign
