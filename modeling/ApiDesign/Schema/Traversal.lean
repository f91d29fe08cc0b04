import ApiDesign.Kind
import ApiDesign.Schema.Attribute

/-!
Contract: walking over an attribute and everything inside it.

The walk meets an attribute before its parts: the element of an array, the key before the value of a map, the fields
of an object in order. References are not followed. `nodes` and `located` list what the walk meets, `located` with
the frames on the way; `transform` changes every node in place; `traverse` changes details while it carries a state
along.
-/

namespace ApiDesign

/-! ## Listing -/

mutual

/-- The attribute and all attributes inside it, in walking order. -/
def Attribute.nodes : Attribute → List Attribute
  | ⟨type, details⟩ => ⟨type, details⟩ :: type.nodes

/-- All attributes inside a type, in walking order. -/
def DataType.nodes : DataType → List Attribute
  | .primitive _ => []
  | .array element => element.nodes
  | .map key value => key.nodes ++ value.nodes
  | .object fields => DataType.fieldNodes fields
  | .named _ => []
  | .collection _ => []

/-- All attributes inside fields, in walking order. -/
def DataType.fieldNodes : List (String × Attribute) → List Attribute
  | [] => []
  | (_, child) :: rest => child.nodes ++ DataType.fieldNodes rest

end

mutual

/-- The nodes of an attribute, each with the frames that lead to it after a given trail. -/
def Attribute.located (trail : List String) : Attribute → List (List String × Attribute)
  | ⟨type, details⟩ => (trail, ⟨type, details⟩) :: type.located trail

/-- The nodes inside a type, each with its frames. -/
def DataType.located (trail : List String) : DataType → List (List String × Attribute)
  | .primitive _ => []
  | .array element => element.located (trail ++ [Frame.element])
  | .map key value => key.located (trail ++ [Frame.key]) ++ value.located (trail ++ [Frame.element])
  | .object fields => DataType.locatedFields trail fields
  | .named _ => []
  | .collection _ => []

/-- The nodes inside fields, each with its frames. -/
def DataType.locatedFields (trail : List String) : List (String × Attribute) → List (List String × Attribute)
  | [] => []
  | (name, child) :: rest =>
      child.located (trail ++ [Kind.attr.frame name]) ++ DataType.locatedFields trail rest

end

/-! ## Transformation -/

/-- What to put in place of a reference, of a collection shortcut and of details; by default each stays. -/
structure Transformation where
  named : TypeRef → DataType := .named
  collection : TypeRef → DataType := .collection
  details : Details → Details := id

mutual

/-- The attribute with every node transformed. -/
def Attribute.transform (transformation : Transformation) : Attribute → Attribute
  | ⟨type, details⟩ => ⟨type.transform transformation, transformation.details details⟩

/-- The type with every node inside it transformed. -/
def DataType.transform (transformation : Transformation) : DataType → DataType
  | .primitive builtIn => .primitive builtIn
  | .array element => .array (element.transform transformation)
  | .map key value => .map (key.transform transformation) (value.transform transformation)
  | .object fields => .object (DataType.transformFields transformation fields)
  | .named reference => transformation.named reference
  | .collection reference => transformation.collection reference

/-- Fields with every node inside them transformed. -/
def DataType.transformFields (transformation : Transformation) :
    List (String × Attribute) → List (String × Attribute)
  | [] => []
  | (name, child) :: rest => (name, child.transform transformation) :: DataType.transformFields transformation rest

end

/-! ## Walking with a state -/

mutual

/-- Visits every node in walking order. A visit sees the node, answers its new details and hands on a state. -/
def Attribute.traverse {σ : Type} (visit : Attribute → σ → Details × σ) : Attribute → σ → Attribute × σ
  | ⟨type, details⟩, state =>
      let (newDetails, afterNode) := visit ⟨type, details⟩ state
      let (newType, afterParts) := type.traverse visit afterNode
      (⟨newType, newDetails⟩, afterParts)

def DataType.traverse {σ : Type} (visit : Attribute → σ → Details × σ) : DataType → σ → DataType × σ
  | .primitive builtIn, state => (.primitive builtIn, state)
  | .array element, state =>
      let (newElement, afterElement) := element.traverse visit state
      (.array newElement, afterElement)
  | .map key value, state =>
      let (newKey, afterKey) := key.traverse visit state
      let (newValue, afterValue) := value.traverse visit afterKey
      (.map newKey newValue, afterValue)
  | .object fields, state =>
      let (newFields, afterFields) := DataType.traverseFields visit fields state
      (.object newFields, afterFields)
  | .named reference, state => (.named reference, state)
  | .collection reference, state => (.collection reference, state)

def DataType.traverseFields {σ : Type} (visit : Attribute → σ → Details × σ) :
    List (String × Attribute) → σ → List (String × Attribute) × σ
  | [], state => ([], state)
  | (name, child) :: rest, state =>
      let (newChild, afterChild) := child.traverse visit state
      let (newRest, afterRest) := DataType.traverseFields visit rest afterChild
      ((name, newChild) :: newRest, afterRest)

end

end ApiDesign
