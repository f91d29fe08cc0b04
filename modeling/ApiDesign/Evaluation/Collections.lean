import ApiDesign.Registry.Shapes

/-!
Contract: collections get the names of their elements, and shortcuts become references to collections.

Naming. A declared collection gives its element by name, and that name may be the one which another collection will
only have once it is named itself. So collections are named in rounds: each round names those whose element is found
and needs no naming any more. An identifier that another result type has already is a duplicate.

Generation. Each shortcut for the collection of a result type becomes a reference to that collection; if nobody has
declared it, it is generated. A shortcut whose element does not exist stays as it is.
-/

namespace ApiDesign

/-! ## Naming -/

/-- Naming in progress: the result types, the places of the collections that still need their names, and what was
found on the way. -/
structure Naming where
  resultTypes : List ResultType
  pending : List Nat := []
  diagnostics : List Diagnostic := []
deriving Repr

/-- Whether a result type is a collection that a declaration asked for. -/
def ResultType.isDeclaredCollection (resultType : ResultType) : Bool :=
  resultType.collection.any fun facts => !facts.generated

/-- A declared collection with the type name that the given name of its element makes for now. -/
def ResultType.nameProvisionally (suffix : String) (resultType : ResultType) : ResultType :=
  match resultType.collection with
  | some facts =>
      if facts.generated then resultType
      else { resultType with typeName := TypeName.derive facts.element.name ++ suffix }
  | none => resultType

namespace Naming

/-- Naming at its beginning: every declared collection is pending under a provisional type name. -/
def start (suffix : String) (resultTypes : List ResultType) : Naming where
  resultTypes := resultTypes.map (ResultType.nameProvisionally suffix)
  pending := (resultTypes.zipIdx.filter fun entry => entry.1.isDeclaredCollection).map Prod.snd

/-- The place of the first result type of an identifier or, if there is none, of the first one of a type name. -/
def elementPosition? (name : String) (resultTypes : List ResultType) : Option Nat :=
  (resultTypes.findIdx? (·.identifier == name)).or (resultTypes.findIdx? (·.typeName == name))

/-- The collection at a place and its element, if the element is there and not pending. -/
def ready? (naming : Naming) (position : Nat) : Option (ResultType × ResultType) :=
  match naming.resultTypes[position]? with
  | none => none
  | some collection =>
      match collection.collection.bind fun facts => elementPosition? facts.element.name naming.resultTypes with
      | none => none
      | some place =>
          if naming.pending.contains place then none
          else naming.resultTypes[place]?.map fun element => (collection, element)

/-- Whether a result type at another place has an identifier. -/
def isTaken (naming : Naming) (position : Nat) (identifier : String) : Bool :=
  naming.resultTypes.zipIdx.any fun entry => entry.2 != position && entry.1.identifier == identifier

/-- Names the collection at a place after its element, if it is ready. -/
def settle (suffix : String) (naming : Naming) (position : Nat) : Naming :=
  match naming.ready? position with
  | none => naming
  | some (collection, element) =>
      let identifier := ResultType.collectionIdentifier element.identifier
      let pending := naming.pending.filter (· != position)
      if naming.isTaken position identifier then
        { naming with
          pending := pending
          diagnostics := naming.diagnostics ++
            [.located [Kind.resultType.frame collection.identifier]
              (.duplicateName RootKind.resultType.keyword identifier)] }
      else
        { naming with
          pending := pending
          resultTypes := naming.resultTypes.set position (collection.nameAfter element suffix) }

/-- Goes once through the collections that are pending at the beginning of the round. -/
def round (suffix : String) (naming : Naming) : Naming :=
  naming.pending.foldl (settle suffix) naming

/-- Goes through a number of rounds. -/
def rounds (suffix : String) : Nat → Naming → Naming
  | 0, naming => naming
  | count + 1, naming => rounds suffix count (naming.round suffix)

/-- Names all declared collections. A round that names none changes nothing, so as many rounds as there are
collections suffice. -/
def run (suffix : String) (resultTypes : List ResultType) : Naming :=
  let naming := start suffix resultTypes
  rounds suffix naming.pending.length naming

end Naming

/-! ## Generation -/

/-- The collection that stands for the shortcuts of an element. -/
def ResultType.generatedCollection (suffix : String) (element : ResultType) : ResultType :=
  let collection := (ResultType.collectionOf element.identifier).nameAfter element suffix
  { collection with collection := collection.collection.map fun facts => { facts with generated := true } }

/-- Generation in progress: the registry, the collections found for the element names of shortcuts, and what was
found on the way. -/
structure Generation where
  registry : Registry
  targets : List (String × String) := []
  diagnostics : List Diagnostic := []
deriving Repr

/-- The element name of a collection shortcut. -/
def DataType.shortcut? : DataType → Option String
  | .collection reference => some reference.name
  | _ => none

/-- The element names of all shortcuts of a registry, each once, in ascending order. -/
def Registry.shortcutNames (registry : Registry) : List String :=
  sortByName id (addNames (registry.nodes.filterMap fun node => node.type.shortcut?) [])

namespace Generation

/-- Finds or generates the collection for one element name. -/
def provide (suffix : String) (generation : Generation) (name : String) : Generation :=
  match generation.registry.resultType? name with
  | none => generation
  | some element =>
      let identifier := ResultType.collectionIdentifier element.identifier
      let targets := generation.targets ++ [(name, identifier)]
      if generation.registry.contains .resultType identifier then { generation with targets := targets }
      else
        match generation.registry.register (.resultType (element.generatedCollection suffix)) with
        | .ok registry => { generation with registry := registry, targets := targets }
        | .error cause => { generation with diagnostics := generation.diagnostics ++ [.located [] cause] }

/-- The transformation that puts references in place of the shortcuts whose collection was found. -/
def resolution (targets : List (String × String)) : Transformation where
  collection := fun reference =>
    match targets.lookup reference.name with
    | some identifier => .reference identifier
    | none => .collection reference

/-- Replaces the shortcuts of a registry by references to collections. -/
def run (suffix : String) (registry : Registry) : Registry × List Diagnostic :=
  let generation := registry.shortcutNames.foldl (provide suffix) ⟨registry, [], []⟩
  (generation.registry.mapShapes (Attribute.transform (resolution generation.targets)), generation.diagnostics)

end Generation

end ApiDesign
