import ApiDesign.Diagnostic
import ApiDesign.Registry.Index
import ApiDesign.Schema.Traversal
import ApiDesign.Schema.Vocabulary
import ApiDesign.Sorting

/-!
Contract: the registry of top-level declarations.

A registry goes through three phases. While declaring, it takes declarations of every kind; while preparing, result
types only; once sealed, none, and its declarations stand in the order of their names. A key (kind and name) can be
taken once, and there is one API at most. The built-in error type is there from the start.

Owns: registration, lookup by name, sealing, the walk over all attributes.
Does not own: the indices (`Registry.Index`).
-/

namespace ApiDesign

inductive Root where
  | api (api : Api)
  | service (service : Service)
  | userType (userType : UserType)
  | resultType (resultType : ResultType)
deriving Repr

namespace Root

def kind : Root → RootKind
  | .api _ => .api
  | .service _ => .service
  | .userType _ => .userType
  | .resultType _ => .resultType

def name : Root → String
  | .api declared => declared.name
  | .service declared => declared.name
  | .userType declared => declared.name
  | .resultType declared => declared.identifier

end Root

/-- What a registry accepts. -/
inductive Phase where
  | declaring | preparing | sealed
deriving DecidableEq, Repr

def Phase.name : Phase → String
  | .declaring => "Declaring"
  | .preparing => "Preparing"
  | .sealed => "Sealed"

/-- Whether a phase accepts declarations of a kind. -/
def Phase.admits : Phase → RootKind → Bool
  | .declaring, _ => true
  | .preparing, kind => kind == .resultType
  | .sealed, _ => false

/-! ## The built-in error type -/

/-- A described field of a built-in type. -/
def describedField (name : String) (builtIn : Primitive) (description : String) : String × Attribute :=
  (name, ⟨.primitive builtIn, { description := some description }⟩)

/-- The type of errors that declare no type of their own. -/
def errorResult : UserType where
  name := errorResultName
  shape :=
    ⟨.object
      [describedField "name" .string "Name is the name of this class of errors.",
       describedField "id" .string "ID is a unique identifier for this particular occurrence of the problem.",
       describedField "message" .string
         "Message is a human-readable explanation specific to this occurrence of the problem.",
       describedField "temporary" .boolean "Is the error temporary?",
       describedField "timeout" .boolean "Is the error a timeout?",
       describedField "fault" .boolean "Is the error a server-side fault?"],
     { description := some "Error response result type"
       validation := { required := ["name", "id", "message", "temporary"] } }⟩

/-! ## The registry -/

/-- The declarations made so far. -/
structure Registry where
  phase : Phase := .declaring
  api : Option Api := none
  services : List Service := []
  userTypes : List UserType := []
  resultTypes : List ResultType := []
  index : DeclarationIndex := {}
deriving Repr

namespace Registry

/-- The registry before the first declaration. -/
def initial : Registry :=
  { userTypes := [errorResult]
    index := ({} : DeclarationIndex).insert .userType errorResultName 0 }

def size (registry : Registry) : Nat :=
  (if registry.api.isSome then 1 else 0) + registry.services.length + registry.userTypes.length +
    registry.resultTypes.length

def contains (kind : RootKind) (name : String) (registry : Registry) : Bool :=
  (registry.index.find? kind name).isSome

/-! ## Registration -/

/-- What speaks against registering a declaration: the phase, a second API, or a key that is taken. -/
def objection? (root : Root) (registry : Registry) : Option Cause :=
  if !registry.phase.admits root.kind then
    some (.internal ("cannot register " ++ root.kind.keyword ++ " \"" ++ root.name ++ "\" while " ++
      registry.phase.name))
  else
    match root, registry.api with
    | .api _, some existing => some (.duplicateName RootKind.api.keyword existing.name)
    | _, _ =>
        if registry.contains root.kind root.name then some (.duplicateName root.kind.keyword root.name)
        else none

/-- The registry with a declaration added at the end of its kind. -/
def append (root : Root) (registry : Registry) : Registry :=
  match root with
  | .api declared =>
      { registry with api := some declared, index := registry.index.insert .api declared.name 0 }
  | .service declared =>
      { registry with
        services := registry.services ++ [declared]
        index := registry.index.insert .service declared.name registry.services.length }
  | .userType declared =>
      { registry with
        userTypes := registry.userTypes ++ [declared]
        index := registry.index.insert .userType declared.name registry.userTypes.length }
  | .resultType declared =>
      { registry with
        resultTypes := registry.resultTypes ++ [declared]
        index := registry.index.insert .resultType declared.identifier registry.resultTypes.length }

/-- Registers a declaration, unless something speaks against it. -/
def register (root : Root) (registry : Registry) : Except Cause Registry :=
  match registry.objection? root with
  | some cause => .error cause
  | none => .ok (registry.append root)

/-! ## Lookup -/

def service? (name : String) (registry : Registry) : Option Service :=
  (registry.index.find? .service name).bind fun position => registry.services[position]?

def userType? (name : String) (registry : Registry) : Option UserType :=
  (registry.index.find? .userType name).bind fun position => registry.userTypes[position]?

/-- The place of the result type of an identifier or, if there is none, of the first one of a type name. -/
def resultTypePosition? (name : String) (registry : Registry) : Option Nat :=
  (registry.index.find? .resultType name).or (registry.resultTypes.findIdx? (·.typeName == name))

/-- The result type of an identifier or else of a type name. -/
def resultType? (name : String) (registry : Registry) : Option ResultType :=
  (registry.resultTypePosition? name).bind fun position => registry.resultTypes[position]?

theorem mem_resultTypes_of_resultType? {name : String} {registry : Registry} {resultType : ResultType}
    (found : registry.resultType? name = some resultType) : resultType ∈ registry.resultTypes := by
  obtain ⟨_, _, here⟩ := Option.bind_eq_some_iff.mp found
  exact List.mem_of_getElem? here

/-- The type that a name refers to: a user type before a result type. -/
def resolve? (name : String) (registry : Registry) : Option TypeId :=
  ((registry.index.find? .userType name).map TypeId.user).or
    ((registry.resultTypePosition? name).map TypeId.result)

/-- The type that a name refers to, or the diagnostic that there is none. -/
def resolve (name : String) (registry : Registry) : Except Cause TypeId :=
  match registry.resolve? name with
  | some target => .ok target
  | none => .error (.unresolvedReference name)

def shapeAt? (target : TypeId) (registry : Registry) : Option Attribute :=
  match target with
  | .user position => registry.userTypes[position]?.map (·.shape)
  | .result position => registry.resultTypes[position]?.map (·.shape)

def shapeOf? (name : String) (registry : Registry) : Option Attribute :=
  (registry.resolve? name).bind fun target => registry.shapeAt? target

/-- Every name by which a type may be found. -/
def typeNames (registry : Registry) : List String :=
  registry.index.names .userType ++ registry.index.names .resultType ++
    registry.resultTypes.map (·.typeName)

/-- A name that has a shape is one of the names by which a type may be found. -/
theorem mem_typeNames_of_shapeOf? {name : String} {registry : Registry}
    (found : (registry.shapeOf? name).isSome) : name ∈ registry.typeNames := by
  have resolved : (registry.resolve? name).isSome := by
    cases resolution : registry.resolve? name with
    | none => simp [shapeOf?, resolution] at found
    | some target => rfl
  simp only [resolve?, Option.isSome_or, Option.isSome_map, resultTypePosition?, Bool.or_eq_true] at resolved
  simp only [typeNames, List.mem_append, List.mem_map]
  rcases resolved with isUser | isIdentifier | isTypeName
  · exact .inl (.inl (DeclarationIndex.mem_names_of_find? isUser))
  · exact .inl (.inr (DeclarationIndex.mem_names_of_find? isIdentifier))
  · rw [List.findIdx?_isSome, List.any_eq_true] at isTypeName
    obtain ⟨resultType, member, same⟩ := isTypeName
    exact .inr ⟨resultType, member, by simpa using same⟩

/-- The shapes of the declared types, by name. -/
def vocabulary (registry : Registry) : Vocabulary :=
  ⟨registry.shapeOf?, registry.typeNames, fun _ => mem_typeNames_of_shapeOf?⟩

/-- The index of the declared types by any of their names. -/
def typeIndex (registry : Registry) : TypeIndex :=
  .ofTypes registry.userTypes registry.resultTypes

/-! ## Phases -/

/-- Ends the declaring phase. In a later phase, nothing changes. -/
def beginPreparing (registry : Registry) : Registry :=
  match registry.phase with
  | .declaring => { registry with phase := .preparing }
  | _ => registry

/-- The name that the declaration of a kind at a place has now. The API needs no place. -/
def nameAt? (kind : RootKind) (position : Nat) (registry : Registry) : Option String :=
  match kind with
  | .api => registry.api.map (·.name)
  | .service => registry.services[position]?.map (·.name)
  | .userType => registry.userTypes[position]?.map (·.name)
  | .resultType => registry.resultTypes[position]?.map (·.identifier)

/-- Overwrites the name of the declaration of a kind at a place. The index does not know until it is rebuilt. -/
def rename (kind : RootKind) (position : Nat) (name : String) (registry : Registry) : Registry :=
  match kind with
  | .api => { registry with api := registry.api.map fun declared => { declared with name := name } }
  | .service =>
      { registry with services := registry.services.modify position fun declared => { declared with name := name } }
  | .userType =>
      { registry with userTypes := registry.userTypes.modify position fun declared => { declared with name := name } }
  | .resultType =>
      { registry with
        resultTypes := registry.resultTypes.modify position fun declared => { declared with identifier := name } }

/-- Rebuilds the index from the names that the declarations have now. -/
def reindex (registry : Registry) : Registry :=
  let ofApi : DeclarationIndex :=
    match registry.api with
    | some api => ({} : DeclarationIndex).insert .api api.name 0
    | none => {}
  let withServices := ofApi.insertAll .service 0 (registry.services.map (·.name))
  let withUserTypes := withServices.insertAll .userType 0 (registry.userTypes.map (·.name))
  { registry with index := withUserTypes.insertAll .resultType 0 (registry.resultTypes.map (·.identifier)) }

/-- Ends registration: the declarations of each kind are sorted by name and indexed again. -/
def toSealed (registry : Registry) : Registry :=
  { registry with
    services := sortByName (·.name) registry.services
    userTypes := sortByName (·.name) registry.userTypes
    resultTypes := sortByName (·.identifier) registry.resultTypes
    phase := .sealed }.reindex

end Registry

end ApiDesign
