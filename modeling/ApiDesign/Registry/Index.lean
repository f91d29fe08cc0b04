import ApiDesign.ResultType.Basic
import ApiDesign.Service

/-!
Contract: the two indices by which declarations are found by name.

`DeclarationIndex` maps a kind and a name to a place among the declarations of that kind; it serves registration and
lookup. `TypeIndex` maps every name by which a type can be referred to onto the type: names of user types come
before identifiers of result types, and these before type names.
-/

namespace ApiDesign

inductive RootKind where
  | api | service | userType | resultType
deriving DecidableEq, Repr

def RootKind.all : List RootKind := [.api, .service, .userType, .resultType]

/-- The word for a kind of declaration in diagnostics. -/
def RootKind.keyword : RootKind → String
  | .api => "api"
  | .service => "service"
  | .userType => "type"
  | .resultType => "result type"

/-! ## Declarations by kind and name -/

/-- Places by kind and name. The newest entry stands first and hides older ones of the same key. -/
structure DeclarationIndex where
  entries : List ((RootKind × String) × Nat) := []
deriving DecidableEq, Repr

namespace DeclarationIndex

/-- The place of a name among the declarations of a kind. -/
def find? (kind : RootKind) (name : String) (index : DeclarationIndex) : Option Nat :=
  index.entries.lookup (kind, name)

/-- The index with one place set. -/
def insert (kind : RootKind) (name : String) (position : Nat) (index : DeclarationIndex) : DeclarationIndex :=
  ⟨((kind, name), position) :: index.entries⟩

/-- The index with the places of some names of one kind set, counted from a first place on. -/
def insertAll (kind : RootKind) (index : DeclarationIndex) (position : Nat) : List String → DeclarationIndex
  | [] => index
  | name :: rest => insertAll kind (index.insert kind name position) (position + 1) rest

/-- The names of a kind that have a place. -/
def names (kind : RootKind) (index : DeclarationIndex) : List String :=
  (index.entries.filter fun entry => entry.1.1 == kind).map fun entry => entry.1.2

/-- A name that has a place is among the names of its kind. -/
theorem mem_names_of_find? {kind : RootKind} {name : String} {index : DeclarationIndex}
    (found : (index.find? kind name).isSome) : name ∈ index.names kind := by
  obtain ⟨entries⟩ := index
  simp only [find?] at found
  simp only [names, List.mem_map, List.mem_filter]
  induction entries with
  | nil => simp at found
  | cons head rest inductionHypothesis =>
      obtain ⟨key, position⟩ := head
      by_cases same : (kind, name) = key
      · subst same
        exact ⟨((kind, name), position), ⟨List.mem_cons_self, by simp⟩, rfl⟩
      · have different : ((kind, name) == key) = false := by simp [same]
        rw [List.lookup_cons, different] at found
        obtain ⟨entry, ⟨member, sameKind⟩, sameName⟩ := inductionHypothesis found
        exact ⟨entry, ⟨List.mem_cons_of_mem _ member, sameKind⟩, sameName⟩

end DeclarationIndex

/-! ## Types by any of their names -/

/-- Types by name. The first entry of a name counts. -/
structure TypeIndex where
  entries : List (String × TypeId) := []
deriving DecidableEq, Repr

namespace TypeIndex

/-- The type that a name refers to. -/
def find? (name : String) (index : TypeIndex) : Option TypeId :=
  index.entries.lookup name

/-- How many names refer to a type. -/
def size (index : TypeIndex) : Nat :=
  (addNames (index.entries.map Prod.fst) []).length

/-- The index of some types. Of several user types of one name, and of several result types of one identifier, the
last counts; of several result types of one type name, the first. -/
def ofTypes (userTypes : List UserType) (resultTypes : List ResultType) : TypeIndex :=
  ⟨(userTypes.zipIdx.map fun (userType, position) => (userType.name, TypeId.user position)).reverse ++
    (resultTypes.zipIdx.map fun (resultType, position) => (resultType.identifier, TypeId.result position)).reverse ++
    (resultTypes.zipIdx.map fun (resultType, position) => (resultType.typeName, TypeId.result position))⟩

end TypeIndex

end ApiDesign
