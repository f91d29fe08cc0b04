import ApiDesign.Proofs.Registry.Index

/-!
Contract: the two ways to resolve a name agree, whatever names the declarations have.

A registry resolves a name by its index and, failing that, by going through the type names; the index of types knows
every name at once. Registration keeps names apart, but names may be overwritten in place, and then several
declarations may share one. Once the index is rebuilt, both ways go by one rule: the last user type of the name, else
the last result type of the identifier, else the first result type of the type name.

Owns: `TypeId.lastDenoted?`, the rule for shared names, and `Registry.ResolversAgree`.
Does not own: registries whose names are distinct (`Proofs.Registry.TypeIndex`).
-/

namespace ApiDesign

/-! ## The last place of a name -/

/-- The last place of a name among names. -/
def lastPlace? (wanted : String) (names : List String) : Option Nat :=
  names.zipIdx.reverse.lookup wanted

theorem getElem?_of_lastPlace? {wanted : String} {names : List String} {position : Nat}
    (last : lastPlace? wanted names = some position) : names[position]? = some wanted :=
  List.mem_zipIdx_iff_getElem?.mp (List.mem_reverse.mp (mem_of_lookup last))

/-- Entries whose keys stay apart are found as before, with what became of their values. -/
theorem lookup_map_entries {κ κ' υ υ' : Type} [BEq κ] [LawfulBEq κ] [BEq κ'] [LawfulBEq κ'] {key : κ → κ'}
    (injective : Function.Injective key) (value : υ → υ') (wanted : κ) :
    ∀ entries : List (κ × υ),
      (entries.map fun entry => (key entry.1, value entry.2)).lookup (key wanted) = (entries.lookup wanted).map value
  | [] => rfl
  | (headKey, headValue) :: rest => by
      rw [List.map_cons, List.lookup_cons, List.lookup_cons]
      by_cases same : wanted = headKey
      · rw [same, beq_self_eq_true, beq_self_eq_true]
        rfl
      · rw [beq_eq_false_iff_ne.mpr same, beq_eq_false_iff_ne.mpr (injective.ne same)]
        exact lookup_map_entries injective value wanted rest

/-- In a numbered list put in backwards, the number of the last item with a key is found. -/
theorem lookup_reverse_zipIdx {α υ : Type} (key : α → String) (value : Nat → υ) (items : List α) (wanted : String) :
    (items.zipIdx.map fun entry => (key entry.1, value entry.2)).reverse.lookup wanted =
      (lastPlace? wanted (items.map key)).map value := by
  have renamed : (items.zipIdx.map fun entry => (key entry.1, value entry.2)) =
      (items.map key).zipIdx.map fun entry => (entry.1, value entry.2) := by
    rw [List.zipIdx_map, List.map_map]
    rfl
  rw [renamed, ← List.map_reverse]
  exact lookup_map_entries (Function.injective_id : Function.Injective (id : String → String)) value wanted _

/-! ## The rule for shared names -/

/-- The type that a name denotes among types of which several may have it: the last user type, else the last result
type of the identifier, else the first result type of the type name. -/
def TypeId.lastDenoted? (name : String) (userNames identifiers typeNames : List String) : Option TypeId :=
  ((lastPlace? name userNames).map .user).or
    (((lastPlace? name identifiers).or (typeNames.findIdx? (· == name))).map .result)

/-- The index of types follows the rule. -/
theorem TypeIndex.find?_ofTypes_eq_lastDenoted? (userTypes : List UserType) (resultTypes : List ResultType)
    (name : String) :
    (TypeIndex.ofTypes userTypes resultTypes).find? name =
      TypeId.lastDenoted? name (userTypes.map (·.name)) (resultTypes.map (·.identifier))
        (resultTypes.map (·.typeName)) := by
  unfold TypeIndex.ofTypes TypeIndex.find? TypeId.lastDenoted?
  rw [List.lookup_append, List.lookup_append, lookup_reverse_zipIdx UserType.name TypeId.user,
    lookup_reverse_zipIdx ResultType.identifier TypeId.result, lookup_zipIdx ResultType.typeName TypeId.result]
  simp only [Nat.zero_add, List.findIdx?_map, Option.or_assoc, Option.map_or]
  rfl

namespace Registry

/-- The entries of a kind know the last place of each name of the kind, and no other. -/
theorem lookup_entriesOf (kind other : RootKind) (name : String) (registry : Registry) :
    (registry.entriesOf kind).lookup (other, name) =
      if other = kind then lastPlace? name (registry.names kind) else none := by
  by_cases same : other = kind
  · subst same
    rw [if_pos rfl, entriesOf, ← List.map_reverse, lastPlace?]
    have apart : Function.Injective fun name : String => (other, name) := fun _ _ equal => (Prod.mk.inj equal).2
    have found := lookup_map_entries apart (fun place : Nat => place) name (registry.names other).zipIdx.reverse
    rwa [Option.map_id'] at found
  · rw [if_neg same, lookup_eq_none_iff_notMem]
    intro member
    obtain ⟨⟨key, position⟩, inEntries, isKey⟩ := List.mem_map.mp member
    subst isKey
    exact same (mem_entriesOf.mp inEntries).1

/-- A rebuilt index finds the last place of a name. -/
theorem find?_reindex (kind : RootKind) (name : String) (registry : Registry) :
    registry.reindex.index.find? kind name = lastPlace? name (registry.names kind) := by
  rw [DeclarationIndex.find?, entries_reindex]
  simp only [List.lookup_append, lookup_entriesOf]
  cases kind <;> simp

/-- With its index rebuilt, a registry resolves names by the rule. -/
theorem resolve?_reindex (registry : Registry) (name : String) :
    registry.reindex.resolve? name =
      TypeId.lastDenoted? name (registry.names .userType) (registry.names .resultType)
        (registry.resultTypes.map (·.typeName)) := by
  rw [resolve?, resultTypePosition?, find?_reindex, find?_reindex, TypeId.lastDenoted?, List.findIdx?_map]
  rfl

/-! ## Agreement -/

/-- The type at a place has a name and a shape. -/
inductive Declares (registry : Registry) : TypeId → String → Attribute → Prop
  | user {position : Nat} {userType : UserType} (here : registry.userTypes[position]? = some userType) :
      Declares registry (.user position) userType.name userType.shape
  | identifier {position : Nat} {resultType : ResultType} (here : registry.resultTypes[position]? = some resultType) :
      Declares registry (.result position) resultType.identifier resultType.shape
  | typeName {position : Nat} {resultType : ResultType} (here : registry.resultTypes[position]? = some resultType) :
      Declares registry (.result position) resultType.typeName resultType.shape

/-- Whether there is a declaration at a place. -/
def IsPlace (registry : Registry) : TypeId → Prop
  | .user position => position < registry.userTypes.length
  | .result position => position < registry.resultTypes.length

variable {registry : Registry}

theorem Declares.isPlace {target : TypeId} {name : String} {shape : Attribute}
    (declares : registry.Declares target name shape) : registry.IsPlace target := by
  cases declares with
  | user here => exact (List.getElem?_eq_some_iff.mp here).1
  | identifier here => exact (List.getElem?_eq_some_iff.mp here).1
  | typeName here => exact (List.getElem?_eq_some_iff.mp here).1

theorem Declares.shapeAt?_eq {target : TypeId} {name : String} {shape : Attribute}
    (declares : registry.Declares target name shape) : registry.shapeAt? target = some shape := by
  cases declares with
  | user here => simp [shapeAt?, here]
  | identifier here => simp [shapeAt?, here]
  | typeName here => simp [shapeAt?, here]

/-- The index of types leads from a name to a type that has it. -/
theorem exists_declares_of_find?_typeIndex {name : String} {target : TypeId}
    (found : registry.typeIndex.find? name = some target) : ∃ shape, registry.Declares target name shape := by
  have named : ∀ {α : Type} {key : α → String} {items : List α} {position : Nat},
      (items.map key)[position]? = some name → ∃ item, items[position]? = some item ∧ key item = name := by
    intro α key items position here
    rw [List.getElem?_map] at here
    exact Option.map_eq_some_iff.mp here
  rw [typeIndex, TypeIndex.find?_ofTypes_eq_lastDenoted?] at found
  rcases Option.or_eq_some_iff.mp found with isUser | ⟨_, isResult⟩
  · obtain ⟨position, last, rfl⟩ := Option.map_eq_some_iff.mp isUser
    obtain ⟨userType, here, rfl⟩ := named (getElem?_of_lastPlace? last)
    exact ⟨userType.shape, .user here⟩
  · obtain ⟨position, place, rfl⟩ := Option.map_eq_some_iff.mp isResult
    rcases Option.or_eq_some_iff.mp place with last | ⟨_, first⟩
    · obtain ⟨resultType, here, rfl⟩ := named (getElem?_of_lastPlace? last)
      exact ⟨resultType.shape, .identifier here⟩
    · obtain ⟨below, isName, _⟩ := List.findIdx?_eq_some_iff_getElem.mp first
      have atPlace := (List.getElem?_eq_getElem below).trans (congrArg some (beq_iff_eq.mp isName))
      obtain ⟨resultType, here, rfl⟩ := named atPlace
      exact ⟨resultType.shape, .typeName here⟩

/-- Both ways to resolve a name lead to the same type or nowhere, and where they lead there is a type that has the name,
whose shape is the shape of the name. -/
structure ResolversAgree (registry : Registry) : Prop where
  sameTarget : ∀ name target, registry.resolve name = .ok target ↔ registry.typeIndex.find? name = some target
  isPlace : ∀ name target, registry.typeIndex.find? name = some target → registry.IsPlace target
  shape : ∀ name target, registry.typeIndex.find? name = some target →
    ∃ shape, registry.Declares target name shape ∧ registry.shapeOf? name = some shape
  unknown : ∀ name, registry.typeIndex.find? name = none → registry.shapeOf? name = none

theorem resolve_eq_ok_iff {name : String} {target : TypeId} :
    registry.resolve name = .ok target ↔ registry.resolve? name = some target := by
  rw [resolve]
  cases registry.resolve? name <;> simp

/-- Where the registry resolves every name as the index of types does, the rest follows. -/
theorem ResolversAgree.of_resolve?_eq
    (same : ∀ name, registry.resolve? name = registry.typeIndex.find? name) : registry.ResolversAgree where
  sameTarget := fun name target => by rw [resolve_eq_ok_iff, same]
  isPlace := by
    intro name target found
    obtain ⟨shape, declares⟩ := exists_declares_of_find?_typeIndex found
    exact declares.isPlace
  shape := by
    intro name target found
    obtain ⟨shape, declares⟩ := exists_declares_of_find?_typeIndex found
    refine ⟨shape, declares, ?_⟩
    rw [shapeOf?, same, found, Option.bind_some, declares.shapeAt?_eq]
  unknown := by
    intro name unknown
    rw [shapeOf?, same, unknown, Option.bind_none]

theorem resolversAgree_reindex (registry : Registry) : registry.reindex.ResolversAgree := by
  refine .of_resolve?_eq fun name => ?_
  rw [resolve?_reindex, typeIndex, TypeIndex.find?_ofTypes_eq_lastDenoted?]
  rfl

/-- Whatever was registered and whichever names were overwritten in place, shared ones included: once the index is
rebuilt or the registry is sealed, the two ways to resolve a name agree. -/
theorem resolvers_agree (registry : Registry) :
    registry.reindex.ResolversAgree ∧ registry.toSealed.ResolversAgree :=
  ⟨resolversAgree_reindex registry, resolversAgree_reindex _⟩

/-- Of two user types that were given one name, the later one is found, and a type name leads to the first. -/
example :
    let registry : Registry :=
      { userTypes := [⟨"Vintage", .string⟩, ⟨"Vintage", .object⟩]
        resultTypes := [⟨"a/x", "Bottle", .object, [], none⟩, ⟨"b/x", "Bottle", .object, [], none⟩] }
    registry.reindex.resolve? "Vintage" = some (.user 1) ∧ registry.reindex.resolve? "Bottle" = some (.result 0) := by
  decide

end Registry

end ApiDesign
