import ApiDesign.Model.Basic
import ApiDesign.Proofs.Registry.Index
import ApiDesign.Proofs.Search

/-!
Contract: one rule decides which type a name denotes, wherever it is asked.

`TypeId.denoted?` is the rule: the user type of the name, else the result type of the identifier, else the first
result type of the type name. The index of types follows it, the look-up in an indexed registry does, and so does the
look-up in a model whose arenas are ascending. Which names lead to a type at all, and which to a result type, is known
without any order or distinctness.

Owns: the rule, `Model.denoted?`, the agreement of the three look-ups with it, `Registry.NamesType`,
`Registry.NamesResultType`.
-/

namespace ApiDesign

/-- The type that a name denotes among types with these names. -/
def TypeId.denoted? (name : String) (userNames identifiers typeNames : List String) : Option TypeId :=
  ((userNames.findIdx? (· == name)).map .user).or
    (((identifiers.findIdx? (· == name)).or (typeNames.findIdx? (· == name))).map .result)

/-- A look-up whose answers all lead on can be continued before or after an alternative is taken. -/
theorem bind_or {α β : Type} {first second : Option α} {next : α → Option β}
    (total : ∀ answer, first = some answer → (next answer).isSome) :
    (first.or second).bind next = (first.bind next).or (second.bind next) := by
  cases first with
  | none => simp
  | some answer =>
      obtain ⟨onward, leads⟩ := Option.isSome_iff_exists.mp (total answer rfl)
      simp [leads]

/-! ## The index of types -/

/-- With distinct names the index of types follows the rule. -/
theorem TypeIndex.find?_ofTypes {userTypes : List UserType} {resultTypes : List ResultType}
    (distinctUsers : (userTypes.map (·.name)).Nodup) (distinctResults : (resultTypes.map (·.identifier)).Nodup)
    (name : String) :
    (TypeIndex.ofTypes userTypes resultTypes).find? name =
      TypeId.denoted? name (userTypes.map (·.name)) (resultTypes.map (·.identifier))
        (resultTypes.map (·.typeName)) := by
  have userKeys : ((userTypes.zipIdx.map fun entry => (entry.1.name, TypeId.user entry.2)).map Prod.fst).Nodup := by
    rw [map_fst_zipIdx UserType.name TypeId.user]
    exact distinctUsers
  have resultKeys :
      ((resultTypes.zipIdx.map fun entry => (entry.1.identifier, TypeId.result entry.2)).map Prod.fst).Nodup := by
    rw [map_fst_zipIdx ResultType.identifier TypeId.result]
    exact distinctResults
  unfold TypeIndex.ofTypes TypeIndex.find? TypeId.denoted?
  rw [List.lookup_append, List.lookup_append, lookup_reverse userKeys, lookup_reverse resultKeys,
    lookup_zipIdx UserType.name TypeId.user, lookup_zipIdx ResultType.identifier TypeId.result,
    lookup_zipIdx ResultType.typeName TypeId.result]
  simp only [Nat.zero_add, List.findIdx?_map, Option.or_assoc, Option.map_or]
  rfl

/-! ## Names of types -/

namespace Registry

/-- The name refers to a type. -/
def NamesType (registry : Registry) (name : String) : Prop :=
  name ∈ registry.userTypes.map (·.name) ∨ name ∈ registry.resultTypes.map (·.identifier) ∨
    name ∈ registry.resultTypes.map (·.typeName)

/-- The name refers to a result type: no user type has it. -/
def NamesResultType (registry : Registry) (name : String) : Prop :=
  name ∉ registry.userTypes.map (·.name) ∧
    (name ∈ registry.resultTypes.map (·.identifier) ∨ name ∈ registry.resultTypes.map (·.typeName))

instance (registry : Registry) (name : String) : Decidable (registry.NamesType name) := by
  unfold NamesType
  infer_instance

instance (registry : Registry) (name : String) : Decidable (registry.NamesResultType name) := by
  unfold NamesResultType
  infer_instance

/-- The index of types has exactly the names that refer to types. -/
theorem find?_typeIndex_eq_none_iff (registry : Registry) (name : String) :
    registry.typeIndex.find? name = none ↔ ¬registry.NamesType name := by
  unfold typeIndex TypeIndex.ofTypes TypeIndex.find? NamesType
  rw [lookup_eq_none_iff_notMem, List.map_append, List.map_append, List.map_reverse, List.map_reverse,
    map_fst_zipIdx UserType.name TypeId.user, map_fst_zipIdx ResultType.identifier TypeId.result,
    map_fst_zipIdx ResultType.typeName TypeId.result]
  simp only [List.mem_append, List.mem_reverse, or_assoc]

/-- The index of types leads to a user type exactly from the names of user types. -/
theorem find?_typeIndex_eq_user_iff (registry : Registry) (name : String) :
    (∃ position, registry.typeIndex.find? name = some (.user position)) ↔
      name ∈ registry.userTypes.map (·.name) := by
  unfold typeIndex TypeIndex.ofTypes TypeIndex.find?
  rw [List.append_assoc, List.lookup_append]
  constructor
  · rintro ⟨position, found⟩
    by_contra isNoUser
    have notAmongUsers : ((registry.userTypes.zipIdx.map fun entry =>
        (entry.1.name, TypeId.user entry.2)).reverse).lookup name = none := by
      rw [lookup_eq_none_iff_notMem, List.map_reverse, List.mem_reverse, map_fst_zipIdx UserType.name TypeId.user]
      exact isNoUser
    rw [notAmongUsers, Option.none_or] at found
    have isResult := mem_of_lookup found
    simp at isResult
  · intro isUser
    cases found : ((registry.userTypes.zipIdx.map fun entry =>
        (entry.1.name, TypeId.user entry.2)).reverse).lookup name with
    | none =>
        rw [lookup_eq_none_iff_notMem, List.map_reverse, List.mem_reverse,
          map_fst_zipIdx UserType.name TypeId.user] at found
        exact absurd isUser found
    | some target =>
        obtain ⟨⟨userType, position⟩, _, same⟩ := List.mem_map.mp (List.mem_reverse.mp (mem_of_lookup found))
        cases same
        exact ⟨position, rfl⟩

end Registry

/-! ## The type that a name denotes -/

namespace Registry

/-- The type that a name denotes in a registry. -/
def denoted? (name : String) (registry : Registry) : Option TypeId :=
  TypeId.denoted? name (registry.names .userType) (registry.names .resultType)
    (registry.resultTypes.map (·.typeName))

theorem IsIndexed.find?_typeIndex {registry : Registry} (indexed : registry.IsIndexed) (name : String) :
    registry.typeIndex.find? name = registry.denoted? name :=
  TypeIndex.find?_ofTypes (indexed.nodup .userType) (indexed.nodup .resultType) name

theorem IsIndexed.resultTypePosition?_eq {registry : Registry} (indexed : registry.IsIndexed) (name : String) :
    registry.resultTypePosition? name =
      (registry.resultTypes.findIdx? (·.identifier == name)).or
        (registry.resultTypes.findIdx? (·.typeName == name)) := by
  rw [resultTypePosition?, indexed.find?_eq_findIdx?, names, List.findIdx?_map]
  rfl

/-- The result type of a name: the one with that identifier, else the first one with that type name. -/
theorem IsIndexed.resultType?_eq {registry : Registry} (indexed : registry.IsIndexed) (name : String) :
    registry.resultType? name =
      (registry.resultTypes.find? (·.identifier == name)).or
        (registry.resultTypes.find? (·.typeName == name)) := by
  have inRange : ∀ position, registry.resultTypes.findIdx? (·.identifier == name) = some position →
      (registry.resultTypes[position]?).isSome := by
    intro position found
    obtain ⟨below, _⟩ := List.findIdx?_eq_some_iff_getElem.mp found
    rw [List.getElem?_eq_getElem below]
    rfl
  rw [resultType?, indexed.resultTypePosition?_eq, bind_or inRange, ← List.find?_eq_bind_findIdx?_getElem?,
    ← List.find?_eq_bind_findIdx?_getElem?]

/-- No result type is found exactly if none has the name. -/
theorem IsIndexed.resultType?_eq_none_iff {registry : Registry} (indexed : registry.IsIndexed) {name : String} :
    registry.resultType? name = none ↔ ∀ resultType ∈ registry.resultTypes, resultType.isNamed name = false := by
  rw [indexed.resultType?_eq, Option.or_eq_none_iff, List.find?_eq_none, List.find?_eq_none]
  simp only [ResultType.isNamed, Bool.or_eq_false_iff, Bool.not_eq_true]
  exact ⟨fun both resultType member => ⟨both.1 resultType member, both.2 resultType member⟩,
    fun neither => ⟨fun resultType member => (neither resultType member).1,
      fun resultType member => (neither resultType member).2⟩⟩

/-- An indexed registry finds the type that a name denotes. -/
theorem IsIndexed.resolve?_eq_denoted? {registry : Registry} (indexed : registry.IsIndexed) (name : String) :
    registry.resolve? name = registry.denoted? name := by
  rw [resolve?, indexed.resultTypePosition?_eq, indexed.find?_eq_findIdx?, denoted?, TypeId.denoted?]
  simp only [names, List.findIdx?_map]
  rfl

/-- The shape of a name: that of the user type, else that of the result type. -/
theorem IsIndexed.shapeOf?_eq {registry : Registry} (indexed : registry.IsIndexed) (name : String) :
    registry.shapeOf? name =
      ((registry.userTypes.find? (·.name == name)).map (·.shape)).or ((registry.resultType? name).map (·.shape)) := by
  have inRange : ∀ target, (registry.userTypes.findIdx? (·.name == name)).map TypeId.user = some target →
      (registry.shapeAt? target).isSome := by
    intro target found
    obtain ⟨position, isPlace, rfl⟩ := Option.map_eq_some_iff.mp found
    obtain ⟨below, _⟩ := List.findIdx?_eq_some_iff_getElem.mp isPlace
    simp [shapeAt?, below]
  have byIndex : (registry.index.find? .userType name) = registry.userTypes.findIdx? (·.name == name) := by
    rw [indexed.find?_eq_findIdx?, names, List.findIdx?_map]
    rfl
  rw [shapeOf?, resolve?, byIndex, bind_or inRange, List.find?_eq_bind_findIdx?_getElem?, resultType?, Option.bind_map,
    Option.bind_map, Option.map_bind, Option.map_bind]
  rfl

/-- Where a name denotes a result type, looking it up among result types finds that one. -/
theorem IsIndexed.resultType?_of_denoted? {registry : Registry} (indexed : registry.IsIndexed) {name : String}
    {position : Nat} (denotes : registry.denoted? name = some (.result position)) :
    registry.resultType? name = registry.resultTypes[position]? := by
  unfold denoted? TypeId.denoted? at denotes
  rcases Option.or_eq_some_iff.mp denotes with isUser | ⟨_, isResult⟩
  · obtain ⟨_, _, other⟩ := Option.map_eq_some_iff.mp isUser
    cases other
  · obtain ⟨place, found, same⟩ := Option.map_eq_some_iff.mp isResult
    cases same
    simp only [names, List.findIdx?_map] at found
    have foundAlike : registry.resultTypePosition? name = some position := by
      rw [indexed.resultTypePosition?_eq]
      exact found
    rw [resultType?, foundAlike, Option.bind_some]

end Registry

/-! ## Models -/

namespace Model

/-- The declaration at a place. -/
def declaration? (target : TypeId) (model : Model) : Option TypeDeclaration :=
  match target with
  | .user position => model.userTypes[position]?.map .user
  | .result position => model.resultTypes[position]?.map .result

/-- The declaration that a name denotes in a model: the user type of the name, else the result type of the
identifier, else the first result type of the type name. -/
def denoted? (name : String) (model : Model) : Option TypeDeclaration :=
  ((model.userTypes.find? (·.name == name)).map .user).or
    (((model.resultTypes.find? (·.identifier == name)).or (model.resultTypes.find? (·.typeName == name))).map .result)

/-- The services, the user types and the result types stand in strictly ascending order of their names. -/
structure IsAscending (model : Model) : Prop where
  services : model.services.toList.Pairwise fun left right => left.name < right.name
  userTypes : model.userTypes.toList.Pairwise fun left right => left.name < right.name
  resultTypes : model.resultTypes.toList.Pairwise fun left right => left.identifier < right.identifier

theorem resolve?_eq_bind (reference : TypeRef) (model : Model) :
    model.resolve? reference = reference.target.bind fun target => model.declaration? target := by
  unfold resolve? declaration?
  cases reference.target with
  | none => rfl
  | some target => cases target <;> rfl

theorem declaration?_user_ofRegistry (position : Nat) (registry : Registry) :
    (Model.ofRegistry registry).declaration? (.user position) = registry.userTypes[position]?.map .user := by
  simp [declaration?, ofRegistry]

theorem declaration?_result_ofRegistry (position : Nat) (registry : Registry) :
    (Model.ofRegistry registry).declaration? (.result position) = registry.resultTypes[position]?.map .result := by
  simp [declaration?, ofRegistry]

/-- The declaration that a name denotes stands at the place that the name denotes. -/
theorem denoted?_ofRegistry (name : String) (registry : Registry) :
    (Model.ofRegistry registry).denoted? name =
      (registry.denoted? name).bind fun target => (Model.ofRegistry registry).declaration? target := by
  have users : (registry.userTypes.find? fun userType => userType.name == name).map TypeDeclaration.user =
      ((registry.userTypes.findIdx? fun userType => userType.name == name).map TypeId.user).bind
        fun target => (Model.ofRegistry registry).declaration? target := by
    rw [List.find?_eq_bind_findIdx?_getElem?, Option.map_bind, Option.bind_map]
    exact Option.bind_congr fun position _ => (declaration?_user_ofRegistry position registry).symm
  have results : ∀ accepts : ResultType → Bool,
      (registry.resultTypes.find? accepts).map TypeDeclaration.result =
        ((registry.resultTypes.findIdx? accepts).map TypeId.result).bind
          fun target => (Model.ofRegistry registry).declaration? target := by
    intro accepts
    rw [List.find?_eq_bind_findIdx?_getElem?, Option.map_bind, Option.bind_map]
    exact Option.bind_congr fun position _ => (declaration?_result_ofRegistry position registry).symm
  have usersTotal : ∀ target, ((registry.userTypes.findIdx? fun userType => userType.name == name).map TypeId.user) =
      some target → ((Model.ofRegistry registry).declaration? target).isSome := by
    intro target found
    obtain ⟨position, first, rfl⟩ := Option.map_eq_some_iff.mp found
    obtain ⟨below, _⟩ := List.findIdx?_eq_some_iff_getElem.mp first
    simp [declaration?_user_ofRegistry, below]
  have resultsTotal : ∀ accepts : ResultType → Bool, ∀ target,
      ((registry.resultTypes.findIdx? accepts).map TypeId.result) = some target →
        ((Model.ofRegistry registry).declaration? target).isSome := by
    intro accepts target found
    obtain ⟨position, first, rfl⟩ := Option.map_eq_some_iff.mp found
    obtain ⟨below, _⟩ := List.findIdx?_eq_some_iff_getElem.mp first
    simp [declaration?_result_ofRegistry, below]
  unfold denoted? Registry.denoted? TypeId.denoted?
  simp only [Registry.names, List.findIdx?_map, Option.map_or, Function.comp_def]
  rw [bind_or usersTotal, bind_or (resultsTotal _)]
  simp only [ofRegistry, List.find?_toArray, users, results]

/-- At a place that a name denotes there is a declaration. -/
theorem isSome_declaration?_of_denoted? {name : String} {registry : Registry} {target : TypeId}
    (found : registry.denoted? name = some target) :
    ((Model.ofRegistry registry).declaration? target).isSome = true := by
  unfold Registry.denoted? TypeId.denoted? at found
  rcases Option.or_eq_some_iff.mp found with isUser | ⟨_, isResult⟩
  · obtain ⟨position, first, rfl⟩ := Option.map_eq_some_iff.mp isUser
    have below := (List.findIdx?_eq_some_iff_getElem.mp first).1
    simp only [Registry.names, List.length_map] at below
    simp [declaration?_user_ofRegistry, below]
  · obtain ⟨position, place, rfl⟩ := Option.map_eq_some_iff.mp isResult
    have below : position < registry.resultTypes.length := by
      rcases Option.or_eq_some_iff.mp place with first | ⟨_, first⟩
      · simpa [Registry.names] using (List.findIdx?_eq_some_iff_getElem.mp first).1
      · simpa using (List.findIdx?_eq_some_iff_getElem.mp first).1
    simp [declaration?_result_ofRegistry, below]

/-- Over ascending arenas the look-up by binary search finds the declaration that a name denotes. -/
theorem IsAscending.shapeOf?_eq {model : Model} (ascending : model.IsAscending) (name : String) :
    model.shapeOf? name = (model.denoted? name).map (·.shape) := by
  unfold shapeOf? userType? resultType? denoted?
  rw [search?_eq_find? ascending.userTypes, search?_eq_find? ascending.resultTypes]
  simp only [Option.map_or, Option.map_map]
  rfl

/-- In an ascending arena, an identifier leads to the one result type that has it. -/
theorem IsAscending.find?_identifier {model : Model} (ascending : model.IsAscending) {resultType : ResultType}
    (member : resultType ∈ model.resultTypes) :
    model.resultTypes.find? (·.identifier == resultType.identifier) = some resultType := by
  have distinct : (model.resultTypes.toList.map (·.identifier)).Nodup :=
    List.pairwise_map.mpr (ascending.resultTypes.imp fun before same => by
      rw [same] at before
      exact String.lt_irrefl _ before)
  rw [← Array.find?_toList]
  exact (find?_eq_some_iff_mem distinct).mpr ⟨by simpa using member, rfl⟩

/-- If the identifier of a result type denotes a result type, then this one. -/
theorem IsAscending.eq_of_denoted? {model : Model} (ascending : model.IsAscending) {resultType denoted : ResultType}
    (member : resultType ∈ model.resultTypes)
    (denotes : model.denoted? resultType.identifier = some (.result denoted)) : denoted = resultType := by
  unfold denoted? at denotes
  rw [ascending.find?_identifier member, Option.some_or, Option.map_some] at denotes
  rcases Option.or_eq_some_iff.mp denotes with isUser | ⟨_, isResult⟩
  · obtain ⟨_, _, other⟩ := Option.map_eq_some_iff.mp isUser
    cases other
  · cases isResult
    rfl

end Model

end ApiDesign
