import ApiDesign.Proofs.Registry.TypeIndex

/-!
Contract: whatever is asked of a registry, in whatever order, its index and its declarations stay in agreement.

A registry is asked to register a declaration, to begin preparing, to rebuild its index or to be sealed. Each request
keeps `Registry.IsKept`: the index agrees with the declarations and the built-in error type is there. From that alone
follows what look-ups find, and that they never lead outside the declarations.

Owns: `Registry.Request`, runs of requests, `Registry.IsReliable`.
Does not own: the order of the declarations after sealing (`Proofs.Registry.Sealing`).
-/

namespace ApiDesign

/-- How far a registry has come. -/
def Phase.stage : Phase → Nat
  | .declaring => 0
  | .preparing => 1
  | .sealed => 2

namespace Registry

/-! ## Requests -/

/-- What may be asked of a registry. -/
inductive Request where
  | register (root : Root)
  | beginPreparing
  | reindex
  | toSealed
deriving Repr

/-- The registry after a request. A registration that something speaks against leaves no other registry behind. -/
def serve (registry : Registry) : Request → Registry
  | .register root =>
      match registry.register root with
      | .ok after => after
      | .error _ => registry
  | .beginPreparing => registry.beginPreparing
  | .reindex => registry.reindex
  | .toSealed => registry.toSealed

/-- The registry after some requests, one after the other. -/
def serveAll (requests : List Request) (registry : Registry) : Registry :=
  requests.foldl serve registry

variable {registry : Registry}

/-! ## One request -/

/-- A registration adds the declaration, unless something speaks against it. -/
theorem serve_register_cases (registry : Registry) (root : Root) :
    ((registry.objection? root).isSome = true ∧ registry.serve (.register root) = registry) ∨
      (registry.objection? root = none ∧ registry.serve (.register root) = registry.append root) := by
  simp only [serve, register]
  cases registry.objection? root with
  | some cause => exact .inl ⟨rfl, rfl⟩
  | none => exact .inr ⟨rfl, rfl⟩

/-- Preparing begins once. -/
theorem serve_beginPreparing_cases (registry : Registry) :
    registry.serve .beginPreparing = registry ∨
      (registry.phase = .declaring ∧ registry.serve .beginPreparing = { registry with phase := .preparing }) := by
  simp only [serve, beginPreparing]
  cases registry.phase with
  | declaring => exact .inr ⟨rfl, rfl⟩
  | preparing => exact .inl rfl
  | sealed => exact .inl rfl

/-- No request leads back to an earlier phase. -/
theorem stage_serve (registry : Registry) (request : Request) :
    registry.phase.stage ≤ (registry.serve request).phase.stage := by
  cases request with
  | register root =>
      rcases serve_register_cases registry root with ⟨_, served⟩ | ⟨_, served⟩
      · rw [served]
      · rw [served]
        cases root <;> exact Nat.le_refl _
  | beginPreparing =>
      rcases serve_beginPreparing_cases registry with served | ⟨declaring, served⟩
      · rw [served]
      · rw [served, declaring]
        exact Nat.zero_le _
  | reindex => exact Nat.le_refl _
  | toSealed =>
      show registry.phase.stage ≤ Phase.sealed.stage
      cases registry.phase <;> decide

/-- The index agrees with the declarations, and the built-in error type is one of them. -/
structure IsKept (registry : Registry) : Prop where
  indexed : registry.IsIndexed
  builtIn : errorResult ∈ registry.userTypes

theorem isKept_initial : initial.IsKept := ⟨isIndexed_initial, List.mem_singleton_self _⟩

theorem IsKept.serve (kept : registry.IsKept) (request : Request) : (registry.serve request).IsKept := by
  cases request with
  | register root =>
      rcases serve_register_cases registry root with ⟨_, served⟩ | ⟨free, served⟩
      · rw [served]
        exact kept
      · rw [served]
        refine ⟨kept.indexed.append free, ?_⟩
        cases root with
        | userType declared => exact List.mem_append_left _ kept.builtIn
        | _ => exact kept.builtIn
  | beginPreparing =>
      rcases serve_beginPreparing_cases registry with served | ⟨_, served⟩
      · rw [served]
        exact kept
      · rw [served]
        exact ⟨kept.indexed, kept.builtIn⟩
  | reindex => exact ⟨isIndexed_reindex kept.indexed.nodup, kept.builtIn⟩
  | toSealed => exact ⟨kept.indexed.toSealed, mem_sortByName.mpr kept.builtIn⟩

/-! ## A run of requests -/

theorem IsKept.serveAll {registry : Registry} (kept : registry.IsKept) :
    ∀ requests : List Request, (registry.serveAll requests).IsKept
  | [] => kept
  | request :: rest => IsKept.serveAll (kept.serve request) rest

theorem stage_serveAll : ∀ (requests : List Request) (registry : Registry),
    registry.phase.stage ≤ (registry.serveAll requests).phase.stage
  | [], _ => Nat.le_refl _
  | request :: rest, registry => Nat.le_trans (stage_serve registry request) (stage_serveAll rest _)

/-! ## Look-up -/

/-- A look-up by name finds the declaration of that name wherever there is one, and the place that it goes by is the
place of a declaration. -/
structure FindsByName (registry : Registry) : Prop where
  service : ∀ name service,
    registry.service? name = some service ↔ service ∈ registry.services ∧ service.name = name
  servicePlace : ∀ name position, registry.index.find? .service name = some position →
    position < registry.services.length
  userType : ∀ name userType,
    registry.userType? name = some userType ↔ userType ∈ registry.userTypes ∧ userType.name = name
  userTypePlace : ∀ name position, registry.index.find? .userType name = some position →
    position < registry.userTypes.length
  identifier : ∀ name resultType, resultType ∈ registry.resultTypes → resultType.identifier = name →
    registry.resultType? name = some resultType
  typeName : ∀ name, (∀ resultType ∈ registry.resultTypes, resultType.identifier ≠ name) →
    registry.resultType? name = registry.resultTypes.find? (·.typeName == name)
  resultTypePlace : ∀ name position, registry.resultTypePosition? name = some position →
    position < registry.resultTypes.length
  shape : ∀ name target, registry.resolve? name = some target → (registry.shapeAt? target).isSome = true
  contains : ∀ kind name, registry.contains kind name = true ↔ name ∈ registry.names kind

theorem IsIndexed.place_lt (indexed : registry.IsIndexed) {kind : RootKind} {name : String} {position : Nat}
    (found : registry.index.find? kind name = some position) : position < (registry.names kind).length :=
  (List.getElem?_eq_some_iff.mp ((indexed kind name position).mp found)).1

theorem IsIndexed.service?_eq (indexed : registry.IsIndexed) (name : String) :
    registry.service? name = registry.services.find? (·.name == name) := by
  rw [service?, indexed.find?_eq_findIdx?, names, List.findIdx?_map, List.find?_eq_bind_findIdx?_getElem?]
  rfl

theorem IsIndexed.userType?_eq (indexed : registry.IsIndexed) (name : String) :
    registry.userType? name = registry.userTypes.find? (·.name == name) := by
  rw [userType?, indexed.find?_eq_findIdx?, names, List.findIdx?_map, List.find?_eq_bind_findIdx?_getElem?]
  rfl

theorem IsIndexed.resultTypePosition?_lt (indexed : registry.IsIndexed) {name : String} {position : Nat}
    (found : registry.resultTypePosition? name = some position) : position < registry.resultTypes.length := by
  rw [indexed.resultTypePosition?_eq] at found
  rcases Option.or_eq_some_iff.mp found with byIdentifier | ⟨_, byTypeName⟩
  · exact (List.findIdx?_eq_some_iff_getElem.mp byIdentifier).1
  · exact (List.findIdx?_eq_some_iff_getElem.mp byTypeName).1

/-- The type that a name refers to has a shape. -/
theorem IsIndexed.isSome_shapeAt? (indexed : registry.IsIndexed) {name : String} {target : TypeId}
    (found : registry.resolve? name = some target) : (registry.shapeAt? target).isSome = true := by
  rcases Option.or_eq_some_iff.mp found with isUser | ⟨_, isResult⟩
  · obtain ⟨position, place, rfl⟩ := Option.map_eq_some_iff.mp isUser
    have below : position < registry.userTypes.length := by simpa [names] using indexed.place_lt place
    simp [shapeAt?, below]
  · obtain ⟨position, place, rfl⟩ := Option.map_eq_some_iff.mp isResult
    simp [shapeAt?, indexed.resultTypePosition?_lt place]

theorem IsIndexed.findsByName (indexed : registry.IsIndexed) : registry.FindsByName where
  service := by
    intro name service
    rw [indexed.service?_eq]
    exact find?_eq_some_iff_mem (indexed.nodup .service)
  servicePlace := by
    intro name position found
    simpa [names] using indexed.place_lt found
  userType := by
    intro name userType
    rw [indexed.userType?_eq]
    exact find?_eq_some_iff_mem (indexed.nodup .userType)
  userTypePlace := by
    intro name position found
    simpa [names] using indexed.place_lt found
  identifier := by
    intro name resultType member named
    have found := (find?_eq_some_iff_mem (indexed.nodup .resultType)).mpr ⟨member, named⟩
    rw [indexed.resultType?_eq, found, Option.some_or]
  typeName := by
    intro name unknown
    have missing : registry.resultTypes.find? (·.identifier == name) = none := by
      rw [List.find?_eq_none]
      intro resultType member
      simpa using unknown resultType member
    rw [indexed.resultType?_eq, missing, Option.none_or]
  resultTypePlace := fun _ _ => indexed.resultTypePosition?_lt
  shape := fun _ _ => indexed.isSome_shapeAt?
  contains := fun _ _ => indexed.contains_iff

/-! ## Refusal -/

/-- What makes a registry refuse a declaration. -/
def Refuses (root : Root) (registry : Registry) : Prop :=
  registry.phase = .sealed ∨ (registry.phase = .preparing ∧ root.kind ≠ .resultType) ∨
    (root.kind = .api ∧ registry.api.isSome = true) ∨ root.name ∈ registry.names root.kind

theorem IsIndexed.objection?_isSome_iff (indexed : registry.IsIndexed) {root : Root} :
    (registry.objection? root).isSome = true ↔ registry.Refuses root := by
  rw [← not_iff_not, Bool.not_eq_true, Option.isSome_eq_false_iff, Option.isNone_iff_eq_none, objection?_eq_none_iff,
    ← Bool.not_eq_true, indexed.contains_iff, Refuses]
  cases registry.phase <;> simp [Phase.admits, not_or, imp_iff_not_or, Option.eq_none_iff_forall_ne_some]

/-- What holds of a registry after any requests. -/
structure IsReliable (registry : Registry) : Prop where
  indexed : registry.IsIndexed
  distinct : ∀ kind, (registry.names kind).Nodup
  builtIn : registry.userType? errorResultName = some errorResult
  lookup : registry.FindsByName
  refusal : ∀ root, (∃ cause, registry.register root = .error cause) ↔ registry.Refuses root
  unchanged : ∀ root, registry.Refuses root → registry.serve (.register root) = registry

theorem IsKept.isReliable (kept : registry.IsKept) : registry.IsReliable where
  indexed := kept.indexed
  distinct := kept.indexed.nodup
  builtIn := (kept.indexed.findsByName.userType errorResultName errorResult).mpr ⟨kept.builtIn, rfl⟩
  lookup := kept.indexed.findsByName
  refusal := by
    intro root
    rw [← kept.indexed.objection?_isSome_iff, register]
    cases registry.objection? root <;> simp
  unchanged := by
    intro root refuses
    rcases serve_register_cases registry root with ⟨_, served⟩ | ⟨free, _⟩
    · exact served
    · have objects := kept.indexed.objection?_isSome_iff.mpr refuses
      rw [free] at objects
      cases objects

/-- After any requests, whatever they are, a registry is reliable, and no further request leads back to an earlier
phase. -/
theorem serveAll_isReliable (requests : List Request) :
    (initial.serveAll requests).IsReliable ∧
      ∀ further, (initial.serveAll requests).phase.stage ≤ (initial.serveAll (requests ++ further)).phase.stage := by
  refine ⟨(isKept_initial.serveAll requests).isReliable, ?_⟩
  intro further
  rw [show initial.serveAll (requests ++ further) = (initial.serveAll requests).serveAll further from
    List.foldl_append]
  exact stage_serveAll further _

end Registry

end ApiDesign
