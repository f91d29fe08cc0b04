import ApiDesign.Proofs.Evaluation.Shortcuts
import ApiDesign.Proofs.Evaluation.Stages

/-!
Contract: two registries that differ in the user type of one name.

The larger registry may have a user type of that name, the smaller one has none; apart from that they have the same
declarations in the same order. Registering any other declaration, and every stage of preparing, keeps them so: result
types, which are all that naming and generation look at, are the same in both.

Owns: `Registry.Gains`, its preservation, the look-up of other names.
Does not own: what evaluation finds in the two (`Proofs.Evaluation.Unrelated`).
-/

namespace ApiDesign

namespace Registry

/-- No attribute of the user types of this name is a shortcut for a collection. -/
def HasNoShortcutIn (name : String) (registry : Registry) : Prop :=
  ∀ userType ∈ registry.userTypes, userType.name = name → ∀ node ∈ userType.shape.nodes, node.type.shortcut? = none

/-- The larger registry is the smaller one, but for a user type of this name. -/
structure Gains (name : String) (smaller larger : Registry) : Prop where
  phase : larger.phase = smaller.phase
  api : larger.api = smaller.api
  services : larger.services = smaller.services
  resultTypes : larger.resultTypes = smaller.resultTypes
  userTypes : larger.userTypes.filter (·.name != name) = smaller.userTypes
  indexed : smaller.IsIndexed
  otherIndexed : larger.IsIndexed

namespace Gains

variable {name : String} {smaller larger : Registry}

theorem initial (notBuiltIn : name ≠ errorResultName) : Gains name .initial .initial where
  phase := rfl
  api := rfl
  services := rfl
  resultTypes := rfl
  userTypes := by simp [Registry.initial, errorResult, Ne.symm notBuiltIn]
  indexed := isIndexed_initial
  otherIndexed := isIndexed_initial

/-! ## Names -/

/-- Any other declaration is named in both or in neither. -/
theorem mem_names_iff (gains : Gains name smaller larger) {kind : RootKind} {other : String}
    (isOther : kind = .userType → other ≠ name) : other ∈ larger.names kind ↔ other ∈ smaller.names kind := by
  cases kind with
  | api => rw [names, names, gains.api]
  | service => rw [names, names, gains.services]
  | resultType => rw [names, names, gains.resultTypes]
  | userType =>
      have different := isOther rfl
      simp only [names, ← gains.userTypes, List.mem_map, List.mem_filter, bne_iff_ne, and_assoc]
      constructor
      · rintro ⟨userType, member, rfl⟩
        exact ⟨userType, member, different, rfl⟩
      · rintro ⟨userType, member, _, same⟩
        exact ⟨userType, member, same⟩

/-- Every other key is taken in both or in neither. -/
theorem contains_eq (gains : Gains name smaller larger) {kind : RootKind} {other : String}
    (isOther : kind = .userType → other ≠ name) : larger.contains kind other = smaller.contains kind other := by
  rw [Bool.eq_iff_iff, gains.otherIndexed.contains_iff, gains.indexed.contains_iff]
  exact gains.mem_names_iff isOther

/-! ## Registration -/

/-- The same speaks against any other declaration. -/
theorem objection?_eq (gains : Gains name smaller larger) {root : Root}
    (isOther : root.kind = .userType → root.name ≠ name) : larger.objection? root = smaller.objection? root := by
  unfold objection?
  rw [gains.phase, gains.api, gains.contains_eq isOther]

/-- Another declaration can be added to both. -/
theorem append (gains : Gains name smaller larger) {root : Root}
    (isOther : root.kind = .userType → root.name ≠ name) (free : smaller.objection? root = none) :
    Gains name (smaller.append root) (larger.append root) := by
  have indexed := gains.indexed.append free
  have otherIndexed := gains.otherIndexed.append ((gains.objection?_eq isOther).trans free)
  cases root with
  | api declared =>
      exact ⟨gains.phase, rfl, gains.services, gains.resultTypes, gains.userTypes, indexed, otherIndexed⟩
  | service declared =>
      exact ⟨gains.phase, gains.api, congrArg (· ++ [declared]) gains.services, gains.resultTypes, gains.userTypes,
        indexed, otherIndexed⟩
  | userType declared =>
      refine ⟨gains.phase, gains.api, gains.services, gains.resultTypes, ?_, indexed, otherIndexed⟩
      have kept : (declared.name != name) = true := bne_iff_ne.mpr (isOther rfl)
      simp [Registry.append, gains.userTypes, kept]
  | resultType declared =>
      exact ⟨gains.phase, gains.api, gains.services, congrArg (· ++ [declared]) gains.resultTypes, gains.userTypes,
        indexed, otherIndexed⟩

/-- The user type of the name can be added to the larger registry only. -/
theorem append_right (gains : Gains name smaller larger) {userType : UserType} (isNamed : userType.name = name)
    (free : larger.objection? (.userType userType) = none) :
    Gains name smaller (larger.append (.userType userType)) := by
  refine ⟨gains.phase, gains.api, gains.services, gains.resultTypes, ?_, gains.indexed, gains.otherIndexed.append free⟩
  simp [Registry.append, gains.userTypes, isNamed]

/-! ## Changes -/

theorem mapShapes (gains : Gains name smaller larger) (change : Attribute → Attribute) :
    Gains name (smaller.mapShapes change) (larger.mapShapes change) where
  phase := gains.phase
  api := congrArg (Option.map (Api.mapShapes change)) gains.api
  services := congrArg (List.map (Service.mapShapes change)) gains.services
  resultTypes := congrArg (List.map (ResultType.mapShape change)) gains.resultTypes
  userTypes := by
    simp only [Registry.mapShapes, ← gains.userTypes, List.filter_map]
    rfl
  indexed := gains.indexed.mapShapes change
  otherIndexed := gains.otherIndexed.mapShapes change

theorem toSealed (gains : Gains name smaller larger) : Gains name smaller.toSealed larger.toSealed where
  phase := rfl
  api := gains.api
  services := congrArg (sortByName Service.name) gains.services
  resultTypes := congrArg (sortByName ResultType.identifier) gains.resultTypes
  userTypes := by
    -- No two user types have one name, so sorting goes the same way without those of the name.
    have distinct := gains.otherIndexed.nodup .userType
    exact (filter_sortByName _ distinct).trans (congrArg _ gains.userTypes)
  indexed := gains.indexed.toSealed
  otherIndexed := gains.otherIndexed.toSealed

/-! ## Look-up -/

/-- A name leads to the same result type. -/
theorem resultType?_eq (gains : Gains name smaller larger) (other : String) :
    larger.resultType? other = smaller.resultType? other := by
  rw [gains.otherIndexed.resultType?_eq, gains.indexed.resultType?_eq, gains.resultTypes]

/-- Another name leads to the same user type. -/
theorem find?_userTypes (gains : Gains name smaller larger) {other : String} (isOther : other ≠ name) :
    larger.userTypes.find? (·.name == other) = smaller.userTypes.find? (·.name == other) := by
  rw [← gains.userTypes, List.find?_filter]
  refine List.find?_congr fun userType _ => ?_
  by_cases same : userType.name = other
  · simp [same, isOther]
  · simp [same]

/-- Another name has the same shape. -/
theorem shapeOf?_eq (gains : Gains name smaller larger) {other : String} (isOther : other ≠ name) :
    larger.shapeOf? other = smaller.shapeOf? other := by
  rw [gains.otherIndexed.shapeOf?_eq, gains.indexed.shapeOf?_eq, gains.find?_userTypes isOther, gains.resultType?_eq]

/-- Another name denotes the same result type, or a user type in both, though maybe at another place. -/
theorem denoted?_cases (gains : Gains name smaller larger) {other : String} (isOther : other ≠ name) :
    larger.denoted? other = smaller.denoted? other ∨
      ∃ place otherPlace, smaller.denoted? other = some (.user place) ∧
        larger.denoted? other = some (.user otherPlace) := by
  have sameUsers : other ∈ larger.names .userType ↔ other ∈ smaller.names .userType :=
    gains.mem_names_iff fun _ => isOther
  have isUser : ∀ registry : Registry, other ∈ registry.names .userType →
      ∃ place, registry.denoted? other = some (.user place) := by
    intro registry member
    have isThere : ((registry.names .userType).findIdx? (· == other)).isSome := by
      rw [List.findIdx?_isSome]
      exact List.any_eq_true.mpr ⟨other, member, beq_self_eq_true other⟩
    obtain ⟨place, found⟩ := Option.isSome_iff_exists.mp isThere
    exact ⟨place, by rw [denoted?, TypeId.denoted?, found]; rfl⟩
  have noUser : ∀ registry : Registry, other ∉ registry.names .userType →
      (registry.names .userType).findIdx? (· == other) = none := by
    intro registry absent
    exact List.findIdx?_eq_none_iff.mpr fun there member => beq_false_of_ne (ne_of_mem_of_not_mem member absent)
  by_cases known : other ∈ smaller.names .userType
  · obtain ⟨place, found⟩ := isUser smaller known
    obtain ⟨otherPlace, otherFound⟩ := isUser larger (sameUsers.mpr known)
    exact .inr ⟨place, otherPlace, found, otherFound⟩
  · refine .inl ?_
    rw [denoted?, denoted?, TypeId.denoted?, TypeId.denoted?, noUser smaller known,
      noUser larger fun member => known (sameUsers.mp member), names, names, gains.resultTypes]

/-! ## Shapes -/

/-- The larger registry has the shapes of the smaller one and that of the user type. -/
theorem mem_shapes_iff (gains : Gains name smaller larger) {shape : Attribute} :
    shape ∈ larger.shapes ↔
      shape ∈ smaller.shapes ∨ ∃ userType ∈ larger.userTypes, userType.name = name ∧ userType.shape = shape := by
  have inUserTypes : shape ∈ larger.userTypes.map (·.shape) ↔ shape ∈ smaller.userTypes.map (·.shape) ∨
      ∃ userType ∈ larger.userTypes, userType.name = name ∧ userType.shape = shape := by
    simp only [← gains.userTypes, List.mem_map, List.mem_filter, bne_iff_ne, and_assoc]
    constructor
    · rintro ⟨userType, member, isShape⟩
      by_cases isNamed : userType.name = name
      · exact .inr ⟨userType, member, isNamed, isShape⟩
      · exact .inl ⟨userType, member, isNamed, isShape⟩
    · rintro (⟨userType, member, _, isShape⟩ | ⟨userType, member, _, isShape⟩) <;> exact ⟨userType, member, isShape⟩
  simp only [shapes, servers, gains.api, gains.services, gains.resultTypes, List.mem_append, inUserTypes, or_assoc]
  rw [or_comm (a := ∃ _, _)]

/-- If the user type has no shortcuts, the larger registry asks for the same elements. -/
theorem shortcutNames_eq (gains : Gains name smaller larger)
    (noShortcut : larger.HasNoShortcutIn name) :
    larger.shortcutNames = smaller.shortcutNames := by
  apply shortcutNames_eq_of_mem_iff
  intro asked
  rw [mem_shortcutNames, mem_shortcutNames]
  simp only [nodes, List.mem_flatMap, gains.mem_shapes_iff]
  constructor
  · rintro ⟨node, ⟨shape, inSmaller | ⟨userType, member, isNamed, rfl⟩, inShape⟩, isShortcut⟩
    · exact ⟨node, ⟨shape, inSmaller, inShape⟩, isShortcut⟩
    · rw [noShortcut userType member isNamed node inShape] at isShortcut
      cases isShortcut
  · rintro ⟨node, ⟨shape, inSmaller, inShape⟩, isShortcut⟩
    exact ⟨node, ⟨shape, .inl inSmaller, inShape⟩, isShortcut⟩

/-! ## Preparing -/

variable (settings : Settings)

theorem named (gains : Gains name smaller larger) (declared : smaller.IsDeclared) (otherDeclared : larger.IsDeclared) :
    Gains name (smaller.named settings) (larger.named settings) := by
  refine ⟨?_, ?_, ?_, ?_, ?_, declared.isIndexed_named, otherDeclared.isIndexed_named⟩
  · rw [declared.phase_named, otherDeclared.phase_named]
  · rw [declared.named_eq, otherDeclared.named_eq]
    exact gains.api
  · rw [declared.named_eq, otherDeclared.named_eq]
    exact gains.services
  · rw [declared.resultTypes_named, otherDeclared.resultTypes_named, gains.resultTypes]
  · rw [declared.named_eq, otherDeclared.named_eq]
    exact gains.userTypes

/-- The collection of an element is there in both, or added to both. -/
theorem withCollection (gains : Gains name smaller larger) (preparing : smaller.phase = .preparing) (suffix : String)
    (element : ResultType) :
    (Generation.withCollection suffix element smaller).phase = .preparing ∧
      Gains name (Generation.withCollection suffix element smaller)
        (Generation.withCollection suffix element larger) := by
  unfold Generation.withCollection
  rw [gains.contains_eq (by simp)]
  cases there : smaller.contains .resultType (ResultType.collectionIdentifier element.identifier) with
  | true => exact ⟨preparing, gains⟩
  | false =>
      have free : smaller.objection? (.resultType (element.generatedCollection suffix)) = none :=
        (register_eq_ok_iff.mp (register_resultType preparing there)).1
      exact ⟨preparing, gains.append (by simp [Root.kind]) free⟩

/-- Generation finds the same targets in both and adds the same collections. -/
theorem foldl_provide (suffix : String) :
    ∀ (elements : List String) (left right : Generation), left.registry.phase = .preparing →
      Gains name left.registry right.registry → right.targets = left.targets →
      Gains name (elements.foldl (Generation.provide suffix) left).registry
          (elements.foldl (Generation.provide suffix) right).registry ∧
        (elements.foldl (Generation.provide suffix) right).targets =
          (elements.foldl (Generation.provide suffix) left).targets
  | [], _, _, _, gains, targets => ⟨gains, targets⟩
  | asked :: rest, left, right, preparing, gains, targets => by
      rw [List.foldl_cons, List.foldl_cons, Generation.provide_eq preparing,
        Generation.provide_eq (gains.phase.trans preparing), gains.resultType?_eq]
      cases left.registry.resultType? asked with
      | none => exact foldl_provide suffix rest _ _ preparing gains targets
      | some element =>
          -- A target is a place among the result types, where a user type shifts nothing.
          obtain ⟨stillPreparing, stillGains⟩ := gains.withCollection preparing suffix element
          exact foldl_provide suffix rest _ _ stillPreparing stillGains (congrArg (· ++ [_]) targets)

theorem generated (gains : Gains name smaller larger) (declared : smaller.IsDeclared)
    (otherDeclared : larger.IsDeclared) (noShortcut : larger.HasNoShortcutIn name) :
    Gains name (smaller.generated settings) (larger.generated settings) := by
  obtain ⟨stillGains, targets⟩ := foldl_provide settings.collectionSuffix smaller.shortcutNames
    ⟨smaller.named settings, [], []⟩ ⟨larger.named settings, [], []⟩ declared.phase_named
    (gains.named settings declared otherDeclared) rfl
  rw [declared.generated_eq, otherDeclared.generated_eq, generation, generation, Generation.final, Generation.final,
    declared.shortcutNames_named, otherDeclared.shortcutNames_named, gains.shortcutNames_eq noShortcut, targets]
  exact stillGains.mapShapes _

/-- Preparing keeps registries the same, but for a user type without shortcuts. -/
theorem prepared (gains : Gains name smaller larger) (declared : smaller.IsDeclared)
    (otherDeclared : larger.IsDeclared) (noShortcut : larger.HasNoShortcutIn name) :
    Gains name (smaller.prepared settings) (larger.prepared settings) := by
  have generated := gains.generated settings declared otherDeclared noShortcut
  have indexed : (smaller.completed settings).IsIndexed := declared.isIndexed_completed
  have otherIndexed : (larger.completed settings).IsIndexed := otherDeclared.isIndexed_completed
  have sameExamples : (larger.generated settings).allowsExamples settings =
      (smaller.generated settings).allowsExamples settings := by
    rw [allowsExamples, generated.api, allowsExamples]
  unfold Registry.prepared
  refine Gains.toSealed ?_
  unfold Registry.completed markExamples at indexed otherIndexed ⊢
  rw [sameExamples] at otherIndexed ⊢
  have marked := generated.mapShapes
    (Attribute.transform { details := Details.markExamples ((smaller.generated settings).allowsExamples settings) })
  exact ⟨marked.phase, marked.api, congrArg (List.map Service.shareErrors) marked.services,
    congrArg (List.map ResultType.canonicalViews) marked.resultTypes, marked.userTypes, indexed, otherIndexed⟩

end Gains

end Registry

end ApiDesign
