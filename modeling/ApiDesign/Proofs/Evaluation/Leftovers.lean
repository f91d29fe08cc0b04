import ApiDesign.Proofs.Design.FirstOfKey
import ApiDesign.Proofs.Evaluation.Shortcuts
import ApiDesign.Proofs.Evaluation.Staging

/-!
Contract: which collection shortcuts are left when a registry is prepared.

Generation goes once through the element names of shortcuts, in ascending order. A name is looked up when its turn
comes, among the result types that are there by then, so a collection that is generated at a later turn comes too late
for it. A shortcut is left behind exactly if every result type of its name comes too late.

Owns: the turn of a name, `Generation.GeneratesAt`, the shortcuts of a prepared registry.
Does not own: what a replaced shortcut becomes (`Proofs.Model.Shortcuts`).
-/

namespace ApiDesign

/-! ## Turns -/

namespace Registry

/-- The element names of shortcuts stand in strictly ascending order. -/
theorem ascending_shortcutNames (registry : Registry) : registry.shortcutNames.Pairwise (· < ·) := by
  unfold shortcutNames
  refine pairwise_lt_sortByName id _ ?_
  rw [List.map_id]
  exact nodup_addNames List.nodup_nil

end Registry

namespace Generation

variable {base : Registry}

/-- The state of generation when the turn of an element name comes: smaller names have been gone through. -/
def beforeTurn (suffix : String) (registry : Registry) (name : String) : Generation :=
  (registry.shortcutNames.takeWhile fun earlier => decide (earlier < name)).foldl (provide suffix) ⟨registry, [], []⟩

/-- A result type comes by its identifier at the turn of an element name. -/
def GeneratesAt (suffix : String) (registry : Registry) (name identifier : String) : Prop :=
  identifier ∉ (beforeTurn suffix registry name).registry.names .resultType ∧
    identifier ∈ ((beforeTurn suffix registry name).provide suffix name).registry.names .resultType

/-- The turn of a name comes when the names in front of it have been gone through. -/
theorem beforeTurn_eq (suffix : String) {registry : Registry} {earlier later : List String} {name : String}
    (names : registry.shortcutNames = earlier ++ name :: later) :
    beforeTurn suffix registry name = earlier.foldl (provide suffix) ⟨registry, [], []⟩ := by
  have ascending := registry.ascending_shortcutNames
  rw [names, List.pairwise_append] at ascending
  unfold beforeTurn
  rw [names, List.takeWhile_append_of_pos, List.takeWhile_cons]
  · simp only [String.lt_irrefl, decide_false, Bool.false_eq_true, if_false, List.append_nil]
  · intro other member
    simpa using ascending.2.2 other member name List.mem_cons_self

/-- From the turn of a name to that of a later one, the name and those in between are gone through. -/
theorem beforeTurn_later (suffix : String) {registry : Registry} {earlier between last : List String}
    {name later : String} (names : registry.shortcutNames = earlier ++ name :: (between ++ later :: last)) :
    beforeTurn suffix registry later = (name :: between).foldl (provide suffix) (beforeTurn suffix registry name) := by
  have laterNames : registry.shortcutNames = (earlier ++ name :: between) ++ later :: last := by
    rw [names]
    simp
  rw [beforeTurn_eq suffix laterNames, List.foldl_append, ← beforeTurn_eq suffix names]

/-! ## Going through several names -/

/-- Going through names forgets no result type. -/
theorem mem_resultTypes_foldl_provide (suffix : String) (preparing : base.phase = .preparing) :
    ∀ (names : List String) {generation : Generation}, generation.IsSound base →
      ∀ resultType ∈ generation.registry.resultTypes,
        resultType ∈ (names.foldl (provide suffix) generation).registry.resultTypes
  | [], _, _, _, member => member
  | name :: rest, generation, sound, resultType, member => by
      refine mem_resultTypes_foldl_provide suffix preparing rest (sound.provide preparing name) resultType ?_
      rw [provide_eq (sound.extended.phase.trans preparing)]
      cases generation.registry.resultType? name with
      | none => exact member
      | some element => exact mem_resultTypes_withCollection element member

/-- At its turn a name gets a target exactly if it has a result type. -/
theorem targets_provide (suffix : String) {generation : Generation}
    (preparing : generation.registry.phase = .preparing) (name : String) :
    (generation.provide suffix name).targets =
      generation.targets ++ ((generation.registry.resultType? name).map fun element =>
        (name, ResultType.collectionIdentifier element.identifier)).toList := by
  rw [provide_eq preparing]
  cases generation.registry.resultType? name <;> simp

/-- Going through names gives targets to some of them, and to no other name. -/
theorem targets_foldl_provide (suffix : String) (preparing : base.phase = .preparing) :
    ∀ (names : List String) (generation : Generation), generation.IsSound base →
      ∃ added, (names.foldl (provide suffix) generation).targets = generation.targets ++ added ∧
        ∀ target ∈ added, target.1 ∈ names
  | [], generation, _ => ⟨[], by simp, by simp⟩
  | name :: rest, generation, sound => by
      obtain ⟨added, targets, fromRest⟩ :=
        targets_foldl_provide suffix preparing rest _ (sound.provide preparing name)
      rw [List.foldl_cons, targets, targets_provide suffix (sound.extended.phase.trans preparing), List.append_assoc]
      refine ⟨_, rfl, fun target member => ?_⟩
      rcases List.mem_append.mp member with now | later
      · obtain ⟨element, _, rfl⟩ := Option.map_eq_some_iff.mp (Option.mem_toList.mp now)
        exact List.mem_cons_self
      · exact List.mem_cons_of_mem _ (fromRest target later)

/-- A result type that was not there at first comes at some turn. -/
theorem exists_turn (suffix : String) {identifier : String} :
    ∀ (names : List String) {generation : Generation}, identifier ∉ generation.registry.names .resultType →
      identifier ∈ (names.foldl (provide suffix) generation).registry.names .resultType →
      ∃ earlier name later, names = earlier ++ name :: later ∧
        identifier ∉ (earlier.foldl (provide suffix) generation).registry.names .resultType ∧
        identifier ∈ ((earlier.foldl (provide suffix) generation).provide suffix name).registry.names .resultType
  | [], _, absent, present => absurd present absent
  | name :: rest, generation, absent, present => by
      by_cases now : identifier ∈ (generation.provide suffix name).registry.names .resultType
      · exact ⟨[], name, rest, rfl, absent, now⟩
      · obtain ⟨earlier, turn, later, split, before, after⟩ := exists_turn suffix rest now present
        exact ⟨name :: earlier, turn, later, by rw [split, List.cons_append], before, after⟩

/-- A result type of a name under which nothing is found is not there yet, if it is there after more names. -/
theorem identifier_not_mem_of_resultType?_eq_none (suffix : String) (preparing : base.phase = .preparing)
    {generation : Generation} (sound : generation.IsSound base) {name : String}
    (nothing : generation.registry.resultType? name = none)
    {names : List String} {resultType : ResultType}
    (member : resultType ∈ (names.foldl (provide suffix) generation).registry.resultTypes)
    (isNamed : resultType.isNamed name = true) : resultType.identifier ∉ generation.registry.names .resultType := by
  intro present
  obtain ⟨other, inBefore, same⟩ := List.mem_map.mp present
  have stillThere := mem_resultTypes_foldl_provide suffix preparing names sound other inBefore
  have after : (names.foldl (provide suffix) generation).IsSound base := IsSound.foldl_provide preparing names _ sound
  rw [List.inj_on_of_nodup_map (after.extended.indexed.nodup .resultType) stillThere member same] at inBefore
  have notNamed := sound.extended.indexed.resultType?_eq_none_iff.mp nothing resultType inBefore
  rw [isNamed] at notNamed
  cases notNamed

/-! ## What is found at a turn -/

theorem isSound_beforeTurn (preparing : base.phase = .preparing) (indexed : base.IsIndexed) (suffix name : String) :
    (beforeTurn suffix base name).IsSound base :=
  IsSound.foldl_provide preparing _ _ ⟨indexed.extends_refl, rfl, by simp⟩

/-- A name of a shortcut ends without a target exactly if nothing is found at its turn. -/
theorem lookup_targets_final_eq_none_iff (suffix : String) (preparing : base.phase = .preparing)
    (indexed : base.IsIndexed) {name : String} (member : name ∈ base.shortcutNames) :
    (final suffix base).targets.lookup name = none ↔
      (beforeTurn suffix base name).registry.resultType? name = none := by
  obtain ⟨earlier, later, names⟩ := List.append_of_mem member
  have ascending := base.ascending_shortcutNames
  have sound := isSound_beforeTurn preparing indexed suffix name
  obtain ⟨before, targetsBefore, fromEarlier⟩ := targets_foldl_provide suffix preparing earlier ⟨base, [], []⟩
    ⟨indexed.extends_refl, rfl, by simp⟩
  obtain ⟨after, targetsAfter, fromLater⟩ := targets_foldl_provide suffix preparing later _
    (sound.provide preparing name)
  rw [names, List.pairwise_append, List.pairwise_cons] at ascending
  have notBefore : before.lookup name = none := by
    rw [List.lookup_eq_none_iff]
    intro target inBefore
    have smaller := ascending.2.2 _ (fromEarlier target inBefore) name List.mem_cons_self
    simpa using (String.ne_of_lt smaller).symm
  have notAfter : after.lookup name = none := by
    rw [List.lookup_eq_none_iff]
    intro target inAfter
    simpa using String.ne_of_lt (ascending.2.1.1 _ (fromLater target inAfter))
  have split : (final suffix base).targets = before ++
      (((beforeTurn suffix base name).registry.resultType? name).map fun element =>
        (name, ResultType.collectionIdentifier element.identifier)).toList ++ after := by
    unfold final
    rw [names, List.foldl_append, List.foldl_cons, ← beforeTurn_eq suffix names, targetsAfter,
      targets_provide suffix (sound.extended.phase.trans preparing), beforeTurn_eq suffix names, targetsBefore]
    simp
  rw [split]
  cases found : (beforeTurn suffix base name).registry.resultType? name with
  | none => simp [List.lookup_append, notBefore, notAfter]
  | some element => simp [List.lookup_append, notBefore]

/-- A result type that is there at the turn of a name is there at the turns of later names. -/
theorem mem_resultTypes_beforeTurn (suffix : String) (preparing : base.phase = .preparing) (indexed : base.IsIndexed)
    {name later : String} (inNames : name ∈ base.shortcutNames) (laterInNames : later ∈ base.shortcutNames)
    (before : name < later) {resultType : ResultType}
    (member : resultType ∈ (beforeTurn suffix base name).registry.resultTypes) :
    resultType ∈ (beforeTurn suffix base later).registry.resultTypes := by
  obtain ⟨earlier, rest, names⟩ := List.append_of_mem inNames
  have ascending := base.ascending_shortcutNames
  rw [names, List.pairwise_append, List.pairwise_cons] at ascending
  have inRest : later ∈ rest := by
    rw [names, List.mem_append, List.mem_cons] at laterInNames
    rcases laterInNames with inEarlier | same | inRest
    · exact absurd (String.lt_trans (ascending.2.2 later inEarlier name List.mem_cons_self) before) (String.lt_irrefl _)
    · exact absurd before (same ▸ String.lt_irrefl _)
    · exact inRest
  obtain ⟨between, last, split⟩ := List.append_of_mem inRest
  rw [beforeTurn_later suffix (split ▸ names)]
  exact mem_resultTypes_foldl_provide suffix preparing _ (isSound_beforeTurn preparing indexed suffix name) _ member

/-- Nothing is found at the turn of a name exactly if every result type of the name comes at a later turn. -/
theorem resultType?_beforeTurn_eq_none_iff (suffix : String) (preparing : base.phase = .preparing)
    (indexed : base.IsIndexed) {name : String} (inNames : name ∈ base.shortcutNames) :
    (beforeTurn suffix base name).registry.resultType? name = none ↔
      ∀ resultType ∈ (final suffix base).registry.resultTypes, resultType.isNamed name = true →
        ∃ later ∈ base.shortcutNames, name < later ∧ GeneratesAt suffix base later resultType.identifier := by
  have sound := isSound_beforeTurn preparing indexed suffix name
  obtain ⟨earlier, rest, names⟩ := List.append_of_mem inNames
  have finalEq : final suffix base = (name :: rest).foldl (provide suffix) (beforeTurn suffix base name) := by
    rw [final, names, List.foldl_append, ← beforeTurn_eq suffix names]
  constructor
  · intro nothing resultType member isNamed
    -- Nothing comes at this turn, so what has the name comes at the turn of one of the names behind it.
    have nothingComes : (beforeTurn suffix base name).provide suffix name = beforeTurn suffix base name := by
      rw [provide_eq (sound.extended.phase.trans preparing), nothing]
    rw [finalEq, List.foldl_cons, nothingComes] at member
    have absent := identifier_not_mem_of_resultType?_eq_none suffix preparing sound nothing member isNamed
    obtain ⟨between, later, last, split, notYet, comes⟩ :=
      exists_turn suffix rest absent (List.mem_map_of_mem member)
    have ascending := base.ascending_shortcutNames
    rw [names, List.pairwise_append, List.pairwise_cons] at ascending
    have inRest : later ∈ rest := by rw [split]; simp
    have turn : beforeTurn suffix base later = between.foldl (provide suffix) (beforeTurn suffix base name) := by
      rw [beforeTurn_later suffix (split ▸ names), List.foldl_cons, nothingComes]
    refine ⟨later, by rw [names]; simp [inRest], ascending.2.1.1 later inRest, ?_⟩
    unfold GeneratesAt
    rw [turn]
    exact ⟨notYet, comes⟩
  · intro late
    by_contra found
    obtain ⟨element, isFound⟩ := Option.ne_none_iff_exists'.mp found
    obtain ⟨member, isNamed⟩ := isNamed_of_resultType? sound.extended.indexed isFound
    have inFinal : element ∈ (final suffix base).registry.resultTypes := by
      rw [finalEq]
      exact mem_resultTypes_foldl_provide suffix preparing (name :: rest) sound element member
    obtain ⟨later, laterInNames, before, absent, _⟩ := late element inFinal isNamed
    have stillThere := mem_resultTypes_beforeTurn suffix preparing indexed inNames laterInNames before member
    exact absent (List.mem_map_of_mem stillThere)

end Generation

/-! ## Shortcuts of later registries -/

/-- Handing errors to a method adds shapes of these errors only, and takes none away. -/
theorem Method.mem_shapes_foldl_inherit (shape : Attribute) (errors : List ErrorAnswer) (method : Method) :
    (shape ∈ method.shapes → shape ∈ (errors.foldl Method.inherit method).shapes) ∧
      (shape ∈ (errors.foldl Method.inherit method).shapes →
        shape ∈ method.shapes ∨ ∃ error ∈ errors, error.shape = shape) := by
  rw [Method.foldl_inherit]
  simp only [Method.shapes, List.map_append, List.mem_append]
  refine ⟨by tauto, ?_⟩
  rintro (inParts | isOwn | isCopy)
  · exact .inl (.inl inParts)
  · exact .inl (.inr isOwn)
  · obtain ⟨copy, inCopies, rfl⟩ := List.mem_map.mp isCopy
    obtain ⟨original, inErrors, _, rfl⟩ := ErrorAnswer.exists_of_mem_copiesBeside inCopies
    exact .inr ⟨original, inErrors, rfl⟩

/-- A service has the same shapes when its methods have its errors. -/
theorem Service.mem_ownShapes_shareErrors {shape : Attribute} {service : Service} :
    shape ∈ service.shareErrors.ownShapes ↔ shape ∈ service.ownShapes := by
  have each := fun method => Method.mem_shapes_foldl_inherit shape service.errors method
  simp only [Service.shareErrors, Service.ownShapes, List.mem_append, List.mem_map, List.mem_flatMap,
    exists_exists_and_eq_and]
  constructor
  · rintro (ofService | ⟨method, member, inMethod⟩)
    · exact .inl ofService
    · rcases (each method).2 inMethod with before | ofService
      · exact .inr ⟨method, member, before⟩
      · exact .inl ofService
  · rintro (ofService | ⟨method, member, inMethod⟩)
    · exact .inl ofService
    · exact .inr ⟨method, member, (each method).1 inMethod⟩

/-- An array of references has no shortcut. -/
theorem ResultType.IsArrayOf.noShortcut {resultType : ResultType} {element name : String}
    (isArray : resultType.IsArrayOf element) : ∀ node ∈ resultType.shape.nodes, node.type.shortcut? ≠ some name := by
  obtain ⟨reference, elementDetails, details, _, shape⟩ := isArray
  intro node member
  simp only [shape, Attribute.nodes, DataType.nodes, List.mem_cons, List.not_mem_nil, or_false] at member
  rcases member with rfl | rfl <;> simp [DataType.shortcut?]

/-- A shortcut is replaced exactly if its name has a target. -/
theorem Generation.shortcut?_transform (targets : List (String × String)) (node : Attribute) (name : String) :
    (node.transform (resolution targets)).type.shortcut? = some name ↔
      node.type.shortcut? = some name ∧ targets.lookup name = none := by
  obtain ⟨type, details⟩ := node
  cases type with
  | collection reference =>
      simp only [Attribute.transform, DataType.transform, resolution, DataType.shortcut?, Option.some.injEq]
      cases found : targets.lookup reference.name with
      | none =>
          simp only [Option.some.injEq, iff_self_and]
          rintro rfl
          exact found
      | some identifier =>
          refine iff_of_false (by simp [DataType.reference]) ?_
          rintro ⟨rfl, noTarget⟩
          simp [found] at noTarget
  | _ => simp [Attribute.transform, DataType.transform, resolution, DataType.shortcut?]

namespace Registry

variable {settings : Settings} {registry : Registry}

/-- Generated collections bring no shortcuts. -/
theorem Extends.mem_shortcutNames_iff {base extended : Registry} (extends_ : base.Extends extended) {name : String} :
    name ∈ extended.shortcutNames ↔ name ∈ base.shortcutNames := by
  obtain ⟨added, resultTypes, allGenerated⟩ := extends_.resultTypes
  have elsewhere :
      { extended with resultTypes := [] }.shortcutNames = { base with resultTypes := [] }.shortcutNames := by
    simp only [shortcutNames, nodes, shapes, servers, extends_.api, extends_.services, extends_.userTypes]
  rw [Registry.mem_shortcutNames_iff extended, Registry.mem_shortcutNames_iff base, elsewhere, resultTypes]
  apply or_congr_right
  constructor
  · rintro ⟨resultType, member, node, inShape, isShortcut⟩
    rcases List.mem_append.mp member with inBase | isAdded
    · exact ⟨resultType, inBase, node, inShape, isShortcut⟩
    · obtain ⟨element, generated⟩ := allGenerated resultType isAdded
      exact absurd isShortcut (generated.shape.noShortcut node inShape)
  · rintro ⟨resultType, member, rest⟩
    exact ⟨resultType, List.mem_append_left _ member, rest⟩

/-- A shortcut is still there after generation exactly if its name got no target. -/
theorem IsDeclared.mem_shortcutNames_generated (declared : registry.IsDeclared) {name : String} :
    name ∈ (registry.generated settings).shortcutNames ↔
      name ∈ registry.shortcutNames ∧ (registry.generation settings).targets.lookup name = none := by
  have named : (registry.named settings).shortcutNames = registry.shortcutNames := declared.shortcutNames_named
  rw [← named, ← declared.isSound_generation.extended.mem_shortcutNames_iff, mem_shortcutNames, mem_shortcutNames,
    declared.generated_eq, nodes_mapShapes (Generation.keepsForm_resolution _)]
  simp only [List.mem_map, exists_exists_and_eq_and, Generation.shortcut?_transform]
  constructor
  · rintro ⟨node, member, isShortcut, noTarget⟩
    exact ⟨⟨node, member, isShortcut⟩, noTarget⟩
  · rintro ⟨⟨node, member, isShortcut⟩, noTarget⟩
    exact ⟨node, member, isShortcut, noTarget⟩

theorem mem_shapes_toSealed {shape : Attribute} {registry : Registry} :
    shape ∈ registry.toSealed.shapes ↔ shape ∈ registry.shapes := by
  simp only [toSealed, reindex, shapes, servers, List.mem_append, List.mem_flatMap, List.mem_map, mem_sortByName]

theorem shapes_canonicalViews (registry : Registry) : registry.canonicalViews.shapes = registry.shapes := by
  simp only [canonicalViews, shapes, servers, List.map_map]
  rfl

theorem mem_shapes_shareErrors {shape : Attribute} {registry : Registry} :
    shape ∈ registry.shareErrors.shapes ↔ shape ∈ registry.shapes := by
  simp only [shareErrors, shapes, servers, List.mem_append, List.mem_flatMap, List.mem_map, exists_exists_and_eq_and,
    Service.mem_ownShapes_shareErrors]
  rfl

/-- Of the later stages of preparation, only the marking of examples changes shapes. -/
theorem mem_nodes_prepared {node : Attribute} :
    node ∈ (registry.prepared settings).nodes ↔
      ∃ before ∈ (registry.generated settings).nodes, before.transform (registry.marking settings) = node := by
  have sameShapes : ∀ shape, shape ∈ (registry.prepared settings).shapes ↔
      shape ∈ ((registry.generated settings).markExamples settings).shapes := by
    intro shape
    unfold prepared completed
    rw [mem_shapes_toSealed, mem_shapes_shareErrors, shapes_canonicalViews]
  have marked : ((registry.generated settings).markExamples settings).nodes =
      (registry.generated settings).nodes.map (Attribute.transform (registry.marking settings)) :=
    nodes_mapShapes ⟨fun _ => rfl, fun _ => rfl⟩ _
  calc node ∈ (registry.prepared settings).nodes
      ↔ node ∈ ((registry.generated settings).markExamples settings).nodes := by
        simp only [nodes, List.mem_flatMap, sameShapes]
    _ ↔ ∃ before ∈ (registry.generated settings).nodes, before.transform (registry.marking settings) = node := by
        rw [marked, List.mem_map]

/-- Whatever is filled in, shortcuts stay. -/
theorem mem_shortcutNames_prepared {name : String} :
    name ∈ (registry.prepared settings).shortcutNames ↔ name ∈ (registry.generated settings).shortcutNames := by
  have sameType : ∀ node : Attribute,
      (node.transform (registry.marking settings)).type.shortcut? = node.type.shortcut? := by
    rintro ⟨type, details⟩
    cases type <;> rfl
  simp only [mem_shortcutNames, mem_nodes_prepared, exists_exists_and_eq_and, sameType]

end Registry

/-! ## Leftovers -/

/-- After any declarations, a shortcut is left in the prepared registry exactly if it was declared and every result type
of its name, by identifier or by type name, comes at the turn of a later name. -/
theorem exists_shortcut_prepare_iff (settings : Settings) (declarations : List Declaration) (name : String) :
    let registry := (Design.empty.declareEach declarations).registry
    let prepared := (registry.prepare settings).1
    (∃ node ∈ prepared.nodes, node.type.shortcut? = some name) ↔
      (∃ node ∈ registry.nodes, node.type.shortcut? = some name) ∧
        ∀ resultType ∈ prepared.resultTypes, resultType.isNamed name = true →
          ∃ later ∈ registry.shortcutNames, name < later ∧
            Generation.GeneratesAt settings.collectionSuffix (registry.named settings) later resultType.identifier := by
  intro registry prepared
  have declared : registry.IsDeclared := Design.isDeclared_declareEach declarations
  have preparedEq : prepared = registry.prepared settings := by
    simp only [prepared, declared.prepare_eq]
  have sameNames : (registry.named settings).shortcutNames = registry.shortcutNames := declared.shortcutNames_named
  rw [preparedEq, ← Registry.mem_shortcutNames, ← Registry.mem_shortcutNames, Registry.mem_shortcutNames_prepared,
    declared.mem_shortcutNames_generated]
  apply and_congr_right
  intro inNames
  rw [← sameNames] at inNames ⊢
  rw [Registry.generation, Generation.lookup_targets_final_eq_none_iff _ declared.phase_named declared.isIndexed_named
    inNames, Generation.resultType?_beforeTurn_eq_none_iff _ declared.phase_named declared.isIndexed_named inNames]
  simp only [declared.mem_resultTypes_prepared]
  constructor
  · rintro late _ ⟨before, member, rfl⟩ isNamed
    exact late before member isNamed
  · intro late before member isNamed
    exact late (registry.filled settings before) ⟨before, member, rfl⟩ isNamed

/-- Shortcuts for the collection of a result type and, by type name, for the collection of that collection. -/
def nestedShortcuts : List Declaration :=
  [.resultType "a/x" [.block (.view "default") []], .userType "Cellar" [.type (.collectionOf "XCollection")],
    .userType "Rack" [.type (.collectionOf "a/x")]]

/-- The turn of the type name comes first, so its shortcut is left and reported, although its element is there. -/
theorem exists_leftover_shortcut :
    let prepared := ((Design.empty.declareEach nestedShortcuts).registry.prepare {}).1
    (∃ node ∈ prepared.nodes, node.type.shortcut? = some "XCollection") ∧
      (∃ resultType ∈ prepared.resultTypes, resultType.isNamed "XCollection" = true) ∧
      ∃ diagnostics, evaluate {} nestedShortcuts = .error diagnostics ∧
        diagnostics.map (·.cause) = [.unresolvedReference "XCollection"] := by
  refine ⟨Registry.mem_shortcutNames.mp (by decide +kernel), by decide +kernel, ?_⟩
  have found : (match evaluate {} nestedShortcuts with
      | .error diagnostics => diagnostics.map (·.cause)
      | .ok _ => []) = [.unresolvedReference "XCollection"] := by decide +kernel
  cases evaluated : evaluate {} nestedShortcuts with
  | ok model =>
      rw [evaluated] at found
      cases found
  | error diagnostics =>
      rw [evaluated] at found
      exact ⟨diagnostics, rfl, found⟩

end ApiDesign
