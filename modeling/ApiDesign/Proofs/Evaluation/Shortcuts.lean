import ApiDesign.Proofs.Evaluation.Stages
import ApiDesign.Proofs.Registry.Rearranged

/-!
Contract: the shortcuts of a registry, and that naming leaves them alone.

Generation starts from the element names of all shortcuts, each once and in ascending order. So these names depend on
which shortcuts there are only, not on where they stand; and naming changes no shortcut, because the one shape it
changes is an array of references.

Owns: `Attribute.KeepsShortcuts`, what naming keeps, the element names of shortcuts.
Does not own: what becomes of a shortcut in a model (`Proofs.Model.Shortcuts`).
-/

namespace ApiDesign

/-! ## Names without repetition -/

theorem mem_addNames {name : String} :
    ∀ {names known : List String}, name ∈ addNames names known ↔ name ∈ names ∨ name ∈ known
  | [], known => by simp [addNames]
  | first :: rest, known => by
      have step : addNames (first :: rest) known =
          addNames rest (if known.contains first then known else known ++ [first]) := rfl
      rw [step, mem_addNames, List.mem_cons]
      split
      · rename_i there
        have isKnown : first ∈ known := by simpa using there
        constructor
        · rintro (inRest | inKnown)
          · exact .inl (.inr inRest)
          · exact .inr inKnown
        · rintro ((rfl | inRest) | inKnown)
          · exact .inr isKnown
          · exact .inl inRest
          · exact .inr inKnown
      · rw [List.mem_append, List.mem_singleton]
        tauto

theorem nodup_addNames :
    ∀ {names known : List String}, known.Nodup → (addNames names known).Nodup
  | [], _, distinct => distinct
  | first :: rest, known, distinct => by
      have step : addNames (first :: rest) known =
          addNames rest (if known.contains first then known else known ++ [first]) := rfl
      rw [step]
      apply nodup_addNames
      split
      · exact distinct
      · rename_i absent
        have notKnown : first ∉ known := by simpa using absent
        simpa [List.nodup_append] using ⟨distinct, fun other member same => notKnown (same ▸ member)⟩

/-! ## The element names of shortcuts -/

namespace Registry

theorem mem_shortcutNames {name : String} {registry : Registry} :
    name ∈ registry.shortcutNames ↔ ∃ node ∈ registry.nodes, node.type.shortcut? = some name := by
  unfold shortcutNames
  rw [mem_sortByName, mem_addNames, List.mem_filterMap]
  simp

/-- Which shortcuts there are decides about the list of their names, whatever their order. -/
theorem shortcutNames_eq_of_mem_iff {left right : Registry}
    (sameNames : ∀ name, name ∈ left.shortcutNames ↔ name ∈ right.shortcutNames) :
    left.shortcutNames = right.shortcutNames := by
  unfold shortcutNames at sameNames ⊢
  simp only [mem_sortByName] at sameNames
  have distinct : ∀ names : List String, (addNames names []).Nodup := fun names => nodup_addNames List.nodup_nil
  refine sortByName_eq_of_perm ((List.perm_ext_iff_of_nodup (distinct _) (distinct _)).mpr sameNames) ?_
  rw [List.map_id]
  exact distinct _

theorem Rearranged.shortcutNames_eq {left right : Registry} (rearranged : left.Rearranged right) :
    left.shortcutNames = right.shortcutNames := by
  apply shortcutNames_eq_of_mem_iff
  intro name
  rw [mem_shortcutNames, mem_shortcutNames]
  simp only [rearranged.nodes.mem_iff]

end Registry

/-! ## Shortcuts under naming -/

/-- Two shapes have the same shortcuts at the same places. -/
def Attribute.KeepsShortcuts (before after : Attribute) : Prop :=
  ∀ (place : Nat) (node : Attribute) (shortcut : TypeRef), node.type = .collection shortcut →
    (before.nodes[place]? = some node ↔ after.nodes[place]? = some node)

namespace Attribute.KeepsShortcuts

theorem refl (shape : Attribute) : shape.KeepsShortcuts shape := fun _ _ _ _ => Iff.rfl

theorem symm {before after : Attribute} (keeps : before.KeepsShortcuts after) : after.KeepsShortcuts before :=
  fun place node shortcut isShortcut => (keeps place node shortcut isShortcut).symm

theorem trans {first second third : Attribute} (keeps : first.KeepsShortcuts second)
    (keepsNext : second.KeepsShortcuts third) : first.KeepsShortcuts third :=
  fun place node shortcut isShortcut =>
    (keeps place node shortcut isShortcut).trans (keepsNext place node shortcut isShortcut)

end Attribute.KeepsShortcuts

theorem DataType.exists_of_shortcut? {type : DataType} {name : String} (isShortcut : type.shortcut? = some name) :
    ∃ shortcut, type = .collection shortcut := by
  cases type with
  | collection shortcut => exact ⟨shortcut, rfl⟩
  | _ => cases isShortcut

/-- Renaming the element of a collection leaves shortcuts alone: a shape that changes is an array of references. -/
theorem Attribute.keepsShortcuts_renameElement (name : String) (shape : Attribute) :
    shape.KeepsShortcuts (ResultType.renameElement name shape) := by
  have noShortcut : ∀ (reference shortcut : TypeRef) (elementDetails details : Details) (place : Nat)
      (node : Attribute), node.type = .collection shortcut →
        (⟨.array ⟨.named reference, elementDetails⟩, details⟩ : Attribute).nodes[place]? ≠ some node := by
    intro reference shortcut elementDetails details place node isShortcut here
    simp only [Attribute.nodes, DataType.nodes] at here
    rcases place with _ | _ | place
    · cases here
      cases isShortcut
    · cases here
      cases isShortcut
    · simp at here
  intro place node shortcut isShortcut
  unfold ResultType.renameElement
  split
  · exact iff_of_false (noShortcut _ shortcut _ _ place node isShortcut)
      (noShortcut _ shortcut _ _ place node isShortcut)
  · exact Iff.rfl

theorem shape_nameProvisionally (suffix : String) (resultType : ResultType) :
    (resultType.nameProvisionally suffix).shape = resultType.shape := by
  unfold ResultType.nameProvisionally
  split
  · split <;> rfl
  · rfl

namespace Naming

variable {suffix : String} {declared : List ResultType}

/-- Naming keeps shortcuts, and which collections were generated. -/
theorem related_run {position : Nat} {before after : ResultType} (declaredHere : declared[position]? = some before)
    (here : (run suffix declared).resultTypes[position]? = some after) :
    before.shape.KeepsShortcuts after.shape ∧
      after.collection.map (·.generated) = before.collection.map (·.generated) := by
  have atStart : (start suffix declared).resultTypes[position]? = some (before.nameProvisionally suffix) := by
    simp [start, declaredHere]
  constructor
  · have kept := (reaches_run suffix declared).related
      (fun before after => before.shape.KeepsShortcuts after.shape)
      (fun resultType => .refl resultType.shape)
      (fun _ collection element keeps =>
        keeps.trans (Attribute.keepsShortcuts_renameElement element.identifier collection.shape))
      atStart here
    rwa [shape_nameProvisionally] at kept
  · have kept := (reaches_run suffix declared).related
      (fun before after => after.collection.map (·.generated) = before.collection.map (·.generated))
      (fun _ => rfl)
      (fun before collection element inductionHypothesis => by
        rw [← inductionHypothesis]
        simp only [ResultType.nameAfter, Option.map_map]
        rfl)
      atStart here
    rwa [collection_nameProvisionally] at kept

theorem length_run (suffix : String) (declared : List ResultType) :
    (run suffix declared).resultTypes.length = declared.length := by
  rw [(reaches_run suffix declared).length_resultTypes]
  simp [start]

end Naming

namespace Registry

variable {settings : Settings} {registry : Registry}

theorem IsDeclared.resultTypes_named (declared : registry.IsDeclared) :
    (registry.named settings).resultTypes =
      (Naming.run settings.collectionSuffix registry.resultTypes).resultTypes := by
  rw [declared.named_eq]
  rfl

theorem IsDeclared.length_named (settings : Settings) (declared : registry.IsDeclared) :
    (registry.named settings).resultTypes.length = registry.resultTypes.length := by
  rw [declared.resultTypes_named, Naming.length_run]

/-- Every result type of naming was declared at its place. -/
theorem IsDeclared.exists_declared (declared : registry.IsDeclared) {position : Nat} {after : ResultType}
    (here : (registry.named settings).resultTypes[position]? = some after) :
    ∃ before, registry.resultTypes[position]? = some before := by
  have below : position < registry.resultTypes.length := by
    rw [← declared.length_named settings]
    exact (List.getElem?_eq_some_iff.mp here).1
  exact ⟨_, List.getElem?_eq_getElem below⟩

/-- No declaration makes a generated collection, and naming does not either. -/
theorem IsDeclared.not_generated_of_named (declared : registry.IsDeclared) {resultType : ResultType}
    (member : resultType ∈ (registry.named settings).resultTypes) :
    resultType.collection.map (·.generated) ≠ some true := by
  obtain ⟨position, here⟩ := List.mem_iff_getElem?.mp member
  obtain ⟨before, declaredHere⟩ := declared.exists_declared here
  rw [declared.resultTypes_named] at here
  rw [(Naming.related_run declaredHere here).2]
  rcases declared.resultTypes before (List.mem_of_getElem? declaredHere) with ⟨_, _, _, none⟩ | ⟨_, _, _, some⟩
  · simp [none]
  · simp [some]

/-- A shortcut stands in the shape of a result type or elsewhere. -/
theorem mem_shortcutNames_iff (registry : Registry) {name : String} :
    name ∈ registry.shortcutNames ↔
      name ∈ { registry with resultTypes := [] }.shortcutNames ∨
        ∃ resultType ∈ registry.resultTypes, ∃ node ∈ resultType.shape.nodes, node.type.shortcut? = some name := by
  rw [mem_shortcutNames, mem_shortcutNames]
  simp only [nodes, shapes, servers, List.map_nil, List.append_nil, List.mem_flatMap, List.mem_append, List.mem_map]
  constructor
  · rintro ⟨node, ⟨shape, elsewhere | ⟨resultType, member, rfl⟩, inShape⟩, isShortcut⟩
    · exact .inl ⟨node, ⟨shape, elsewhere, inShape⟩, isShortcut⟩
    · exact .inr ⟨resultType, member, node, inShape, isShortcut⟩
  · rintro (⟨node, ⟨shape, elsewhere, inShape⟩, isShortcut⟩ | ⟨resultType, member, node, inShape, isShortcut⟩)
    · exact ⟨node, ⟨shape, .inl elsewhere, inShape⟩, isShortcut⟩
    · exact ⟨node, ⟨resultType.shape, .inr ⟨resultType, member, rfl⟩, inShape⟩, isShortcut⟩

/-- Naming concerns result types only. -/
theorem IsDeclared.without_named (declared : registry.IsDeclared) :
    { registry.named settings with resultTypes := [] }.shortcutNames =
      { registry with resultTypes := [] }.shortcutNames := by
  rw [declared.named_eq]
  rfl

/-- Result types whose shapes keep the shortcuts of other ones have all of them. -/
theorem exists_shortcut_of_keeps {lefts rights : List ResultType} {name : String} (fits : lefts.length ≤ rights.length)
    (keeps : ∀ (position : Nat) (left right : ResultType), lefts[position]? = some left →
      rights[position]? = some right → left.shape.KeepsShortcuts right.shape) :
    (∃ left ∈ lefts, ∃ node ∈ left.shape.nodes, node.type.shortcut? = some name) →
      ∃ right ∈ rights, ∃ node ∈ right.shape.nodes, node.type.shortcut? = some name := by
  rintro ⟨left, member, node, inShape, isShortcut⟩
  obtain ⟨position, here⟩ := List.mem_iff_getElem?.mp member
  have below : position < rights.length := Nat.lt_of_lt_of_le (List.getElem?_eq_some_iff.mp here).1 fits
  obtain ⟨place, atPlace⟩ := List.mem_iff_getElem?.mp inShape
  obtain ⟨shortcut, type⟩ := DataType.exists_of_shortcut? isShortcut
  have kept := (keeps position left _ here (List.getElem?_eq_getElem below) place node shortcut type).mp atPlace
  exact ⟨_, List.getElem_mem below, node, List.mem_of_getElem? kept, isShortcut⟩

/-- Naming leaves the element names of shortcuts as they are. -/
theorem IsDeclared.shortcutNames_named (declared : registry.IsDeclared) :
    (registry.named settings).shortcutNames = registry.shortcutNames := by
  have pairs : ∀ (position : Nat) (before after : ResultType), registry.resultTypes[position]? = some before →
      (registry.named settings).resultTypes[position]? = some after → before.shape.KeepsShortcuts after.shape := by
    intro position before after declaredHere here
    rw [declared.resultTypes_named] at here
    exact (Naming.related_run declaredHere here).1
  have sameLength := declared.length_named settings
  apply shortcutNames_eq_of_mem_iff
  intro name
  rw [mem_shortcutNames_iff (registry.named settings), mem_shortcutNames_iff registry, declared.without_named]
  apply or_congr_right
  constructor
  · exact exists_shortcut_of_keeps (Nat.le_of_eq sameLength) fun position after before here declaredHere =>
      (pairs position before after declaredHere here).symm
  · exact exists_shortcut_of_keeps (Nat.le_of_eq sameLength.symm) pairs

end Registry

end ApiDesign
