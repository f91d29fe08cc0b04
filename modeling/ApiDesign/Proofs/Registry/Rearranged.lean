import ApiDesign.Evaluation.Defaults
import ApiDesign.Proofs.Design
import ApiDesign.Proofs.Registry.Shapes

/-!
Contract: registries that differ only in the order of their declarations.

Two indexed registries are rearranged when they have the same API and the same services, user types and result types,
in whatever order. Registering the same roots in another order leads to a rearranged registry; changes that treat each
declaration by itself keep registries rearranged; and sealing puts an end to the difference.

Owns: `Registry.Rearranged`, registration in another order, the stages that do not look names up.
Does not own: naming and generation, which do (`Proofs.Evaluation.Order`).
-/

namespace ApiDesign

namespace Registry

/-- The same declarations in another order. -/
structure Rearranged (left right : Registry) : Prop where
  phase : left.phase = right.phase
  api : left.api = right.api
  services : left.services.Perm right.services
  userTypes : left.userTypes.Perm right.userTypes
  resultTypes : left.resultTypes.Perm right.resultTypes
  indexed : left.IsIndexed
  otherIndexed : right.IsIndexed

namespace Rearranged

variable {left right third : Registry}

theorem refl {registry : Registry} (indexed : registry.IsIndexed) : registry.Rearranged registry :=
  ⟨rfl, rfl, List.Perm.refl _, List.Perm.refl _, List.Perm.refl _, indexed, indexed⟩

theorem symm (rearranged : left.Rearranged right) : right.Rearranged left :=
  ⟨rearranged.phase.symm, rearranged.api.symm, rearranged.services.symm, rearranged.userTypes.symm,
    rearranged.resultTypes.symm, rearranged.otherIndexed, rearranged.indexed⟩

theorem trans (first : left.Rearranged right) (second : right.Rearranged third) : left.Rearranged third :=
  ⟨first.phase.trans second.phase, first.api.trans second.api, first.services.trans second.services,
    first.userTypes.trans second.userTypes, first.resultTypes.trans second.resultTypes, first.indexed,
    second.otherIndexed⟩

theorem names (rearranged : left.Rearranged right) (kind : RootKind) : (left.names kind).Perm (right.names kind) := by
  cases kind with
  | api =>
      unfold Registry.names
      rw [rearranged.api]
  | service => exact rearranged.services.map _
  | userType => exact rearranged.userTypes.map _
  | resultType => exact rearranged.resultTypes.map _

/-- A key is taken in both or in neither. -/
theorem contains_eq (rearranged : left.Rearranged right) (kind : RootKind) (name : String) :
    left.contains kind name = right.contains kind name := by
  rw [Bool.eq_iff_iff, rearranged.indexed.contains_iff, rearranged.otherIndexed.contains_iff]
  exact (rearranged.names kind).mem_iff

/-! ## Registration -/

theorem objection?_eq_none_iff (rearranged : left.Rearranged right) (root : Root) :
    left.objection? root = none ↔ right.objection? root = none := by
  rw [Registry.objection?_eq_none_iff, Registry.objection?_eq_none_iff, rearranged.phase, rearranged.api,
    rearranged.contains_eq]

theorem append (rearranged : left.Rearranged right) {root : Root} (free : left.objection? root = none) :
    (left.append root).Rearranged (right.append root) := by
  have indexed := rearranged.indexed.append free
  have otherIndexed := rearranged.otherIndexed.append ((rearranged.objection?_eq_none_iff root).mp free)
  cases root with
  | api declared =>
      exact ⟨rearranged.phase, rfl, rearranged.services, rearranged.userTypes, rearranged.resultTypes, indexed,
        otherIndexed⟩
  | service declared =>
      exact ⟨rearranged.phase, rearranged.api, rearranged.services.append_right _, rearranged.userTypes,
        rearranged.resultTypes, indexed, otherIndexed⟩
  | userType declared =>
      exact ⟨rearranged.phase, rearranged.api, rearranged.services, rearranged.userTypes.append_right _,
        rearranged.resultTypes, indexed, otherIndexed⟩
  | resultType declared =>
      exact ⟨rearranged.phase, rearranged.api, rearranged.services, rearranged.userTypes,
        rearranged.resultTypes.append_right _, indexed, otherIndexed⟩

end Rearranged

theorem register_eq_ok_iff {root : Root} {registry after : Registry} :
    registry.register root = .ok after ↔ registry.objection? root = none ∧ registry.append root = after := by
  unfold register
  cases registry.objection? root <;> simp

/-- The same roots can be registered in rearranged registries, with rearranged results. -/
theorem Rearranged.registerAll {roots : List Root} {left right after : Registry} (rearranged : left.Rearranged right)
    (registered : Registry.registerAll roots left = .ok after) :
    ∃ other, Registry.registerAll roots right = .ok other ∧ after.Rearranged other := by
  induction roots generalizing left right with
  | nil =>
      cases registered
      exact ⟨right, rfl, rearranged⟩
  | cons root rest inductionHypothesis =>
      obtain ⟨next, first, others⟩ := registerAll_cons_eq_ok_iff.mp registered
      obtain ⟨free, rfl⟩ := register_eq_ok_iff.mp first
      have alsoFree := (rearranged.objection?_eq_none_iff root).mp free
      obtain ⟨other, otherRegistered, otherRearranged⟩ := inductionHypothesis (rearranged.append free) others
      exact ⟨other, registerAll_cons_eq_ok_iff.mpr ⟨_, register_eq_ok_iff.mpr ⟨alsoFree, rfl⟩, otherRegistered⟩,
        otherRearranged⟩

theorem phase_append (root : Root) (registry : Registry) : (registry.append root).phase = registry.phase := by
  cases root <;> rfl

theorem api_append_eq_none_iff (root : Root) (registry : Registry) :
    (registry.append root).api = none ↔ root.kind ≠ .api ∧ registry.api = none := by
  cases root <;> simp [append, Root.kind]

theorem contains_append {root : Root} {registry : Registry} (indexed : registry.IsIndexed)
    (free : registry.objection? root = none) {kind : RootKind} {name : String} :
    (registry.append root).contains kind name = true ↔
      registry.contains kind name = true ∨ (kind = root.kind ∧ name = root.name) := by
  obtain ⟨_, vacant, _⟩ := objection?_eq_none_iff.mp free
  rw [(indexed.append free).contains_iff, indexed.contains_iff, names_append vacant]
  by_cases same : kind = root.kind
  · subst same
    simp
  · simp [same]

/-- Two roots can be registered in either order. -/
theorem rearranged_append_append {first second : Root} {registry : Registry} (indexed : registry.IsIndexed)
    (firstFree : registry.objection? first = none) (secondFree : (registry.append first).objection? second = none) :
    registry.objection? second = none ∧ (registry.append second).objection? first = none ∧
      ((registry.append first).append second).Rearranged ((registry.append second).append first) := by
  obtain ⟨firstAdmitted, firstVacant, firstNotTaken⟩ := objection?_eq_none_iff.mp firstFree
  obtain ⟨secondAdmitted, secondVacant, secondNotTaken⟩ := objection?_eq_none_iff.mp secondFree
  rw [phase_append] at secondAdmitted
  have apart : ¬ (registry.contains second.kind second.name = true ∨
      (second.kind = first.kind ∧ second.name = first.name)) := by
    rw [← contains_append indexed firstFree, secondNotTaken]
    exact Bool.false_ne_true
  rw [not_or] at apart
  have secondFirst : registry.objection? second = none := by
    refine objection?_eq_none_iff.mpr ⟨secondAdmitted, fun isApi => ?_, by simpa using apart.1⟩
    exact ((api_append_eq_none_iff first registry).mp (secondVacant isApi)).2
  have firstSecond : (registry.append second).objection? first = none := by
    refine objection?_eq_none_iff.mpr ⟨by rw [phase_append]; exact firstAdmitted, fun isApi => ?_, ?_⟩
    · refine (api_append_eq_none_iff second registry).mpr ⟨fun secondIsApi => ?_, firstVacant isApi⟩
      exact ((api_append_eq_none_iff first registry).mp (secondVacant secondIsApi)).1 isApi
    · rw [← Bool.not_eq_true, contains_append indexed secondFirst, firstNotTaken]
      rintro (taken | ⟨sameKind, sameName⟩)
      · cases taken
      · exact apart.2 ⟨sameKind.symm, sameName.symm⟩
  refine ⟨secondFirst, firstSecond, ?_⟩
  have indexedLeft := (indexed.append firstFree).append secondFree
  have indexedRight := (indexed.append secondFirst).append firstSecond
  have exchange : ∀ {α : Type} (items : List α) (one two : α),
      ((items ++ [one]) ++ [two]).Perm ((items ++ [two]) ++ [one]) := by
    intro α items one two
    simp only [List.append_assoc]
    exact (List.Perm.swap two one []).append_left items
  have notBoth : first.kind = .api → second.kind = .api → False := by
    intro firstApi secondApi
    exact ((api_append_eq_none_iff first registry).mp (secondVacant secondApi)).1 firstApi
  cases first <;> cases second
  case api.api => exact (notBoth rfl rfl).elim
  case service.service =>
    exact ⟨rfl, rfl, exchange _ _ _, List.Perm.refl _, List.Perm.refl _, indexedLeft, indexedRight⟩
  case userType.userType =>
    exact ⟨rfl, rfl, List.Perm.refl _, exchange _ _ _, List.Perm.refl _, indexedLeft, indexedRight⟩
  case resultType.resultType =>
    exact ⟨rfl, rfl, List.Perm.refl _, List.Perm.refl _, exchange _ _ _, indexedLeft, indexedRight⟩
  all_goals exact ⟨rfl, rfl, List.Perm.refl _, List.Perm.refl _, List.Perm.refl _, indexedLeft, indexedRight⟩

/-- Roots that can be registered can be registered in any order, with rearranged results. -/
theorem registerAll_perm {roots others : List Root} (permutation : roots.Perm others) :
    ∀ {left right after : Registry}, left.Rearranged right → Registry.registerAll roots left = .ok after →
      ∃ other, Registry.registerAll others right = .ok other ∧ after.Rearranged other := by
  induction permutation with
  | nil =>
      intro left right after rearranged registered
      cases registered
      exact ⟨right, rfl, rearranged⟩
  | cons root _ inductionHypothesis =>
      intro left right after rearranged registered
      obtain ⟨next, first, others⟩ := registerAll_cons_eq_ok_iff.mp registered
      obtain ⟨free, rfl⟩ := register_eq_ok_iff.mp first
      have alsoFree := (rearranged.objection?_eq_none_iff root).mp free
      obtain ⟨other, otherRegistered, otherRearranged⟩ := inductionHypothesis (rearranged.append free) others
      exact ⟨other, registerAll_cons_eq_ok_iff.mpr ⟨_, register_eq_ok_iff.mpr ⟨alsoFree, rfl⟩, otherRegistered⟩,
        otherRearranged⟩
  | swap second first rest =>
      intro left right after rearranged registered
      obtain ⟨_, firstRegistered, afterFirst⟩ := registerAll_cons_eq_ok_iff.mp registered
      obtain ⟨firstFree, rfl⟩ := register_eq_ok_iff.mp firstRegistered
      obtain ⟨_, secondRegistered, others⟩ := registerAll_cons_eq_ok_iff.mp afterFirst
      obtain ⟨secondFree, rfl⟩ := register_eq_ok_iff.mp secondRegistered
      obtain ⟨secondFirst, firstSecond, exchanged⟩ :=
        rearranged_append_append rearranged.indexed firstFree secondFree
      obtain ⟨other, otherRegistered, otherRearranged⟩ := exchanged.registerAll others
      have swapped : Registry.registerAll (second :: first :: rest) left = .ok other :=
        registerAll_cons_eq_ok_iff.mpr ⟨_, register_eq_ok_iff.mpr ⟨secondFirst, rfl⟩,
          registerAll_cons_eq_ok_iff.mpr ⟨_, register_eq_ok_iff.mpr ⟨firstSecond, rfl⟩, otherRegistered⟩⟩
      obtain ⟨final, finalRegistered, finalRearranged⟩ := rearranged.registerAll swapped
      exact ⟨final, finalRegistered, otherRearranged.trans finalRearranged⟩
  | trans _ _ firstHypothesis secondHypothesis =>
      intro left right after rearranged registered
      obtain ⟨between, betweenRegistered, firstRearranged⟩ := firstHypothesis rearranged registered
      obtain ⟨other, otherRegistered, secondRearranged⟩ :=
        secondHypothesis (Rearranged.refl rearranged.otherIndexed) betweenRegistered
      exact ⟨other, otherRegistered, firstRearranged.trans secondRearranged⟩

/-! ## Changes of single declarations -/

namespace Rearranged

variable {left right : Registry}

theorem mapShapes (rearranged : left.Rearranged right) (change : Attribute → Attribute) :
    (left.mapShapes change).Rearranged (right.mapShapes change) where
  phase := rearranged.phase
  api := congrArg (Option.map (Api.mapShapes change)) rearranged.api
  services := rearranged.services.map _
  userTypes := rearranged.userTypes.map _
  resultTypes := rearranged.resultTypes.map _
  indexed := rearranged.indexed.mapShapes change
  otherIndexed := rearranged.otherIndexed.mapShapes change

/-- Whether examples are generated depends on the API alone. -/
theorem allowsExamples_eq (rearranged : left.Rearranged right) (settings : Settings) :
    left.allowsExamples settings = right.allowsExamples settings := by
  unfold allowsExamples
  rw [rearranged.api]

theorem shapes (rearranged : left.Rearranged right) : left.shapes.Perm right.shapes := by
  unfold Registry.shapes Registry.servers
  rw [rearranged.api]
  exact ((((rearranged.services.flatMap_right _).append_left _).flatMap_right _).append
    (rearranged.services.flatMap_right _)).append (rearranged.userTypes.map _) |>.append
    (rearranged.resultTypes.map _)

theorem nodes (rearranged : left.Rearranged right) : left.nodes.Perm right.nodes :=
  rearranged.shapes.flatMap_right _

/-- Sealing rearranged registries leads to one and the same registry. -/
theorem toSealed_eq (rearranged : left.Rearranged right) : left.toSealed = right.toSealed := by
  have services : sortByName (·.name) left.services = sortByName (·.name) right.services :=
    sortByName_eq_of_perm rearranged.services (rearranged.indexed.nodup .service)
  have userTypes : sortByName (·.name) left.userTypes = sortByName (·.name) right.userTypes :=
    sortByName_eq_of_perm rearranged.userTypes (rearranged.indexed.nodup .userType)
  have resultTypes : sortByName (·.identifier) left.resultTypes = sortByName (·.identifier) right.resultTypes :=
    sortByName_eq_of_perm rearranged.resultTypes (rearranged.indexed.nodup .resultType)
  unfold toSealed reindex
  simp only [services, userTypes, resultTypes, rearranged.api]

end Rearranged

end Registry

/-- Declarations in another order make a rearranged registry. -/
theorem Declares.perm {left right : List Declaration} {registry : Registry} (permutation : left.Perm right)
    (declares : Declares left registry) : ∃ other, Declares right other ∧ registry.Rearranged other := by
  obtain ⟨other, registered, rearranged⟩ := Registry.registerAll_perm (permutation.filterMap Declaration.root?)
    (Registry.Rearranged.refl Registry.isIndexed_initial) declares.registered
  exact ⟨other, ⟨fun declaration member => declares.flawless declaration (permutation.mem_iff.mpr member), registered⟩,
    rearranged⟩

end ApiDesign
