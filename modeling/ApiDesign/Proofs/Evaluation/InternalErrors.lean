import ApiDesign.Proofs.Evaluation.Stages
import ApiDesign.Proofs.Evaluation.Trails

/-!
Contract: evaluation finds no internal error.

Every check, naming and derivation report causes of their own. The one cause that is internal stands for a refusal to
register in the wrong phase, and generation meets no refusal.

Owns: `NoneInternal`, what each phase reports.
Does not own: that no position is out of range (`Proofs.Evaluation.StrictPreparation`).
-/

namespace ApiDesign

/-- None of the diagnostics is an internal error. -/
def NoneInternal (diagnostics : List Diagnostic) : Prop :=
  ∀ diagnostic ∈ diagnostics, diagnostic.cause.kind ≠ .internal

section Lists

variable {α : Type} {diagnostics others : List Diagnostic}

@[simp] theorem noneInternal_nil : NoneInternal [] := by simp [NoneInternal]

@[simp] theorem noneInternal_cons_located {trail : List String} {cause : Cause} :
    NoneInternal (.located trail cause :: diagnostics) ↔ cause.kind ≠ .internal ∧ NoneInternal diagnostics :=
  List.forall_mem_cons

@[simp] theorem noneInternal_append :
    NoneInternal (diagnostics ++ others) ↔ NoneInternal diagnostics ∧ NoneInternal others :=
  List.forall_mem_append

@[simp] theorem noneInternal_flatMap {items : List α} {find : α → List Diagnostic} :
    NoneInternal (items.flatMap find) ↔ ∀ item ∈ items, NoneInternal (find item) := by
  simp only [NoneInternal, List.mem_flatMap]
  exact ⟨fun all item member diagnostic found => all diagnostic ⟨item, member, found⟩,
    fun all diagnostic ⟨item, member, found⟩ => all item member diagnostic found⟩

@[simp] theorem noneInternal_map_located {items : List α} {trail : α → List String} {cause : α → Cause} :
    NoneInternal (items.map fun item => .located (trail item) (cause item)) ↔
      ∀ item ∈ items, (cause item).kind ≠ .internal :=
  List.forall_mem_map

end Lists

/-! ## Checks -/

section Checks

variable {vocabulary : Vocabulary} {trail : List String}

@[simp] theorem noneInternal_duplicateFindings {kind : Kind} {names : List String} :
    NoneInternal (duplicateFindings trail kind names) := by
  simp [duplicateFindings, Cause.kind]

theorem noneInternal_nodeFindings {node : Attribute} : NoneInternal (vocabulary.nodeFindings trail node) := by
  unfold Vocabulary.nodeFindings Vocabulary.defaultFindings Vocabulary.requiredFindings
  refine noneInternal_append.mpr ⟨noneInternal_append.mpr ⟨?_, ?_⟩, noneInternal_duplicateFindings⟩
  · split
    · split <;> simp [Cause.kind]
    · exact noneInternal_nil
  · split <;> simp [Cause.kind]

@[simp] theorem noneInternal_shapeFindings {shape : Attribute} :
    NoneInternal (vocabulary.shapeFindings trail shape) :=
  noneInternal_flatMap.mpr fun _ _ => noneInternal_nodeFindings

@[simp] theorem noneInternal_serverFindings {servers : List Server} :
    NoneInternal (serverFindings vocabulary trail servers) := by
  simp [serverFindings, Server.findings, Host.findings, Host.uriFindings, unmatchedParameter, variableWithoutValue,
    Cause.kind]

@[simp] theorem noneInternal_errorFindings {errors : List ErrorAnswer} :
    NoneInternal (errorFindings vocabulary trail errors) := by
  simp [errorFindings]

@[simp] theorem noneInternal_serviceFindings {service : Service} :
    NoneInternal (service.findings vocabulary trail) := by
  simp [Service.findings, Method.findings, Vocabulary.partFindings]

@[simp] theorem noneInternal_resultTypeFindings {registry : Registry} {resultType : ResultType} :
    NoneInternal (registry.resultTypeFindings resultType) := by
  unfold Registry.resultTypeFindings Registry.selectionFindings
  simp only [noneInternal_append, noneInternal_shapeFindings, noneInternal_duplicateFindings, true_and]
  constructor
  · split <;> simp [Cause.kind]
  · split <;> simp [View.findings, Cause.kind]

theorem noneInternal_findings (registry : Registry) : NoneInternal registry.findings := by
  simp [Registry.findings]

end Checks

/-! ## Unresolved references -/

section Unresolved

variable {index : TypeIndex} {trail : List String}

theorem noneInternal_unresolvedHere {node : Attribute} : NoneInternal (node.unresolvedHere index trail) := by
  unfold Attribute.unresolvedHere
  split
  · split <;> simp [unresolvedAt, Cause.kind]
  · simp [unresolvedAt, Cause.kind]
  · exact noneInternal_nil

@[simp] theorem noneInternal_unresolved {shape : Attribute} : NoneInternal (shape.unresolved index trail) :=
  noneInternal_flatMap.mpr fun _ _ => noneInternal_unresolvedHere

@[simp] theorem noneInternal_resultTypeUnresolved {resultType : ResultType} :
    NoneInternal (resultType.unresolved index) := by
  unfold ResultType.unresolved
  split
  · exact noneInternal_unresolved
  · split <;> simp [unresolvedAt, Cause.kind]

theorem noneInternal_registryUnresolved (registry : Registry) : NoneInternal (registry.unresolved index) := by
  simp [Registry.unresolved, Service.unresolved, Method.unresolved, serversUnresolved, errorsUnresolved]

end Unresolved

/-! ## Naming and derivation -/

theorem Naming.Reaches.noneInternal {suffix : String} {start reached : Naming} (reaches : Reaches suffix start reached)
    (atStart : NoneInternal start.diagnostics) : NoneInternal reached.diagnostics := by
  induction reaches with
  | refl => exact atStart
  | @step reached position _ _ inductionHypothesis =>
      rcases settle_cases suffix reached position with ⟨_, same⟩ | ⟨_, _, _, ⟨_, taken⟩ | ⟨_, named⟩⟩
      · rwa [same]
      · rw [taken]
        simp [inductionHypothesis, Cause.kind]
      · rwa [named]

theorem Derivation.noneInternal_derive {derivation : Derivation} (before : NoneInternal derivation.diagnostics)
    (entry : Nat × Nat) : NoneInternal (derivation.derive entry).diagnostics := by
  unfold derive
  dsimp only
  split
  · split
    · unfold inherit
      dsimp only
      split
      · exact before
      · refine noneInternal_append.mpr ⟨before, ?_⟩
        split <;> simp [Cause.kind]
    · exact noneInternal_append.mpr ⟨before, by simp [Cause.kind]⟩
  · exact before

theorem Derivation.Reaches.noneInternal {start reached : Derivation} (reaches : Reaches start reached)
    (atStart : NoneInternal start.diagnostics) : NoneInternal reached.diagnostics := by
  induction reaches with
  | refl => exact atStart
  | step _ _ _ inductionHypothesis => exact noneInternal_derive inductionHypothesis _

/-! ## Evaluation -/

/-- Evaluation of a declared registry finds no internal error. -/
theorem Registry.IsDeclared.noneInternal_evaluate {registry : Registry} (declared : registry.IsDeclared)
    (settings : Settings) : NoneInternal (registry.evaluate settings).diagnostics := by
  rw [evaluate_eq, Generation.run_eq declared.phase_named declared.isIndexed_named]
  simp only [noneInternal_append]
  exact ⟨⟨⟨⟨(Naming.reaches_run _ _).noneInternal noneInternal_nil, noneInternal_nil⟩, noneInternal_findings _⟩,
    noneInternal_registryUnresolved _⟩, (Derivation.reaches_run _).noneInternal noneInternal_nil⟩

end ApiDesign
