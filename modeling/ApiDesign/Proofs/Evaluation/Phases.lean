import ApiDesign.Evaluation.Basic
import ApiDesign.Proofs.Evaluation.Checking
import ApiDesign.Proofs.Evaluation.Linking

/-!
Contract: what the phases of evaluation find, one after the other.

Each phase is a scan that keeps the frames of its reporter and adds what it finds. So evaluation finds what preparing,
checking, linking and the derivation of views find, behind whatever was found before.

Owns: the findings of each phase and of evaluation as lists.
Does not own: the registries between the phases (`Proofs.Evaluation.Stages`).
-/

namespace ApiDesign

open Scan

namespace Registry

variable (settings : Settings) (registry : Registry)

theorem yields_preparation :
    Yields (registry.preparation settings) (registry.prepare settings).1 fun _ => (registry.prepare settings).2 :=
  .congr (.bind (.absorb _) (.pure _)) fun _ => List.append_nil _

theorem yields_finalization :
    Yields registry.finalization (registry.link registry.typeIndex).deriveViews.1 fun trail =>
      registry.unresolvedAt registry.typeIndex trail ++ (registry.link registry.typeIndex).deriveViews.2 :=
  registry.yields_connect.bind (.congr (.bind (.absorb _) (.pure _)) fun _ => List.append_nil _)

/-- The registry that evaluation ends with. -/
def evaluatedRegistry : Registry :=
  ((registry.prepare settings).1.link (registry.prepare settings).1.typeIndex).deriveViews.1

/-- What evaluation of a registry that is reached by a trail finds. -/
def evaluationFindings (trail : List String) : List Diagnostic :=
  (registry.prepare settings).2 ++ (registry.prepare settings).1.findingsAt trail ++
    (registry.prepare settings).1.unresolvedAt (registry.prepare settings).1.typeIndex trail ++
    ((registry.prepare settings).1.link (registry.prepare settings).1.typeIndex).deriveViews.2

/-- Evaluation finds what its phases find, one after the other. -/
theorem yields_evaluation :
    Yields (registry.evaluation settings) (registry.evaluatedRegistry settings)
      (registry.evaluationFindings settings) := by
  unfold evaluation
  refine .congr ((registry.yields_preparation settings).bind
    ((registry.prepare settings).1.yields_check.bind (registry.prepare settings).1.yields_finalization)) fun trail => ?_
  simp [evaluationFindings]

theorem evaluate_eq_findings :
    registry.evaluate settings =
      ⟨registry.evaluatedRegistry settings, registry.evaluationFindings settings []⟩ := by
  unfold evaluate
  rw [registry.yields_evaluation settings]
  rfl

end Registry

/-- A design is evaluated like its registry, behind what was found in declaring. -/
theorem Design.evaluate_eq (settings : Settings) (design : Design) :
    design.evaluate settings =
      if (design.reporter.diagnostics ++ (design.registry.evaluate settings).diagnostics).isEmpty then
        .ok (.ofRegistry (design.registry.evaluate settings).registry)
      else .error (design.reporter.diagnostics ++ (design.registry.evaluate settings).diagnostics) := by
  unfold evaluate
  rw [Registry.yields_evaluation, Registry.evaluate_eq_findings]
  rfl

/-- A design evaluates to a model exactly if nothing was found in declaring it and evaluation finds nothing. -/
theorem Design.evaluate_eq_ok_iff {settings : Settings} {design : Design} {model : Model} :
    design.evaluate settings = .ok model ↔
      design.reporter.diagnostics = [] ∧ (design.registry.evaluate settings).diagnostics = [] ∧
        model = .ofRegistry (design.registry.evaluate settings).registry := by
  rw [evaluate_eq]
  generalize design.registry.evaluate settings = evaluated
  by_cases nothing : (design.reporter.diagnostics ++ evaluated.diagnostics).isEmpty
  · rw [if_pos nothing]
    rw [List.isEmpty_iff, List.append_eq_nil_iff] at nothing
    simp [nothing, eq_comm]
  · rw [if_neg nothing]
    rw [List.isEmpty_iff, List.append_eq_nil_iff] at nothing
    simpa using fun declared found _ => nothing ⟨declared, found⟩

end ApiDesign
