import ApiDesign.Design
import ApiDesign.Evaluation.Checking
import ApiDesign.Evaluation.Linking
import ApiDesign.Evaluation.Preparation
import ApiDesign.Evaluation.Views
import ApiDesign.Model.Basic

/-!
Contract: a design becomes a model, or the list of everything that is wrong with it.

Evaluation goes through three phases under one reporter: it prepares the registry, checks it, links its references and
derives views. All of it happens whatever was found before; there is a model exactly when nothing was found, in
declaring or in evaluation.
-/

namespace ApiDesign

/-- A registry after evaluation, and everything that evaluation found. -/
structure Evaluated where
  registry : Registry
  diagnostics : List Diagnostic
deriving Repr

namespace Registry

/-! ## The phases -/

/-- Makes a registry ready for checking. Naming locates what it finds by itself. -/
def preparation (settings : Settings) (registry : Registry) : Scan Registry := do
  let (prepared, found) := registry.prepare settings
  Scan.absorb found
  return prepared

/-- Links the references of a registry and derives views. Derivation locates what it finds by itself. -/
def finalization (registry : Registry) : Scan Registry := do
  let linked ← registry.connect registry.typeIndex
  let (final, found) := linked.deriveViews
  Scan.absorb found
  return final

/-- Goes through all phases. -/
def evaluation (settings : Settings) (registry : Registry) : Scan Registry := do
  let prepared ← registry.preparation settings
  prepared.check
  prepared.finalization

/-- Evaluates a registry with nothing found before. -/
def evaluate (settings : Settings) (registry : Registry) : Evaluated :=
  let (final, reporter) := (registry.evaluation settings).run {}
  ⟨final, reporter.diagnostics⟩

end Registry

/-- Evaluates a design. What was found in declaring comes first. -/
def Design.evaluate (settings : Settings) (design : Design) : Except (List Diagnostic) Model :=
  let (final, reporter) :=
    (design.registry.evaluation settings).run (({} : Reporter).absorb design.reporter.diagnostics)
  if reporter.diagnostics.isEmpty then .ok (.ofRegistry final) else .error reporter.diagnostics

/-- Makes declarations and evaluates the design. A declaration that fails is all that is reported. -/
def evaluate (settings : Settings) (declarations : List Declaration) : Except (List Diagnostic) Model :=
  match Design.empty.declareAll declarations with
  | (_, some diagnostic) => .error [diagnostic]
  | (design, none) => design.evaluate settings

end ApiDesign
