import ApiDesign.Proofs.Design.FirstOfKey
import ApiDesign.Proofs.Evaluation.Stages
import ApiDesign.Proofs.Registry.Rearranged

/-!
Contract: what declarations that do not fail leave behind, and what evaluation adds to it.

Such declarations leave diagnostics of their own and a registry that holds the first root of each key. Evaluation adds
the diagnostics it finds in that registry, and there is a model exactly when there is nothing of either sort.

Owns: `declarationDiagnostics`, `evaluationDiagnostics`, `evaluate` through them, first roots of declarations with
distinct keys.
Does not own: which diagnostics evaluation finds.
-/

namespace ApiDesign

/-! ## Declaring without failure -/

namespace Design

/-- A declaration that builds a root does not fail, and leaves a design outside all frames. -/
theorem declare_of_built {declaration : Declaration} {design : Design} (outside : design.reporter.frames = [])
    (builds : declaration.built?.isSome) :
    (design.declare declaration).2 = none ∧ (design.declare declaration).1.reporter.frames = [] := by
  rcases declare_cases declaration outside with ⟨fails, _⟩ | ⟨root, _, _, _, equation⟩
  · rw [fails] at builds
    cases builds
  · rw [equation]
    cases design.registry.register root <;> exact ⟨rfl, rfl⟩

/-- Declarations that build roots are all made. -/
theorem declareAll_of_built {declarations : List Declaration} {design : Design}
    (outside : design.reporter.frames = []) (built : ∀ declaration ∈ declarations, declaration.built?.isSome) :
    design.declareAll declarations = (design.declareEach declarations, none) := by
  induction declarations generalizing design with
  | nil => rfl
  | cons declaration rest inductionHypothesis =>
      obtain ⟨succeeds, afterOutside⟩ := declare_of_built outside (built declaration List.mem_cons_self)
      have others := inductionHypothesis afterOutside fun other member => built other (List.mem_cons_of_mem _ member)
      rw [declareAll, declareEach, List.foldl_cons]
      cases first : design.declare declaration with
      | mk after failure =>
          rw [first] at succeeds others
          cases succeeds
          exact others

end Design

/-- The diagnostics that declarations leave. -/
def declarationDiagnostics (declarations : List Declaration) : List Diagnostic :=
  (Design.empty.declareAll declarations).1.reporter.diagnostics

/-- The diagnostics that evaluation adds to those that declarations leave. -/
def evaluationDiagnostics (settings : Settings) (declarations : List Declaration) : List Diagnostic :=
  ((declaredRegistry declarations).evaluate settings).diagnostics

section Built

variable {declarations : List Declaration} (built : ∀ declaration ∈ declarations, declaration.built?.isSome)

include built

theorem declareAll_of_built :
    Design.empty.declareAll declarations = (Design.empty.declareEach declarations, none) :=
  Design.declareAll_of_built rfl built

theorem declaredRegistry_of_built :
    declaredRegistry declarations = (Design.empty.declareEach declarations).registry := by
  rw [declaredRegistry, declareAll_of_built built]

theorem isDeclared_declaredRegistry : (declaredRegistry declarations).IsDeclared := by
  rw [declaredRegistry_of_built built]
  exact Design.isDeclared_declareEach declarations

theorem holds_declaredRegistry :
    (declaredRegistry declarations).Holds (Root.errorResult :: Declaration.firstRoots [] declarations) := by
  rw [declaredRegistry_of_built built]
  exact (Design.hasDeclared_declareEach declarations).holds

/-- Declarations that do not fail evaluate to what they and evaluation report, or else to the model. -/
theorem evaluate_of_built (settings : Settings) :
    evaluate settings declarations =
      if (declarationDiagnostics declarations ++ evaluationDiagnostics settings declarations).isEmpty then
        .ok (.ofRegistry ((declaredRegistry declarations).derived settings))
      else .error (declarationDiagnostics declarations ++ evaluationDiagnostics settings declarations) := by
  rw [evaluate, declarationDiagnostics, evaluationDiagnostics, declaredRegistry, declareAll_of_built built]
  dsimp only
  rw [Design.evaluate_eq, Registry.evaluate_eq]

/-- Declarations that do not fail evaluate to a model exactly if nothing is reported. -/
theorem exists_evaluate_eq_ok_iff (settings : Settings) :
    (∃ model, evaluate settings declarations = .ok model) ↔
      declarationDiagnostics declarations ++ evaluationDiagnostics settings declarations = [] := by
  rw [evaluate_of_built built, ← List.isEmpty_iff]
  split
  next nothing => simp [nothing]
  next something => simp [something]

/-- Declarations that do not fail make a registry exactly if they leave no diagnostics. -/
theorem exists_declares_iff :
    (∃ registry, Declares declarations registry) ↔ declarationDiagnostics declarations = [] := by
  have outside := (Design.hasDeclared_declareEach declarations).outside
  simp only [declares_iff, declarationDiagnostics, declareAll_of_built built]
  generalize Design.empty.declareEach declarations = design at outside ⊢
  obtain ⟨registry, ⟨frames, diagnostics⟩⟩ := design
  simp only at outside
  simp [outside]

end Built

/-! ## First roots -/

namespace Declaration

/-- Each first root is built by one of the declarations. -/
theorem exists_of_mem_firstRoots {root : Root} :
    ∀ {earlier declarations : List Declaration}, root ∈ firstRoots earlier declarations →
      ∃ declaration ∈ declarations, declaration.built? = some root
  | earlier, declaration :: rest, member => by
      rw [firstRoots, List.mem_append] at member
      rcases member with isHere | inRest
      · split at isHere
        next => exact ⟨declaration, List.mem_cons_self, Option.mem_toList.mp isHere⟩
        next => cases isHere
      · obtain ⟨other, inOthers, builds⟩ := exists_of_mem_firstRoots inRest
        exact ⟨other, List.mem_cons_of_mem _ inOthers, builds⟩

/-- If no two declarations have one key, the first roots are those of all declarations, except that the key of the
built-in error type is taken. -/
theorem firstRoots_of_nodup :
    ∀ (earlier declarations : List Declaration), ((earlier ++ declarations).map key).Nodup →
      firstRoots earlier declarations =
        (declarations.filter fun declaration => declaration.key ≠ Root.errorResult.key).filterMap built?
  | _, [], _ => rfl
  | earlier, declaration :: rest, distinct => by
      have first : declaration.IsFirst earlier ↔ declaration.key ≠ Root.errorResult.key := by
        refine and_iff_left fun other member _ same => ?_
        rw [List.map_append, List.map_cons] at distinct
        exact (List.nodup_append.mp distinct).2.2 _ (List.mem_map_of_mem member) _ List.mem_cons_self same
      rw [firstRoots, firstRoots_of_nodup (earlier ++ [declaration]) rest (by simpa using distinct)]
      by_cases free : declaration.key ≠ Root.errorResult.key
      · rw [if_pos (first.mpr free), List.filter_cons_of_pos (by simpa using free), List.filterMap_cons]
        cases declaration.built? <;> rfl
      · rw [if_neg fun isFirst => free (first.mp isFirst), List.filter_cons_of_neg (by simpa using free),
          List.nil_append]

/-- Declarations with distinct keys have the same first roots in every order. -/
theorem perm_firstRoots {left right : List Declaration} (permutation : left.Perm right)
    (distinct : (left.map key).Nodup) : (firstRoots [] left).Perm (firstRoots [] right) := by
  rw [firstRoots_of_nodup [] left distinct, firstRoots_of_nodup [] right ((permutation.map key).nodup distinct)]
  exact (permutation.filter _).filterMap built?

end Declaration

/-- Registries that hold the same roots, in whatever order, are rearranged. -/
theorem Registry.Holds.rearranged {left right : Registry} {roots others : List Root} (holds : left.Holds roots)
    (otherHolds : right.Holds others) (permutation : roots.Perm others) (declared : left.IsDeclared)
    (otherDeclared : right.IsDeclared) : left.Rearranged right where
  phase := declared.phase.trans otherDeclared.phase.symm
  api := by
    have same : left.api.toList.Perm right.api.toList := by
      rw [holds.api, otherHolds.api]
      exact permutation.filterMap _
    cases isLeft : left.api <;> cases isRight : right.api <;> simp [isLeft, isRight] at same ⊢
    exact same
  services := by
    rw [holds.services, otherHolds.services]
    exact permutation.filterMap _
  userTypes := by
    rw [holds.userTypes, otherHolds.userTypes]
    exact permutation.filterMap _
  resultTypes := by
    rw [holds.resultTypes, otherHolds.resultTypes]
    exact permutation.filterMap _
  indexed := declared.indexed
  otherIndexed := otherDeclared.indexed

end ApiDesign
