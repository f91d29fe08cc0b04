import ApiDesign.Proofs.Evaluation.Order
import ApiDesign.Proofs.Evaluation.Outcome
import ApiDesign.Proofs.Registry.Roots

/-!
Contract: what evaluation finds does not depend on the order of the declarations.

Declarations with distinct keys leave rearranged registries in every order. Without collections no element is ever
asked for by name, so the look-ups that depend on order never happen: preparing makes the registries equal, and
whatever is found afterwards is found in one and the same registry.

Owns: evaluation without collections in two orders.
Does not own: collections whose elements are asked for unambiguously (`Proofs.Evaluation.Order`).
-/

namespace ApiDesign

variable {settings : Settings}

namespace Registry

variable {registry : Registry} {roots : List Root}

/-- Roots that mention no collection ask for no element. -/
theorem Holds.elementNames_eq_nil (holds : registry.Holds roots)
    (noCollection : ∀ root ∈ roots, root.MentionsNoCollection) : registry.elementNames = [] := by
  rw [elementNames, List.append_eq_nil_iff]
  constructor
  · rw [List.filterMap_eq_nil_iff, holds.resultTypes]
    intro resultType member
    obtain ⟨root, inRoots, isHeld⟩ := List.mem_filterMap.mp member
    rw [(noCollection root inRoots).1 resultType isHeld, Option.map_none]
  · rw [List.eq_nil_iff_forall_not_mem]
    intro name asked
    obtain ⟨node, inNodes, isShortcut⟩ := mem_shortcutNames.mp asked
    obtain ⟨root, inRoots, inRoot⟩ := holds.mem_nodes_iff.mp inNodes
    rw [(noCollection root inRoots).2 node inRoot] at isShortcut
    cases isShortcut

/-- Without collections, naming has nothing to do and nothing to report. -/
theorem diagnostics_run_of_elementNames (nothingAsked : registry.elementNames = []) (suffix : String) :
    (Naming.run suffix registry.resultTypes).diagnostics = [] := by
  have noPending : (Naming.start suffix registry.resultTypes).pending = [] := by
    rw [Naming.start, List.map_eq_nil_iff, List.filter_eq_nil_iff]
    rintro ⟨resultType, position⟩ member isDeclared
    obtain ⟨facts, collects, _⟩ := ResultType.isDeclaredCollection_iff.mp isDeclared
    have asked : facts.element.name ∈ registry.elementNames := List.mem_append_left _
      (List.mem_filterMap.mpr ⟨resultType, List.fst_mem_of_mem_zipIdx member, congrArg (Option.map _) collects⟩)
    rw [nothingAsked] at asked
    cases asked
  rw [Naming.run, noPending]
  rfl

end Registry

/-- The built-in error type mentions no collection. -/
theorem mentionsNoCollection_errorResult : Root.errorResult.MentionsNoCollection := by decide

/-- Declarations that mention no collection leave a registry in which no element is asked for. -/
theorem elementNames_declaredRegistry {declarations : List Declaration}
    (built : ∀ declaration ∈ declarations, declaration.built?.isSome)
    (noCollection : ∀ declaration ∈ declarations, declaration.MentionsNoCollection) :
    (declaredRegistry declarations).elementNames = [] := by
  refine (holds_declaredRegistry built).elementNames_eq_nil fun root member => ?_
  rcases List.mem_cons.mp member with rfl | isFirst
  · exact mentionsNoCollection_errorResult
  · obtain ⟨declaration, inAll, builds⟩ := Declaration.exists_of_mem_firstRoots isFirst
    exact noCollection declaration inAll root builds

/-- Declarations that do not fail, have distinct keys and mention no collection are evaluated alike in every order:
evaluation adds the same diagnostics in the same order, and if there are none at all, it leads to the same model. -/
theorem evaluationDiagnostics_perm {left right : List Declaration} (permutation : left.Perm right)
    (built : ∀ declaration ∈ left, declaration.built?.isSome) (distinct : (left.map Declaration.key).Nodup)
    (noCollection : ∀ declaration ∈ left, declaration.MentionsNoCollection) :
    evaluationDiagnostics settings left = evaluationDiagnostics settings right ∧
      ∀ model, evaluate settings left = .ok model ↔ evaluate settings right = .ok model := by
  have otherBuilt : ∀ declaration ∈ right, declaration.built?.isSome :=
    fun declaration member => built declaration (permutation.mem_iff.mpr member)
  have nothingAsked := elementNames_declaredRegistry built noCollection
  have alsoNothing := elementNames_declaredRegistry otherBuilt
    fun declaration member => noCollection declaration (permutation.mem_iff.mpr member)
  have declared := isDeclared_declaredRegistry built
  have otherDeclared := isDeclared_declaredRegistry otherBuilt
  have rearranged := (holds_declaredRegistry built).rearranged (holds_declaredRegistry otherBuilt)
    ((Declaration.perm_firstRoots permutation distinct).cons _) declared otherDeclared
  have same : (declaredRegistry left).evaluate settings = (declaredRegistry right).evaluate settings :=
    rearranged.evaluate_eq declared otherDeclared (by simp [Registry.AsksUnambiguously, nothingAsked])
      (by simp [Registry.AsksUnambiguously, alsoNothing])
      (Registry.diagnostics_run_of_elementNames nothingAsked _)
  have sameDiagnostics : evaluationDiagnostics settings left = evaluationDiagnostics settings right := by
    rw [evaluationDiagnostics, same, evaluationDiagnostics]
  have sameRegistry : (declaredRegistry left).derived settings = (declaredRegistry right).derived settings := by
    have registries := congrArg Evaluated.registry same
    rwa [Registry.evaluate_eq, Registry.evaluate_eq] at registries
  -- Declarations leave nothing in one order exactly if they make a registry, and then they make one in the other.
  have declares : declarationDiagnostics left = [] ↔ declarationDiagnostics right = [] := by
    rw [← exists_declares_iff built, ← exists_declares_iff otherBuilt]
    constructor
    · rintro ⟨registry, makes⟩
      exact (makes.perm permutation).imp fun _ both => both.1
    · rintro ⟨registry, makes⟩
      exact (makes.perm permutation.symm).imp fun _ both => both.1
  refine ⟨sameDiagnostics, fun model => ?_⟩
  rw [evaluate_of_built built, evaluate_of_built otherBuilt]
  simp only [List.isEmpty_iff, List.append_eq_nil_iff, declares, sameDiagnostics, sameRegistry]
  split <;> simp

/-- Two types that refer to nothing, in two orders: both are found, the first by name first. -/
theorem evaluationDiagnostics_racks_reversed :
    evaluationDiagnostics {}
          [.userType "Rack" [.type (.reference "Shelf")], .userType "Bin" [.type (.reference "Lid")]] =
        evaluationDiagnostics {}
          [.userType "Bin" [.type (.reference "Lid")], .userType "Rack" [.type (.reference "Shelf")]] ∧
      evaluationDiagnostics {}
          [.userType "Bin" [.type (.reference "Lid")], .userType "Rack" [.type (.reference "Shelf")]] =
        [.located ["type \"Bin\""] (.unresolvedReference "Lid"),
          .located ["type \"Rack\""] (.unresolvedReference "Shelf")] :=
  ⟨(evaluationDiagnostics_perm (List.Perm.swap _ _ _) (by decide +kernel) (by decide +kernel)
    (by decide +kernel)).1, by decide +kernel⟩

end ApiDesign
