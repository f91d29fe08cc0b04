import ApiDesign.Design
import ApiDesign.Proofs.Clause.Identity
import ApiDesign.Proofs.Registry.Index

/-!
Contract: what flawless declarations make.

A declaration makes its root by itself: what was declared before plays no part in it. So a design without diagnostics
is the registration of these roots one after the other, and its registry is `Registry.IsDeclared`: in its first phase,
indexed, without inherited errors, and with collections that still carry the names their elements were given.

Owns: `Declaration.root?`, `Registry.registerAll`, `Declares`, `Registry.IsDeclared`.
Does not own: the independence from the order of declarations (`Proofs.Evaluation.Order`).
-/

namespace ApiDesign

/-! ## Roots -/

namespace Declaration

/-- The outcome of the clauses of a declaration, with nothing recorded before. -/
def outcome (opening : Opening) : Outcome :=
  Clause.applyAll opening.clauses opening.node { frames := [opening.frame] }

/-- The root that a declaration makes, unless it fails or leaves a diagnostic. -/
def root? (declaration : Declaration) : Option Root :=
  match declaration.opening with
  | .error _ => none
  | .ok opening =>
      if (outcome opening).failure.isNone && (outcome opening).reporter.diagnostics.isEmpty then
        (outcome opening).node.root?
      else none

/-- A declaration begins with a node of its own kind and name. -/
theorem identity_of_opening {declaration : Declaration} {opening : Opening}
    (opens : declaration.opening = .ok opening) :
    (∃ name, opening.node.identity = .api { name := name }) ∨
      (∃ name, opening.node = .service { name := name }) ∨
      (∃ name, opening.node.identity = .userType ⟨name, Attribute.object⟩) ∨
      (∃ name, opening.node = .resultType (.named name)) ∨
      (∃ name, opening.node = .resultType (.collectionOf name)) := by
  unfold Declaration.opening at opens
  split at opens
  · cases opens
  · cases declaration with
    | api given clauses =>
        cases opens
        exact .inl ⟨given, rfl⟩
    | service given clauses =>
        cases opens
        exact .inr (.inl ⟨given, rfl⟩)
    | userType given arguments =>
        simp only [begin] at opens
        split at opens
        · cases opens
          exact .inr (.inr (.inl ⟨given, rfl⟩))
        · cases opens
    | resultType identifier clauses =>
        cases opens
        exact .inr (.inr (.inr (.inl ⟨identifier, rfl⟩)))
    | collectionOf element clauses =>
        cases opens
        exact .inr (.inr (.inr (.inr ⟨element, rfl⟩)))

end Declaration

/-! ## Declared result types -/

/-- A result type as its declaration leaves it: named by its identifier, or the collection of a given element. -/
inductive ResultType.IsDeclared (resultType : ResultType) : Prop
  | plain (name : String) (identifier : resultType.identifier = name)
      (typeName : resultType.typeName = TypeName.derive name) (collection : resultType.collection = none)
  | collection (element : String) (identifier : resultType.identifier = ResultType.collectionIdentifier element)
      (typeName : resultType.typeName = TypeName.derive element ++ ResultType.defaultSuffix)
      (collection : resultType.collection = some { element := ⟨element, none⟩ })

/-- A root as its declaration leaves it. -/
def Root.IsDeclared : Root → Prop
  | .service declared => declared.HasOwnErrors
  | .resultType declared => declared.IsDeclared
  | _ => True

namespace Declaration

/-- Clauses make a declared root of what a declaration begins with. -/
theorem exists_root_of_becomes {declaration : Declaration} {opening : Opening}
    (opens : declaration.opening = .ok opening) {node : Node} (becomes : opening.node.Becomes node) :
    ∃ root, node.root? = some root ∧ root.IsDeclared := by
  have same := becomes.identity
  rcases identity_of_opening opens with ⟨name, api⟩ | ⟨name, service⟩ | ⟨name, userType⟩ | ⟨name, plain⟩ |
    ⟨name, collection⟩
  · rw [api] at same
    cases node <;> simp only [Node.identity, reduceCtorEq] at same
    exact ⟨_, rfl, trivial⟩
  · have own : node.HasOwnErrors := becomes.ownErrors (by
      rw [service]
      exact ⟨by simp, by simp⟩)
    rw [service] at same
    cases node <;> simp only [Node.identity, reduceCtorEq] at same
    exact ⟨_, rfl, own⟩
  · rw [userType] at same
    cases node <;> simp only [Node.identity, reduceCtorEq] at same
    exact ⟨_, rfl, trivial⟩
  · rw [plain] at same
    cases node <;> simp only [Node.identity, reduceCtorEq, Node.resultType.injEq, ResultType.mk.injEq] at same
    exact ⟨_, rfl, .plain name same.1 same.2.1 same.2.2.2.2⟩
  · rw [collection] at same
    cases node <;> simp only [Node.identity, reduceCtorEq, Node.resultType.injEq, ResultType.mk.injEq] at same
    exact ⟨_, rfl, .collection name same.1 same.2.1 same.2.2.2.2⟩

theorem isDeclared_of_root? {declaration : Declaration} {root : Root} (makes : declaration.root? = some root) :
    root.IsDeclared := by
  unfold root? at makes
  cases opens : declaration.opening with
  | error diagnostic => simp [opens] at makes
  | ok opening =>
      simp only [opens] at makes
      split at makes
      · obtain ⟨other, made, declared⟩ :=
          exists_root_of_becomes opens
            (Clause.becomes_applyAll opening.clauses opening.node { frames := [opening.frame] })
        rw [show (outcome opening).node.root? = some other from made] at makes
        cases makes
        exact declared
      · cases makes

end Declaration

/-! ## Registration of several roots -/

/-- Registers roots one after the other, as long as nothing speaks against one. -/
def Registry.registerAll : List Root → Registry → Except Cause Registry
  | [], registry => .ok registry
  | root :: rest, registry =>
      match registry.register root with
      | .ok after => registerAll rest after
      | .error cause => .error cause

theorem Registry.registerAll_cons_eq_ok_iff {root : Root} {rest : List Root} {registry after : Registry} :
    registerAll (root :: rest) registry = .ok after ↔
      ∃ next, registry.register root = .ok next ∧ registerAll rest next = .ok after := by
  rw [registerAll]
  cases registry.register root <;> simp

/-- Declarations that all succeed, leave no diagnostic and make a registry. -/
structure Declares (declarations : List Declaration) (registry : Registry) : Prop where
  flawless : ∀ declaration ∈ declarations, declaration.root?.isSome
  registered : Registry.registerAll (declarations.filterMap Declaration.root?) .initial = .ok registry

namespace Design

/-! ## One declaration -/

/-- What a declaration does to a design between declarations: it opens, applies its clauses behind what was recorded
earlier, and registers the node. -/
theorem declare_eq {declaration : Declaration} {design : Design} {opening : Opening}
    (opens : declaration.opening = .ok opening) (outside : design.reporter.frames = []) :
    design.declare declaration =
      (match (Declaration.outcome opening).failure with
        | some diagnostic =>
            ({ design with reporter :=
                ⟨[], design.reporter.diagnostics ++ (Declaration.outcome opening).reporter.diagnostics⟩ },
              some diagnostic)
        | none =>
            (register opening.frame (Declaration.outcome opening).node
              { design with reporter :=
                ⟨[], design.reporter.diagnostics ++ (Declaration.outcome opening).reporter.diagnostics⟩ },
              none)) := by
  have entered : design.reporter.enter opening.frame =
      Reporter.behind design.reporter.diagnostics { frames := [opening.frame] } := by
    simp [Reporter.enter, Reporter.behind, outside]
  have frames : (Declaration.outcome opening).reporter.frames = [opening.frame] := Clause.frames_applyAll _ _ _
  have left : ((Declaration.outcome opening).reporter.behind design.reporter.diagnostics).leave =
      ⟨[], design.reporter.diagnostics ++ (Declaration.outcome opening).reporter.diagnostics⟩ := by
    simp [Reporter.leave, Reporter.behind, frames]
  unfold declare
  rw [opens]
  simp only [entered, Clause.applyAll_behind]
  rw [show Clause.applyAll opening.clauses opening.node { frames := [opening.frame] } =
    Declaration.outcome opening from rfl]
  cases failure : (Declaration.outcome opening).failure with
  | some diagnostic => simp [Outcome.behind, left, failure]
  | none => simp [Outcome.behind, left, failure]

/-- Registering reports exactly if something speaks against it. -/
theorem register_eq {frame : String} {node : Node} {root : Root} (made : node.root? = some root) (design : Design) :
    design.register frame node =
      match design.registry.register root with
      | .ok registry => { design with registry := registry }
      | .error cause => { design with reporter := design.reporter.report (.located [frame] cause) } := by
  unfold register
  cases registered : design.registry.register root with
  | ok registry => simp [made, registered]
  | error cause => simp [made, registered]

/-- A declaration leaves a design outside all frames and forgets nothing that was recorded. -/
theorem reporter_declare {declaration : Declaration} {design after : Design}
    (outside : design.reporter.frames = []) (declares : design.declare declaration = (after, none)) :
    after.reporter.frames = [] ∧
      ∃ later, after.reporter.diagnostics = design.reporter.diagnostics ++ later := by
  cases opens : declaration.opening with
  | error diagnostic => simp [declare, opens] at declares
  | ok opening =>
      rw [declare_eq opens outside] at declares
      cases failure : (Declaration.outcome opening).failure with
      | some diagnostic => simp [failure] at declares
      | none =>
          obtain ⟨root, made, _⟩ :=
            Declaration.exists_root_of_becomes opens (Clause.becomes_applyAll opening.clauses opening.node _)
          simp only [failure, Prod.mk.injEq, and_true] at declares
          rw [register_eq (show (Declaration.outcome opening).node.root? = some root from made)] at declares
          cases registered : design.registry.register root with
          | ok registry =>
              simp only [registered] at declares
              rw [← declares]
              exact ⟨rfl, _, rfl⟩
          | error cause =>
              simp only [registered] at declares
              rw [← declares]
              simp only [Reporter.report, List.append_assoc]
              exact ⟨trivial, _, rfl⟩

theorem declareAll_cons_eq_iff {declaration : Declaration} {rest : List Declaration} {design after : Design} :
    design.declareAll (declaration :: rest) = (after, none) ↔
      ∃ next, design.declare declaration = (next, none) ∧ next.declareAll rest = (after, none) := by
  rw [declareAll]
  cases design.declare declaration with
  | mk next failure => cases failure <;> simp

/-- What is recorded before declarations is still recorded after them. -/
theorem diagnostics_of_declareAll {declarations : List Declaration} {design : Design} {registry : Registry}
    (outside : design.reporter.frames = []) (declares : design.declareAll declarations = (⟨registry, {}⟩, none)) :
    design.reporter.diagnostics = [] := by
  induction declarations generalizing design with
  | nil =>
      unfold declareAll at declares
      have same := (Prod.mk.inj declares).1
      rw [same]
  | cons declaration rest inductionHypothesis =>
      obtain ⟨after, first, others⟩ := declareAll_cons_eq_iff.mp declares
      obtain ⟨afterOutside, later, recorded⟩ := reporter_declare outside first
      have nothing := inductionHypothesis afterOutside others
      rw [recorded] at nothing
      exact (List.append_eq_nil_iff.mp nothing).1

/-- Declarations that succeed leave a design outside all frames. -/
theorem reporter_declareAll {declarations : List Declaration} {design after : Design}
    (outside : design.reporter.frames = []) (declares : design.declareAll declarations = (after, none)) :
    after.reporter.frames = [] := by
  induction declarations generalizing design with
  | nil =>
      unfold declareAll at declares
      rw [← (Prod.mk.inj declares).1]
      exact outside
  | cons declaration rest inductionHypothesis =>
      obtain ⟨next, first, others⟩ := declareAll_cons_eq_iff.mp declares
      exact inductionHypothesis (reporter_declare outside first).1 others

/-- From a design without diagnostics, a declaration leads to one without diagnostics exactly by registering its
root. -/
theorem declare_flawless_iff {declaration : Declaration} {design : Design} (fresh : design.reporter = {})
    {registry : Registry} :
    design.declare declaration = (⟨registry, {}⟩, none) ↔
      ∃ root, declaration.root? = some root ∧ design.registry.register root = .ok registry := by
  cases opens : declaration.opening with
  | error diagnostic => simp [declare, Declaration.root?, opens]
  | ok opening =>
      obtain ⟨root, made, _⟩ :=
        Declaration.exists_root_of_becomes opens (Clause.becomes_applyAll opening.clauses opening.node _)
      have outcomeMade : (Declaration.outcome opening).node.root? = some root := made
      rw [declare_eq opens (by rw [fresh])]
      simp only [Declaration.root?, opens, fresh, List.nil_append]
      cases failure : (Declaration.outcome opening).failure with
      | some diagnostic => simp
      | none =>
          simp only [register_eq outcomeMade, Option.isNone_none, Bool.true_and, List.isEmpty_iff]
          cases registered : design.registry.register root with
          | ok extended =>
              cases recorded : (Declaration.outcome opening).reporter.diagnostics with
              | nil => simp [outcomeMade, registered]
              | cons first others => simp
          | error cause =>
              simp only [Reporter.report, Prod.mk.injEq, Design.mk.injEq, Reporter.mk.injEq]
              constructor
              · rintro ⟨⟨_, _, nothing⟩, _⟩
                simp at nothing
              · rintro ⟨other, makes, succeeds⟩
                split at makes
                · rw [outcomeMade] at makes
                  cases makes
                  rw [registered] at succeeds
                  cases succeeds
                · cases makes

/-! ## Several declarations -/

/-- Declarations that leave no diagnostic register their roots one after the other, and nothing else happens. -/
theorem declareAll_flawless_iff {declarations : List Declaration} {design : Design} (fresh : design.reporter = {})
    {registry : Registry} :
    design.declareAll declarations = (⟨registry, {}⟩, none) ↔
      (∀ declaration ∈ declarations, declaration.root?.isSome) ∧
        Registry.registerAll (declarations.filterMap Declaration.root?) design.registry = .ok registry := by
  induction declarations generalizing design with
  | nil =>
      obtain ⟨declared, reporter⟩ := design
      simp only at fresh
      simp [declareAll, Registry.registerAll, fresh]
  | cons declaration rest inductionHypothesis =>
      rw [declareAll_cons_eq_iff]
      constructor
      · rintro ⟨⟨extended, reporter⟩, first, others⟩
        have outside : design.reporter.frames = [] := by rw [fresh]
        -- The first declaration may report; only that nothing is reported in the end shows that it did not.
        have afterOutside : reporter.frames = [] := (reporter_declare outside first).1
        have nothingLater : reporter.diagnostics = [] := diagnostics_of_declareAll afterOutside others
        have clean : reporter = {} := by
          cases reporter
          simp only at afterOutside nothingLater
          rw [afterOutside, nothingLater]
        subst clean
        obtain ⟨root, makes, registered⟩ := (declare_flawless_iff fresh).mp first
        obtain ⟨flawless, othersRegistered⟩ := (inductionHypothesis rfl).mp others
        refine ⟨?_, ?_⟩
        · intro other member
          rcases List.mem_cons.mp member with same | inRest
          · rw [same, makes]
            rfl
          · exact flawless other inRest
        · rw [List.filterMap_cons_some makes]
          exact Registry.registerAll_cons_eq_ok_iff.mpr ⟨extended, registered, othersRegistered⟩
      · rintro ⟨flawless, registered⟩
        obtain ⟨root, makes⟩ := Option.isSome_iff_exists.mp (flawless declaration List.mem_cons_self)
        rw [List.filterMap_cons_some makes] at registered
        obtain ⟨after, extended, others⟩ := Registry.registerAll_cons_eq_ok_iff.mp registered
        exact ⟨⟨after, {}⟩, (declare_flawless_iff fresh).mpr ⟨root, makes, extended⟩, (inductionHypothesis rfl).mpr
          ⟨fun other member => flawless other (List.mem_cons_of_mem _ member), others⟩⟩

end Design

/-- The registry that declarations make. -/
def declaredRegistry (declarations : List Declaration) : Registry :=
  (Design.empty.declareAll declarations).1.registry

/-- A design without failure and diagnostics is one whose declarations make its registry. -/
theorem declares_iff {declarations : List Declaration} {registry : Registry} :
    Declares declarations registry ↔ Design.empty.declareAll declarations = (⟨registry, {}⟩, none) := by
  rw [Design.declareAll_flawless_iff rfl]
  exact ⟨fun declares => ⟨declares.flawless, declares.registered⟩, fun both => ⟨both.1, both.2⟩⟩

theorem Declares.eq_declaredRegistry {declarations : List Declaration} {registry : Registry}
    (declares : Declares declarations registry) : declaredRegistry declarations = registry := by
  unfold declaredRegistry
  rw [declares_iff.mp declares]

/-! ## The declared registry -/

/-- A registry as declarations leave it. -/
structure Registry.IsDeclared (registry : Registry) : Prop where
  phase : registry.phase = .declaring
  indexed : registry.IsIndexed
  services : ∀ service ∈ registry.services, service.HasOwnErrors
  resultTypes : ∀ resultType ∈ registry.resultTypes, resultType.IsDeclared

namespace Registry

theorem isDeclared_initial : initial.IsDeclared where
  phase := rfl
  indexed := isIndexed_initial
  services := by simp [initial]
  resultTypes := by simp [initial]

theorem IsDeclared.register {root : Root} {registry after : Registry} (declared : registry.IsDeclared)
    (rootDeclared : root.IsDeclared) (registered : registry.register root = .ok after) : after.IsDeclared := by
  have indexed := declared.indexed.register registered
  unfold Registry.register at registered
  cases free : registry.objection? root with
  | some cause => simp [free] at registered
  | none =>
      simp only [free, Except.ok.injEq] at registered
      subst registered
      cases root with
      | api held => exact ⟨declared.phase, indexed, declared.services, declared.resultTypes⟩
      | userType held => exact ⟨declared.phase, indexed, declared.services, declared.resultTypes⟩
      | service held =>
          refine ⟨declared.phase, indexed, ?_, declared.resultTypes⟩
          intro service member
          rcases List.mem_append.mp member with earlier | last
          · exact declared.services service earlier
          · rw [List.mem_singleton.mp last]
            exact rootDeclared
      | resultType held =>
          refine ⟨declared.phase, indexed, declared.services, ?_⟩
          intro resultType member
          rcases List.mem_append.mp member with earlier | last
          · exact declared.resultTypes resultType earlier
          · rw [List.mem_singleton.mp last]
            exact rootDeclared

theorem IsDeclared.registerAll {roots : List Root} {registry after : Registry} (declared : registry.IsDeclared)
    (rootsDeclared : ∀ root ∈ roots, root.IsDeclared) (registered : Registry.registerAll roots registry = .ok after) :
    after.IsDeclared := by
  induction roots generalizing registry with
  | nil =>
      cases registered
      exact declared
  | cons root rest inductionHypothesis =>
      obtain ⟨next, extended, others⟩ := registerAll_cons_eq_ok_iff.mp registered
      exact inductionHypothesis (declared.register (rootsDeclared root List.mem_cons_self) extended)
        (fun other member => rootsDeclared other (List.mem_cons_of_mem _ member)) others

end Registry

theorem Declares.isDeclared {declarations : List Declaration} {registry : Registry}
    (declares : Declares declarations registry) : registry.IsDeclared := by
  refine Registry.isDeclared_initial.registerAll ?_ declares.registered
  intro root member
  obtain ⟨declaration, _, makes⟩ := List.mem_filterMap.mp member
  exact Declaration.isDeclared_of_root? makes

end ApiDesign
