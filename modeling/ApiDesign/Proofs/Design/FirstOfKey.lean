import ApiDesign.Proofs.Clause.Trails
import ApiDesign.Proofs.Design
import Mathlib.Data.List.Induction

/-!
Contract: what any declarations leave in a design, failed and repeated ones included.

A declaration builds its root by itself or fails; both are decided by its name and its clauses alone. A registry takes
the first root of each key, so after any declarations it holds the built-in error type and, in order, the roots of
those declarations that are the first of their key among the ones that did not fail. A later one of the same key is
reported once, under its own frame, and changes nothing.

Owns: keys of declarations, `Declaration.built?`, `Registry.Holds`, declaring whatever fails.
Does not own: what evaluation makes of the registry (`Proofs.Evaluation.Stages`).
-/

namespace ApiDesign

/-! ## Keys -/

/-- What a registry tells declarations apart by. All APIs have one key. -/
inductive DeclarationKey where
  | api
  | service (name : String)
  | userType (name : String)
  | resultType (identifier : String)
deriving DecidableEq, Repr

/-- The key of a name among the declarations of a kind. -/
def RootKind.key (name : String) : RootKind → DeclarationKey
  | .api => .api
  | .service => .service name
  | .userType => .userType name
  | .resultType => .resultType name

def Root.key (root : Root) : DeclarationKey := root.kind.key root.name

/-- The built-in error type as a root. -/
def Root.errorResult : Root := .userType ApiDesign.errorResult

namespace Declaration

def kind : Declaration → RootKind
  | .api .. => .api
  | .service .. => .service
  | .userType .. => .userType
  | .resultType .. => .resultType
  | .collectionOf .. => .resultType

/-- Whether a declaration makes a result type, a collection or not. -/
def isResultType (declaration : Declaration) : Bool := declaration.kind == .resultType

/-- The name under which a declaration is registered. -/
def registeredName : Declaration → String
  | .api given _ => given
  | .service given _ => given
  | .userType given _ => given
  | .resultType identifier _ => identifier
  | .collectionOf element _ => ResultType.collectionIdentifier element

def key (declaration : Declaration) : DeclarationKey := declaration.kind.key declaration.registeredName

/-- The frame under which a declaration is reported. -/
def frame : Declaration → String
  | .api given _ => Kind.api.frame given
  | .service given _ => Kind.service.frame given
  | .userType given _ => Kind.userType.frame given
  | .resultType identifier _ => Kind.resultType.frame identifier
  | .collectionOf element _ => Kind.resultType.frame (ResultType.collectionIdentifier element)

/-! ## Roots by themselves -/

/-- The root that a declaration builds from a fresh node, whatever else it reports; none if it fails. -/
def built? (declaration : Declaration) : Option Root :=
  match declaration.opening with
  | .error _ => none
  | .ok opening => if (outcome opening).failure.isNone then (outcome opening).node.root? else none

/-- The arguments or the clauses of a declaration hold a call that cannot be carried out. -/
def HasMalformedCall : Declaration → Prop
  | .userType _ arguments =>
      ArgumentForm.isShape (arguments.map Argument.form) = false ∨
        ∃ clause ∈ arguments.flatMap Argument.held, clause.HasFailed
  | .api _ clauses => ∃ clause ∈ clauses, clause.HasFailed
  | .service _ clauses => ∃ clause ∈ clauses, clause.HasFailed
  | .resultType _ clauses => ∃ clause ∈ clauses, clause.HasFailed
  | .collectionOf _ clauses => ∃ clause ∈ clauses, clause.HasFailed

theorem frame_of_opening {declaration : Declaration} {opening : Opening}
    (opens : declaration.opening = .ok opening) : opening.frame = declaration.frame := by
  unfold Declaration.opening at opens
  split at opens
  · cases opens
  · cases declaration with
    | userType given arguments =>
        simp only [begin] at opens
        split at opens <;> cases opens
        rfl
    | _ =>
        cases opens
        rfl

/-- A declaration begins with a node that would be registered under its kind and name. -/
theorem kindAndName_of_opening {declaration : Declaration} {opening : Opening}
    (opens : declaration.opening = .ok opening) :
    opening.node.root?.map (fun root => (root.kind, root.name)) =
      some (declaration.kind, declaration.registeredName) := by
  unfold Declaration.opening at opens
  split at opens
  · cases opens
  · cases declaration with
    | userType given arguments =>
        simp only [begin] at opens
        split at opens <;> cases opens
        rfl
    | _ =>
        cases opens
        rfl

end Declaration

/-- Under which kind and name a node would be registered is part of its identity. -/
theorem Node.kindAndName_identity (node : Node) :
    node.identity.root?.map (fun root => (root.kind, root.name)) =
      node.root?.map fun root => (root.kind, root.name) := by
  cases node <;> rfl

namespace Declaration

/-- A root is registered under the kind and the name of its declaration, whatever the clauses are. -/
theorem exists_root_of_opening {declaration : Declaration} {opening : Opening}
    (opens : declaration.opening = .ok opening) :
    ∃ root, (outcome opening).node.root? = some root ∧ root.kind = declaration.kind ∧
      root.name = declaration.registeredName := by
  have becomes := Clause.becomes_applyAll opening.clauses opening.node { frames := [opening.frame] }
  have same : (outcome opening).node.root?.map (fun root => (root.kind, root.name)) =
      some (declaration.kind, declaration.registeredName) := by
    rw [← Node.kindAndName_identity, outcome, becomes.identity, Node.kindAndName_identity,
      kindAndName_of_opening opens]
  obtain ⟨root, made, both⟩ := Option.map_eq_some_iff.mp same
  obtain ⟨kind, name⟩ := Prod.mk.inj both
  exact ⟨root, made, kind, name⟩

theorem kindAndName_of_built? {declaration : Declaration} {root : Root} (builds : declaration.built? = some root) :
    root.kind = declaration.kind ∧ root.name = declaration.registeredName := by
  unfold built? at builds
  cases opens : declaration.opening with
  | error diagnostic => simp [opens] at builds
  | ok opening =>
      obtain ⟨made, isMade, kindAndName⟩ := exists_root_of_opening opens
      simp only [opens, isMade] at builds
      split at builds
      · cases builds
        exact kindAndName
      · cases builds

theorem key_of_built? {declaration : Declaration} {root : Root} (builds : declaration.built? = some root) :
    root.key = declaration.key := by
  obtain ⟨kind, name⟩ := kindAndName_of_built? builds
  rw [Root.key, key, kind, name]

/-- A declaration that has begun fails exactly if a clause in it has failed. -/
theorem isSome_failure_outcome_iff (opening : Opening) :
    (outcome opening).failure.isSome ↔ ∃ clause ∈ opening.clauses, clause.HasFailed := by
  rw [← Clause.isSome_firstFailure?_iff, ← Option.isSome_map (f := fun diagnostic : Diagnostic => diagnostic.cause)]
  rw [outcome, Clause.failure_applyAll, Option.isSome_map]

theorem built?_eq_none_iff_of_opening {declaration : Declaration} {opening : Opening}
    (opens : declaration.opening = .ok opening) :
    declaration.built? = none ↔ ∃ clause ∈ opening.clauses, clause.HasFailed := by
  obtain ⟨root, made, _⟩ := exists_root_of_opening opens
  rw [← isSome_failure_outcome_iff]
  unfold built?
  cases failure : (outcome opening).failure <;> simp [opens, made, failure]

/-- A declaration fails by itself exactly if its name is blank or it holds a malformed call. -/
theorem built?_eq_none_iff (declaration : Declaration) :
    declaration.built? = none ↔ Text.isBlankText declaration.name = true ∨ declaration.HasMalformedCall := by
  cases blank : Text.isBlankText declaration.name with
  | true =>
      have fails : declaration.built? = none := by simp [built?, opening, blank]
      simp [fails]
  | false =>
      have opens : declaration.opening = declaration.begin := by simp [opening, blank]
      simp only [Bool.false_eq_true, false_or]
      cases declaration with
      | userType given arguments =>
          rcases Arguments.read_cases "ty" arguments with ⟨isShape, signature, isRead⟩ | ⟨noShape, notRead⟩
          · rw [built?_eq_none_iff_of_opening (by rw [opens, begin, isRead])]
            simp [HasMalformedCall, isShape]
          · have fails : (Declaration.userType given arguments).built? = none := by
              simp [built?, opens, begin, notRead]
            simp [fails, HasMalformedCall, noShape]
      | _ => exact built?_eq_none_iff_of_opening opens

end Declaration

/-! ## One declaration -/

namespace Clause

/-- A reporter has recorded nothing but misplaced calls since. -/
def RecordsMisplaced (before after : Reporter) : Prop :=
  ∃ misplaced, after.diagnostics = before.diagnostics ++ misplaced ∧ AreMisplaced misplaced

theorem recordsMisplaced_applyAll (clauses : List Clause) (node : Node) (reporter : Reporter) :
    RecordsMisplaced reporter (applyAll clauses node reporter).reporter :=
  (records_applyAll clauses node reporter).imp fun _ facts => ⟨facts.1, facts.2.1⟩

end Clause

namespace Design

/-- What a declaration does between declarations. If it fails by itself, it fails and leaves the registry; otherwise it
records misplaced calls and registers its root, or reports under its own frame what speaks against it. -/
theorem declare_cases (declaration : Declaration) {design : Design} (outside : design.reporter.frames = []) :
    (declaration.built? = none ∧ ∃ diagnostic diagnostics,
        design.declare declaration = (⟨design.registry, ⟨[], diagnostics⟩⟩, some diagnostic)) ∨
      ∃ root misplaced, declaration.built? = some root ∧ Clause.AreMisplaced misplaced ∧
        design.declare declaration =
          match design.registry.register root with
          | .ok registry => (⟨registry, ⟨[], design.reporter.diagnostics ++ misplaced⟩⟩, none)
          | .error cause =>
              (⟨design.registry,
                ⟨[], design.reporter.diagnostics ++ misplaced ++ [.located [declaration.frame] cause]⟩⟩, none) := by
  cases opens : declaration.opening with
  | error diagnostic =>
      refine .inl ⟨by simp [Declaration.built?, opens], diagnostic, design.reporter.diagnostics, ?_⟩
      obtain ⟨registry, ⟨frames, diagnostics⟩⟩ := design
      simp only at outside
      simp [declare, opens, outside]
  | ok opening =>
      obtain ⟨root, made, _⟩ := Declaration.exists_root_of_opening opens
      obtain ⟨misplaced, recorded, areMisplaced⟩ :=
        Clause.recordsMisplaced_applyAll opening.clauses opening.node { frames := [opening.frame] }
      have recorded : (Declaration.outcome opening).reporter.diagnostics = misplaced := recorded
      have equation := declare_eq opens outside
      cases failure : (Declaration.outcome opening).failure with
      | some diagnostic =>
          refine .inl ⟨by simp [Declaration.built?, opens, failure], diagnostic,
            design.reporter.diagnostics ++ (Declaration.outcome opening).reporter.diagnostics, ?_⟩
          rw [equation, failure]
      | none =>
          refine .inr ⟨root, misplaced, by simp [Declaration.built?, opens, failure, made], areMisplaced, ?_⟩
          rw [equation, failure]
          simp only [register_eq made, recorded, Declaration.frame_of_opening opens]
          cases design.registry.register root <;> rfl

end Design

/-! ## What a registry holds -/

namespace Root

def api? : Root → Option Api
  | .api declared => some declared
  | _ => none

def service? : Root → Option Service
  | .service declared => some declared
  | _ => none

def userType? : Root → Option UserType
  | .userType declared => some declared
  | _ => none

def resultType? : Root → Option ResultType
  | .resultType declared => some declared
  | _ => none

end Root

theorem RootKind.key_eq_iff {kind other : RootKind} {name otherName : String} :
    kind.key name = other.key otherName ↔ kind = other ∧ (kind = .api ∨ name = otherName) := by
  cases kind <;> cases other <;> simp [RootKind.key]

/-- The declarations of a registry are some roots, those of each kind in their order. -/
structure Registry.Holds (registry : Registry) (roots : List Root) : Prop where
  api : registry.api.toList = roots.filterMap Root.api?
  services : registry.services = roots.filterMap Root.service?
  userTypes : registry.userTypes = roots.filterMap Root.userType?
  resultTypes : registry.resultTypes = roots.filterMap Root.resultType?

namespace Registry

variable {registry : Registry} {roots : List Root}

theorem holds_initial : initial.Holds [Root.errorResult] := ⟨rfl, rfl, rfl, rfl⟩

theorem Holds.mem_names_iff (holds : registry.Holds roots) {kind : RootKind} {name : String} :
    name ∈ registry.names kind ↔ ∃ root ∈ roots, root.kind = kind ∧ root.name = name := by
  have collected : registry.names kind = (roots.filter fun root => root.kind = kind).map Root.name := by
    cases kind <;>
      simp only [names, holds.api, holds.services, holds.userTypes, holds.resultTypes, List.map_filterMap,
        ← List.filterMap_eq_map, List.filterMap_filter] <;>
      refine List.filterMap_congr fun root _ => ?_ <;>
      cases root <;> rfl
  rw [collected]
  simp [and_assoc]

theorem Holds.api_eq_of_mem (holds : registry.Holds roots) {declared : Api} (member : .api declared ∈ roots) :
    registry.api = some declared := by
  have held : declared ∈ registry.api.toList := by
    rw [holds.api]
    exact List.mem_filterMap.mpr ⟨_, member, rfl⟩
  exact Option.mem_toList.mp held

theorem Holds.api_mem (holds : registry.Holds roots) {declared : Api} (present : registry.api = some declared) :
    .api declared ∈ roots := by
  have member : declared ∈ roots.filterMap Root.api? := by simp [← holds.api, present]
  obtain ⟨root, inRoots, isApi⟩ := List.mem_filterMap.mp member
  cases root <;> simp only [Root.api?, reduceCtorEq, Option.some.injEq] at isApi
  rwa [← isApi]

/-- Nothing speaks against a root whose key is new, and against another only that its key is taken. -/
theorem Holds.objection?_cases (holds : registry.Holds roots) (declaring : registry.phase = .declaring)
    (indexed : registry.IsIndexed) (root : Root) :
    (root.key ∉ roots.map Root.key ∧ registry.objection? root = none) ∨
      ∃ held ∈ roots, held.key = root.key ∧
        registry.objection? root = some (.duplicateName root.kind.keyword held.name) := by
  have admitted : ∀ kind, registry.phase.admits kind = true := by simp [declaring, Phase.admits]
  by_cases taken : root.key ∈ roots.map Root.key
  · obtain ⟨held, member, same⟩ := List.mem_map.mp taken
    refine .inr ⟨held, member, same, ?_⟩
    obtain ⟨sameKind, apiOrSame⟩ := RootKind.key_eq_iff.mp same
    cases root with
    | api declared =>
        cases held <;> simp only [Root.kind, reduceCtorEq] at sameKind
        simp [objection?, admitted, holds.api_eq_of_mem member, Root.kind, Root.name]
    | _ =>
        have sameName : held.name = Root.name _ := apiOrSame.resolve_left (by rw [sameKind]; simp [Root.kind])
        have contained : registry.contains _ _ = true :=
          indexed.contains_iff.mpr (holds.mem_names_iff.mpr ⟨held, member, sameKind, sameName⟩)
        simp [objection?, admitted, contained, sameName]
  · refine .inl ⟨taken, objection?_eq_none_iff.mpr ⟨admitted _, fun isApi => ?_, ?_⟩⟩
    · by_contra present
      obtain ⟨declared, isDeclared⟩ := Option.ne_none_iff_exists'.mp present
      refine taken (List.mem_map.mpr ⟨.api declared, holds.api_mem isDeclared, ?_⟩)
      exact RootKind.key_eq_iff.mpr ⟨isApi.symm, .inl rfl⟩
    · rw [← Bool.not_eq_true, indexed.contains_iff, holds.mem_names_iff]
      rintro ⟨held, member, sameKind, sameName⟩
      exact taken (List.mem_map.mpr ⟨held, member, RootKind.key_eq_iff.mpr ⟨sameKind, .inr sameName⟩⟩)

theorem Holds.append (holds : registry.Holds roots) {root : Root} (free : registry.objection? root = none) :
    (registry.append root).Holds (roots ++ [root]) := by
  obtain ⟨_, vacant, _⟩ := objection?_eq_none_iff.mp free
  cases root with
  | api declared =>
      have noApi : roots.filterMap Root.api? = [] := by rw [← holds.api, vacant rfl]; rfl
      constructor <;> simp [Registry.append, Root.api?, Root.service?, Root.userType?, Root.resultType?, noApi,
        holds.services, holds.userTypes, holds.resultTypes]
  | _ =>
      constructor <;> simp [Registry.append, Root.api?, Root.service?, Root.userType?, Root.resultType?, holds.api,
        holds.services, holds.userTypes, holds.resultTypes]

end Registry

/-! ## First declarations -/

namespace Declaration

/-- No earlier declaration of the key built a root; the key of the built-in error type is taken from the start. -/
def IsFirst (earlier : List Declaration) (declaration : Declaration) : Prop :=
  declaration.key ≠ Root.errorResult.key ∧ ∀ other ∈ earlier, other.built?.isSome → other.key ≠ declaration.key

instance (earlier : List Declaration) (declaration : Declaration) : Decidable (declaration.IsFirst earlier) :=
  inferInstanceAs (Decidable (_ ∧ _))

/-- The roots of those declarations that are the first of their key, given the declarations before them. -/
def firstRoots (earlier : List Declaration) : List Declaration → List Root
  | [] => []
  | declaration :: rest =>
      (if declaration.IsFirst earlier then declaration.built?.toList else []) ++
        firstRoots (earlier ++ [declaration]) rest

theorem firstRoots_concat (earlier declarations : List Declaration) (last : Declaration) :
    firstRoots earlier (declarations ++ [last]) =
      firstRoots earlier declarations ++
        if last.IsFirst (earlier ++ declarations) then last.built?.toList else [] := by
  induction declarations generalizing earlier with
  | nil => simp [firstRoots]
  | cons declaration rest inductionHypothesis => simp [firstRoots, inductionHypothesis]

theorem keys_firstRoots_concat (earlier : List Declaration) (last : Declaration) :
    (firstRoots [] (earlier ++ [last])).map Root.key =
      (firstRoots [] earlier).map Root.key ++
        if last.IsFirst earlier ∧ last.built?.isSome then [last.key] else [] := by
  rw [firstRoots_concat, List.map_append, List.nil_append]
  congr 1
  cases builds : last.built? with
  | none => simp
  | some root => by_cases first : last.IsFirst earlier <;> simp [first, key_of_built? builds]

/-- A key is taken by the built-in error type, or as soon as a declaration of it has built a root. -/
theorem mem_keys_firstRoots (declarations : List Declaration) (key : DeclarationKey) :
    key ∈ (Root.errorResult :: firstRoots [] declarations).map Root.key ↔
      key = Root.errorResult.key ∨ ∃ declaration ∈ declarations, declaration.built?.isSome ∧ declaration.key = key := by
  induction declarations using List.reverseRecOn with
  | nil => simp [firstRoots]
  | append_singleton earlier last inductionHypothesis =>
      rw [List.map_cons, keys_firstRoots_concat, ← List.cons_append, ← List.map_cons, List.mem_append,
        inductionHypothesis]
      simp only [List.mem_append, List.mem_singleton, or_and_right, exists_or, exists_eq_left, or_assoc]
      by_cases adds : last.IsFirst earlier ∧ last.built?.isSome
      · rw [if_pos adds, List.mem_singleton, eq_comm (b := last.key)]
        simp only [adds.2, true_and]
      · -- A root that is not the first of its key adds no key.
        rw [if_neg adds]
        unfold IsFirst at adds
        grind

theorem isFirst_iff {earlier : List Declaration} {declaration : Declaration} :
    declaration.IsFirst earlier ↔
      declaration.key ∉ (Root.errorResult :: firstRoots [] earlier).map Root.key := by
  rw [mem_keys_firstRoots]
  simp [IsFirst]

/-- No two roots have one key, and none that of the built-in error type. -/
theorem nodup_keys_firstRoots (declarations : List Declaration) :
    ((Root.errorResult :: firstRoots [] declarations).map Root.key).Nodup := by
  induction declarations using List.reverseRecOn with
  | nil => simp [firstRoots]
  | append_singleton earlier last inductionHypothesis =>
      rw [List.map_cons, keys_firstRoots_concat, ← List.cons_append, ← List.map_cons]
      split
      next adds =>
        rw [← List.concat_eq_append]
        exact inductionHypothesis.concat (isFirst_iff.mp adds.1)
      next => rwa [List.append_nil]

/-- The result types among the first roots are those that the declarations of result types build, if no two of these
have one key. -/
theorem resultTypes_firstRoots :
    ∀ (earlier declarations : List Declaration),
      (((earlier ++ declarations).filter isResultType).map key).Nodup →
      (firstRoots earlier declarations).filterMap Root.resultType? =
        (declarations.filter isResultType).filterMap fun declaration => declaration.built?.bind Root.resultType?
  | _, [], _ => rfl
  | earlier, declaration :: rest, distinct => by
      have others := resultTypes_firstRoots (earlier ++ [declaration]) rest (by simpa using distinct)
      rw [firstRoots, List.filterMap_append, others]
      by_cases sameKind : declaration.kind = .resultType
      · have first : declaration.IsFirst earlier := by
          refine ⟨by simp [key, sameKind, Root.key, Root.errorResult, Root.kind, RootKind.key], ?_⟩
          intro other member _ sameKey
          have otherKind : other.kind = .resultType := (RootKind.key_eq_iff.mp sameKey).1.trans sameKind
          rw [List.filter_append, List.filter_cons_of_pos (by simp [isResultType, sameKind]), List.map_append,
            List.map_cons, List.nodup_append] at distinct
          refine distinct.2.2 _ (List.mem_map_of_mem (List.mem_filter.mpr ⟨member, ?_⟩)) _ List.mem_cons_self sameKey
          simp [isResultType, otherKind]
        rw [if_pos first, List.filter_cons_of_pos (by simp [isResultType, sameKind]), List.filterMap_cons]
        cases declaration.built? with
        | none => rfl
        | some root => cases root <;> rfl
      · rw [List.filter_cons_of_neg (by simpa [isResultType] using sameKind)]
        have none : (if declaration.IsFirst earlier then declaration.built?.toList else []).filterMap Root.resultType? =
            [] := by
          split
          · cases builds : declaration.built? with
            | none => rfl
            | some root =>
                have rootKind := (kindAndName_of_built? builds).1
                cases root with
                | resultType declared => exact absurd rootKind.symm sameKind
                | _ => rfl
          · rfl
        rw [none, List.nil_append]

end Declaration

/-! ## Any declarations -/

namespace Declaration

theorem isDeclared_of_built? {declaration : Declaration} {root : Root} (builds : declaration.built? = some root) :
    root.IsDeclared := by
  unfold built? at builds
  cases opens : declaration.opening with
  | error diagnostic => simp [opens] at builds
  | ok opening =>
      simp only [opens] at builds
      split at builds
      · obtain ⟨made, isMade, declared⟩ := exists_root_of_becomes opens
          (Clause.becomes_applyAll opening.clauses opening.node { frames := [opening.frame] })
        rw [outcome, isMade] at builds
        cases builds
        exact declared
      · cases builds

end Declaration

namespace Design

/-- Makes every declaration in order, whatever fails. -/
def declareEach (declarations : List Declaration) (design : Design) : Design :=
  declarations.foldl (fun design declaration => (design.declare declaration).1) design

/-- A design holds the built-in error type and the first roots of some declarations, and stands outside all frames. -/
structure HasDeclared (design : Design) (declarations : List Declaration) : Prop where
  outside : design.reporter.frames = []
  declared : design.registry.IsDeclared
  holds : design.registry.Holds (Root.errorResult :: Declaration.firstRoots [] declarations)

theorem hasDeclared_empty : empty.HasDeclared [] :=
  ⟨rfl, Registry.isDeclared_initial, Registry.holds_initial⟩

/-- A declaration fails, is the first of its key and registered, or finds its key taken. -/
theorem HasDeclared.declare_cases {design : Design} {earlier : List Declaration}
    (hasDeclared : design.HasDeclared earlier) (declaration : Declaration) :
    (declaration.built? = none ∧ ∃ diagnostic diagnostics,
        design.declare declaration = (⟨design.registry, ⟨[], diagnostics⟩⟩, some diagnostic)) ∨
      (∃ root diagnostics, declaration.built? = some root ∧ declaration.IsFirst earlier ∧
        design.registry.objection? root = none ∧
          design.declare declaration = (⟨design.registry.append root, ⟨[], diagnostics⟩⟩, none)) ∨
      declaration.built?.isSome ∧ ¬ declaration.IsFirst earlier ∧
        ∃ held ∈ Root.errorResult :: Declaration.firstRoots [] earlier, held.key = declaration.key ∧
          ∃ misplaced, Clause.AreMisplaced misplaced ∧
            design.declare declaration =
              (⟨design.registry, ⟨[], design.reporter.diagnostics ++ misplaced ++
                [.located [declaration.frame] (.duplicateName declaration.kind.keyword held.name)]⟩⟩, none) := by
  obtain ⟨outside, declared, holds⟩ := hasDeclared
  rcases Design.declare_cases declaration outside with fails | ⟨root, misplaced, builds, areMisplaced, equation⟩
  · exact .inl fails
  · have sameKey := Declaration.key_of_built? builds
    rw [Declaration.isFirst_iff, ← sameKey, builds]
    rcases holds.objection?_cases declared.phase declared.indexed root with ⟨new, free⟩ | ⟨held, member, same, taken⟩
    · rw [Registry.register, free] at equation
      exact .inr (.inl ⟨root, _, rfl, new, free, equation⟩)
    · rw [Registry.register, taken, (Declaration.kindAndName_of_built? builds).1] at equation
      have notNew : root.key ∈ (Root.errorResult :: Declaration.firstRoots [] earlier).map Root.key :=
        List.mem_map.mpr ⟨held, member, same⟩
      exact .inr (.inr ⟨rfl, not_not.mpr notNew, held, member, same, misplaced, areMisplaced, equation⟩)

/-- One more declaration leaves a design that holds the first roots of one more declaration. -/
theorem HasDeclared.declare {design : Design} {earlier : List Declaration} (hasDeclared : design.HasDeclared earlier)
    (declaration : Declaration) : (design.declare declaration).1.HasDeclared (earlier ++ [declaration]) := by
  rcases hasDeclared.declare_cases declaration with ⟨fails, _, _, equation⟩ |
    ⟨root, _, builds, first, free, equation⟩ | ⟨_, notFirst, _, _, _, _, _, equation⟩
  · rw [equation]
    refine ⟨rfl, hasDeclared.declared, ?_⟩
    simpa [Declaration.firstRoots_concat, fails] using hasDeclared.holds
  · have registers : design.registry.register root = .ok (design.registry.append root) := by
      rw [Registry.register, free]
    rw [equation]
    refine ⟨rfl, hasDeclared.declared.register (Declaration.isDeclared_of_built? builds) registers, ?_⟩
    simpa [Declaration.firstRoots_concat, builds, first] using hasDeclared.holds.append free
  · rw [equation]
    refine ⟨rfl, hasDeclared.declared, ?_⟩
    simpa [Declaration.firstRoots_concat, notFirst] using hasDeclared.holds

theorem hasDeclared_declareEach (declarations : List Declaration) :
    (empty.declareEach declarations).HasDeclared declarations := by
  induction declarations using List.reverseRecOn with
  | nil => exact hasDeclared_empty
  | append_singleton earlier last inductionHypothesis =>
      rw [declareEach, List.foldl_concat]
      exact inductionHypothesis.declare last

theorem isDeclared_declareEach (declarations : List Declaration) :
    (empty.declareEach declarations).registry.IsDeclared :=
  (hasDeclared_declareEach declarations).declared

/-- After any declarations, a design holds the built-in error type and, in order, what the first declaration of each
key that did not fail builds by itself. Another declaration fails exactly if its name is blank or it holds a malformed
call, which leaves the registry; if it does not fail but its key is taken, that leaves the registry too and is reported
once, under the frame of the declaration. -/
theorem declareEach_registers_firsts (declarations : List Declaration) (next : Declaration) :
    let design := empty.declareEach declarations
    let made := Root.errorResult :: Declaration.firstRoots [] declarations
    design.registry.Holds made ∧
      (made.map Root.key).Nodup ∧
      (∀ key, key ∈ made.map Root.key ↔
        key = Root.errorResult.key ∨
          ∃ declaration ∈ declarations, declaration.built?.isSome ∧ declaration.key = key) ∧
      (∀ root, next.built? = some root → root.kind = next.kind ∧ root.name = next.registeredName) ∧
      ((design.declare next).2.isSome ↔ next.built? = none) ∧
      (next.built? = none ↔ Text.isBlankText next.name = true ∨ next.HasMalformedCall) ∧
      ((design.declare next).2.isSome → (design.declare next).1.registry = design.registry) ∧
      ((design.declare next).2 = none → next.key ∈ made.map Root.key →
        (design.declare next).1.registry = design.registry ∧
          ∃ held ∈ made, held.key = next.key ∧ ∃ misplaced, Clause.AreMisplaced misplaced ∧
            (design.declare next).1.reporter.diagnostics =
              design.reporter.diagnostics ++ misplaced ++
                [.located [next.frame] (.duplicateName next.kind.keyword held.name)]) := by
  intro design made
  have hasDeclared := hasDeclared_declareEach declarations
  refine ⟨hasDeclared.holds, Declaration.nodup_keys_firstRoots declarations,
    Declaration.mem_keys_firstRoots declarations, fun root builds => Declaration.kindAndName_of_built? builds, ?_,
    Declaration.built?_eq_none_iff next, ?_⟩
  · rcases hasDeclared.declare_cases next with ⟨fails, _, _, equation⟩ | ⟨root, _, builds, _, _, equation⟩ |
      ⟨builds, _, _, _, _, _, _, equation⟩
    · simp [design, equation, fails]
    · simp [design, equation, builds]
    · simp [design, equation, Option.isSome_iff_ne_none.mp builds]
  · rcases hasDeclared.declare_cases next with ⟨_, _, _, equation⟩ | ⟨_, _, _, first, _, equation⟩ |
      ⟨_, _, held, member, same, misplaced, areMisplaced, equation⟩
    · simp [design, equation]
    · exact ⟨by simp [design, equation], fun _ taken => absurd taken (Declaration.isFirst_iff.mp first)⟩
    · refine ⟨by simp [design, equation], fun _ _ => ?_⟩
      rw [show design.declare next = _ from equation]
      exact ⟨rfl, held, member, same, misplaced, areMisplaced, rfl⟩

end Design

end ApiDesign
