import ApiDesign.Proofs.Design.Unrelated
import ApiDesign.Proofs.Evaluation.Outcome
import ApiDesign.Proofs.Evaluation.ShapeFree
import ApiDesign.Proofs.Evaluation.Trails
import ApiDesign.Proofs.Registry.Elements

/-!
Contract: a user type to which nothing refers neither hides nor causes what is found elsewhere.

Evaluated with and without the declarations of a user type, a design has the same registry but for that type. Nothing
else refers to its name, so all other shapes mean the same and all other references resolve alike, though places may
have shifted; derivation of views looks at neither. What is found in the type itself stands under its frame.

Owns: `Registry.referenceNames`, evaluation with and without a user type.
Does not own: the two designs (`Proofs.Design.Unrelated`), the two prepared registries (`Proofs.Registry.Gains`).
-/

namespace ApiDesign

namespace Registry

/-- The names by which types are referred to: those of the references in all attributes, shortcuts included, and those
of the elements of collections. -/
def referenceNames (registry : Registry) : List String :=
  registry.nodes.filterMap (fun node => node.type.reference?.map (·.name)) ++
    registry.resultTypes.filterMap fun resultType => resultType.collection.map (·.element.name)

/-! ## Shapes without references to a name -/

section Unreferenced

variable {name : String} {registry : Registry} (unreferenced : name ∉ registry.referenceNames)

include unreferenced

theorem refersWithin_of_unreferenced {shape : Attribute} (member : shape ∈ registry.shapes) :
    shape.type.RefersWithin (· ≠ name) :=
  Attribute.refersWithin_iff.mpr fun node inShape reference isReference same =>
    unreferenced (List.mem_append_left _ (List.mem_filterMap.mpr
      ⟨node, List.mem_flatMap.mpr ⟨shape, member, inShape⟩, by rw [isReference, ← same]; rfl⟩))

theorem rootRefersWithin_of_unreferenced {root : Root} (member : root ∈ registry.roots) :
    root.RefersWithin (· ≠ name) :=
  fun _ inRoot =>
    refersWithin_of_unreferenced unreferenced (registry.holds_roots.mem_shapes_iff.mpr ⟨root, member, inRoot⟩)

theorem element_ne_of_unreferenced {resultType : ResultType} (member : resultType ∈ registry.resultTypes) :
    ∀ facts ∈ resultType.collection, facts.element.name ≠ name :=
  fun facts collects same => unreferenced (List.mem_append_right _ (List.mem_filterMap.mpr
    ⟨resultType, member, by rw [collects, ← same]; rfl⟩))

end Unreferenced

theorem mem_roots_resultType {registry : Registry} {resultType : ResultType} :
    .resultType resultType ∈ registry.roots ↔ resultType ∈ registry.resultTypes := by
  simp [roots]

/-- The shape of a name is a shape of the registry. -/
theorem IsIndexed.mem_shapes_of_shapeOf? {registry : Registry} (indexed : registry.IsIndexed) {name : String}
    {shape : Attribute} (found : registry.shapeOf? name = some shape) : shape ∈ registry.shapes := by
  rw [indexed.shapeOf?_eq] at found
  rcases Option.or_eq_some_iff.mp found with isUser | ⟨_, isResult⟩
  · obtain ⟨userType, here, rfl⟩ := Option.map_eq_some_iff.mp isUser
    exact mem_shapes_of_userType (List.mem_of_find?_eq_some here)
  · obtain ⟨resultType, here, rfl⟩ := Option.map_eq_some_iff.mp isResult
    exact mem_shapes_of_resultType (mem_resultTypes_of_resultType? here)

namespace Gains

variable {name : String} {smaller larger : Registry}

/-! ## Agreement -/

theorem vocabulary_agreeOn (gains : Gains name smaller larger) (unreferenced : name ∉ smaller.referenceNames) :
    smaller.vocabulary.AgreeOn (· ≠ name) larger.vocabulary where
  shapeOf := fun _ isOther => (gains.shapeOf?_eq isOther).symm
  closed := fun _ _ _ found =>
    refersWithin_of_unreferenced unreferenced (gains.indexed.mem_shapes_of_shapeOf? found)

theorem typeIndex_agreeOn (gains : Gains name smaller larger) :
    TypeIndex.AgreeOn (· ≠ name) smaller.typeIndex larger.typeIndex where
  resolved := by
    intro other isOther
    rw [gains.indexed.find?_typeIndex, gains.otherIndexed.find?_typeIndex]
    rcases gains.denoted?_cases isOther with same | ⟨place, otherPlace, inSmaller, inLarger⟩
    · rw [same]
    · simp [inSmaller, inLarger]
  result := by
    intro other isOther position
    rw [gains.indexed.find?_typeIndex, gains.otherIndexed.find?_typeIndex]
    rcases gains.denoted?_cases isOther with same | ⟨place, otherPlace, inSmaller, inLarger⟩
    · rw [same]
    · simp [inSmaller, inLarger]

/-- Chains of elements are the same in both. -/
theorem innermostWithin?_eq (gains : Gains name smaller larger) (bound : Nat) (resultType : ResultType) :
    larger.innermostWithin? bound resultType = smaller.innermostWithin? bound resultType := by
  induction bound generalizing resultType with
  | zero => rfl
  | succ bound inductionHypothesis =>
      unfold innermostWithin?
      cases resultType.collection with
      | none => rfl
      | some facts =>
          simp only [gains.resultType?_eq]
          cases smaller.resultType? facts.element.name with
          | none => rfl
          | some element => exact inductionHypothesis element

/-! ## What is found outside the type -/

/-- Without the user type, the larger registry has the roots of the smaller one. -/
theorem filter_roots (gains : Gains name smaller larger) :
    (larger.roots.filter fun root => root.key ≠ .userType name) = smaller.roots := by
  have ofUserTypes : (fun root : Root => decide (root.key ≠ .userType name)) ∘ Root.userType = (·.name != name) := by
    funext userType
    rw [Bool.eq_iff_iff]
    simp [Root.key, Root.kind, RootKind.key, Root.name]
  simp only [roots, List.filter_append, List.filter_map, ofUserTypes, gains.api, gains.services, gains.userTypes,
    gains.resultTypes]
  simp [Function.comp_def, Root.key, Root.kind, RootKind.key]

/-- What is found root by root, each under its frame, is found alike outside the type. -/
theorem filter_flatMap_roots (gains : Gains name smaller larger) {find other : Root → List Diagnostic}
    (within : ∀ root, AllWithin [root.frame] (find root)) (same : ∀ root ∈ smaller.roots, find root = other root) :
    (larger.roots.flatMap find).filter (·.isOutside (Kind.userType.frame name)) = smaller.roots.flatMap other := by
  have sorted : ∀ found : List Root, (found.flatMap find).filter (·.isOutside (Kind.userType.frame name)) =
      (found.filter fun root => root.key ≠ .userType name).flatMap find := by
    intro found
    induction found with
    | nil => rfl
    | cons root rest inductionHypothesis =>
        rw [List.flatMap_cons, List.filter_append, inductionHypothesis]
        by_cases isNamed : root.key = .userType name
        · have here := within root
          rw [Root.frame_eq_iff.mpr isNamed] at here
          rw [here.filter_isOutside_self, List.nil_append, List.filter_cons_of_neg (by simpa using isNamed)]
        · rw [(within root).filter_isOutside fun sameFrame => isNamed (Root.frame_eq_iff.mp sameFrame),
            List.filter_cons_of_pos (by simpa using isNamed), List.flatMap_cons]
  rw [sorted, gains.filter_roots]
  exact List.flatMap_congr same

section Findings

variable (gains : Gains name smaller larger) (unreferenced : name ∉ smaller.referenceNames)

include gains unreferenced

/-- The same is found in a result type. -/
theorem resultTypeFindings_eq {resultType : ResultType} (member : resultType ∈ smaller.resultTypes) :
    larger.resultTypeFindings resultType = smaller.resultTypeFindings resultType := by
  have agree := gains.vocabulary_agreeOn unreferenced
  have sameShape := agree.shapeFindings_eq
    (refersWithin_of_unreferenced unreferenced (mem_shapes_of_resultType member))
    [Kind.resultType.frame resultType.identifier]
  have sameChain : larger.innermost? resultType = smaller.innermost? resultType := by
    rw [innermost?, innermost?, gains.innermostWithin?_eq, gains.resultTypes]
  have sameFields : ((smaller.innermost? resultType).bind fun element =>
        larger.vocabulary.fieldsOf? element.shape.type) =
      (smaller.innermost? resultType).bind fun element => smaller.vocabulary.fieldsOf? element.shape.type := by
    cases found : smaller.innermost? resultType with
    | none => rfl
    | some element =>
        obtain ⟨_, ends⟩ := innermost?_eq_some_iff.mp found
        exact (agree.fieldsOf?_eq
          (refersWithin_of_unreferenced unreferenced (mem_shapes_of_resultType (ends.mem member)))).symm
  unfold resultTypeFindings selectionFindings
  rw [sameChain, sameFields]
  dsimp only
  rw [sameShape]

/-- The same is found outside the type. -/
theorem findings_eq : larger.findings.filter (·.isOutside (Kind.userType.frame name)) = smaller.findings := by
  have agree := gains.vocabulary_agreeOn unreferenced
  rw [findings_eq_flatMap, findings_eq_flatMap]
  refine gains.filter_flatMap_roots larger.allWithin_rootFindings fun root member => ?_
  have within := rootRefersWithin_of_unreferenced unreferenced member
  cases root with
  | api declared => exact (agree.serverFindings_eq within _).symm
  | service declared => exact (agree.serviceFindings_eq within _).symm
  | userType declared => exact (agree.shapeFindings_eq (within _ (List.mem_singleton_self _)) _).symm
  | resultType declared => exact gains.resultTypeFindings_eq unreferenced (mem_roots_resultType.mp member)

/-- The same references outside the type are unresolved. -/
theorem unresolved_eq :
    (larger.unresolved larger.typeIndex).filter (·.isOutside (Kind.userType.frame name)) =
      smaller.unresolved smaller.typeIndex := by
  have agree := gains.typeIndex_agreeOn
  rw [unresolved_eq_flatMap, unresolved_eq_flatMap]
  refine gains.filter_flatMap_roots (Root.allWithin_unresolved larger.typeIndex) fun root member => ?_
  have within := rootRefersWithin_of_unreferenced unreferenced member
  cases root with
  | api declared => exact (agree.serversUnresolved_eq within _).symm
  | service declared => exact (agree.serviceUnresolved_eq within _).symm
  | userType declared => exact (agree.unresolved_eq (within _ (List.mem_singleton_self _)) _).symm
  | resultType declared =>
      exact (agree.resultTypeUnresolved_eq (within _ (List.mem_singleton_self _))
        (element_ne_of_unreferenced unreferenced (mem_roots_resultType.mp member))).symm

/-- The same is found about views. -/
theorem viewFindings_eq :
    (larger.link larger.typeIndex).deriveViews.2 = (smaller.link smaller.typeIndex).deriveViews.2 := by
  refine Derivation.diagnostics_run_eq ?_
  have linked : ∀ registry : Registry, (registry.link registry.typeIndex).resultTypes =
      registry.resultTypes.map (ResultType.link registry.typeIndex) := fun _ => rfl
  rw [linked, linked, gains.resultTypes, List.map_map, List.map_map]
  exact List.map_congr_left fun resultType member =>
    (gains.typeIndex_agreeOn.withoutShape_link (element_ne_of_unreferenced unreferenced member)).symm

end Findings

end Gains

/-! ## Evaluation -/

variable {name : String} {smaller larger : Registry} {settings : Settings}

/-- What stands in a result type stands outside a user type. -/
theorem isOutside_of_isInResultType {resultTypes : List ResultType} {diagnostic : Diagnostic}
    (inResultType : IsInResultType resultTypes diagnostic) :
    diagnostic.isOutside (Kind.userType.frame name) = true := by
  obtain ⟨resultType, _, within⟩ := inResultType
  simp [Diagnostic.isOutside, within.root?_eq, Kind.frame_inj]

/-- Evaluation finds the same outside the type. -/
theorem Gains.evaluate_eq (gains : Gains name smaller larger) (declared : smaller.IsDeclared)
    (otherDeclared : larger.IsDeclared) (noShortcut : larger.HasNoShortcutIn name)
    (unreferenced : name ∉ (smaller.prepare settings).1.referenceNames) :
    (larger.evaluate settings).diagnostics.filter (·.isOutside (Kind.userType.frame name)) =
      (smaller.evaluate settings).diagnostics := by
  rw [declared.prepare_eq] at unreferenced
  have prepared := gains.prepared settings declared otherDeclared noShortcut
  -- Naming and derivation look at result types only, and report in these only.
  have naming : (Naming.run settings.collectionSuffix larger.resultTypes).diagnostics.filter
      (·.isOutside (Kind.userType.frame name)) =
        (Naming.run settings.collectionSuffix smaller.resultTypes).diagnostics := by
    rw [gains.resultTypes]
    exact List.filter_eq_self.mpr fun diagnostic member => isOutside_of_isInResultType
      ((Naming.reaches_run _ _).isInResultType rfl diagnostic member)
  have views : ((larger.prepared settings).link (larger.prepared settings).typeIndex).deriveViews.2.filter
      (·.isOutside (Kind.userType.frame name)) =
        ((smaller.prepared settings).link (smaller.prepared settings).typeIndex).deriveViews.2 := by
    rw [prepared.viewFindings_eq unreferenced]
    exact List.filter_eq_self.mpr fun diagnostic member => isOutside_of_isInResultType
      ((Derivation.reaches_run _).isInResultType rfl diagnostic member)
  rw [evaluate_eq_findings, evaluate_eq_findings, evaluationFindings, evaluationFindings, declared.prepare_eq,
    otherDeclared.prepare_eq]
  simp only [findingsAt_nil, unresolvedAt_nil, List.filter_append, naming, prepared.findings_eq unreferenced,
    prepared.unresolved_eq unreferenced, views]

end Registry

/-! ## Declarations -/

section Inserted

variable {name : String} {arguments : List Argument} {before after : List Declaration} {settings : Settings}
  (built : ∀ declaration ∈ before ++ .userType name arguments :: after, declaration.built?.isSome)
  (undeclared : ∀ declaration ∈ before ++ after, declaration.key ≠ .userType name)
  (notBuiltIn : name ≠ errorResultName)

include built undeclared notBuiltIn

/-- The design with a user type inserted is the one without it, but for that type and its frame. -/
theorem Design.gains_insert :
    Gains name (empty.declareEach (before ++ after))
      (empty.declareEach (before ++ .userType name arguments :: after)) := by
  have others : (before ++ .userType name arguments :: after).filter (·.key ≠ .userType name) = before ++ after := by
    have isNamed : (Declaration.userType name arguments).key = .userType name := rfl
    have kept := List.filter_eq_self.mpr fun declaration member => decide_eq_true (undeclared declaration member)
    rw [List.filter_append] at kept
    rw [List.filter_append, List.filter_cons_of_neg (by simp [isNamed]), kept]
  rw [← others]
  exact (Gains.empty notBuiltIn).declareEach built

/-- A user type of that name is the inserted one. -/
theorem built?_eq_of_mem_userTypes {userType : UserType}
    (member : userType ∈ (declaredRegistry (before ++ .userType name arguments :: after)).userTypes)
    (isNamed : userType.name = name) :
    (Declaration.userType name arguments).built? = some (.userType userType) := by
  rw [(holds_declaredRegistry built).userTypes] at member
  obtain ⟨root, inRoots, isUserType⟩ := List.mem_filterMap.mp member
  cases root <;> cases isUserType
  rcases List.mem_cons.mp inRoots with isBuiltIn | isFirst
  · cases isBuiltIn
    exact absurd isNamed.symm notBuiltIn
  · obtain ⟨declaration, inAll, builds⟩ := Declaration.exists_of_mem_firstRoots isFirst
    have isKey : declaration.key = .userType name := by
      rw [← Declaration.key_of_built? builds, ← isNamed]
      rfl
    rcases List.mem_cons.mp (List.perm_middle.mem_iff.mp inAll) with rfl | isOther
    · exact builds
    · exact absurd isKey (undeclared declaration isOther)

/-- A user type that is inserted among declarations, mentions no collection and is referred to by nothing else leaves
all diagnostics outside its frame as they are. So there is a model exactly if there is one without it and nothing is
reported under its frame. -/
theorem evaluationDiagnostics_insert (noCollection : (Declaration.userType name arguments).MentionsNoCollection)
    (unreferenced : name ∉ ((declaredRegistry (before ++ after)).prepare settings).1.referenceNames) :
    (declarationDiagnostics (before ++ .userType name arguments :: after)).filter
        (·.isOutside (Kind.userType.frame name)) = declarationDiagnostics (before ++ after) ∧
      (evaluationDiagnostics settings (before ++ .userType name arguments :: after)).filter
        (·.isOutside (Kind.userType.frame name)) = evaluationDiagnostics settings (before ++ after) ∧
      ((∃ model, evaluate settings (before ++ .userType name arguments :: after) = .ok model) ↔
        (∃ model, evaluate settings (before ++ after) = .ok model) ∧
          ∀ diagnostic ∈ declarationDiagnostics (before ++ .userType name arguments :: after) ++
              evaluationDiagnostics settings (before ++ .userType name arguments :: after),
            diagnostic.isOutside (Kind.userType.frame name)) := by
  have othersBuilt : ∀ declaration ∈ before ++ after, declaration.built?.isSome := fun declaration member =>
    built declaration (List.perm_middle.mem_iff.mpr (List.mem_cons_of_mem _ member))
  have gains := Design.gains_insert built undeclared notBuiltIn
  have noShortcut : (declaredRegistry (before ++ .userType name arguments :: after)).HasNoShortcutIn name := by
    intro userType member isNamed node inShape
    have builds := built?_eq_of_mem_userTypes built undeclared notBuiltIn member isNamed
    exact (noCollection _ builds).2 node (List.mem_flatMap.mpr ⟨_, List.mem_singleton_self _, inShape⟩)
  have ofDeclarations : (declarationDiagnostics (before ++ .userType name arguments :: after)).filter
      (·.isOutside (Kind.userType.frame name)) = declarationDiagnostics (before ++ after) := by
    rw [declarationDiagnostics, declarationDiagnostics, declareAll_of_built built, declareAll_of_built othersBuilt]
    exact gains.diagnostics
  have ofEvaluation : (evaluationDiagnostics settings (before ++ .userType name arguments :: after)).filter
      (·.isOutside (Kind.userType.frame name)) = evaluationDiagnostics settings (before ++ after) := by
    have registries := gains.registry
    rw [← declaredRegistry_of_built built, ← declaredRegistry_of_built othersBuilt] at registries
    exact registries.evaluate_eq (isDeclared_declaredRegistry othersBuilt) (isDeclared_declaredRegistry built)
      noShortcut unreferenced
  refine ⟨ofDeclarations, ofEvaluation, ?_⟩
  rw [exists_evaluate_eq_ok_iff built, exists_evaluate_eq_ok_iff othersBuilt, ← ofDeclarations, ← ofEvaluation,
    ← List.filter_append, List.filter_eq_nil_iff]
  constructor
  · intro nothing
    simp [nothing]
  · rintro ⟨noneOutside, allOutside⟩
    exact List.eq_nil_iff_forall_not_mem.mpr fun diagnostic member =>
      noneOutside diagnostic member (allOutside diagnostic member)

end Inserted

/-- The type in the middle comes first by name and refers to one of the others and to something unknown. It shifts all
places and has a finding of its own; the others are found as they are without it. -/
theorem evaluationDiagnostics_insert_ark :
    (evaluationDiagnostics {}
          [.userType "Bin" [.type (.reference "Lid")],
            .userType "Ark" [.type (.map ⟨.reference "Bin", {}⟩ ⟨.reference "Plank", {}⟩)],
            .collectionOf "Crate" []]).filter (·.isOutside (Kind.userType.frame "Ark")) =
        evaluationDiagnostics {} [.userType "Bin" [.type (.reference "Lid")], .collectionOf "Crate" []] ∧
      evaluationDiagnostics {} [.userType "Bin" [.type (.reference "Lid")], .collectionOf "Crate" []] =
        [.located ["type \"Bin\""] (.unresolvedReference "Lid"),
          .located ["result type \"Crate; type=collection\""] (.unresolvedReference "Crate")] := by
  have inserted := @evaluationDiagnostics_insert "Ark" [.type (.map ⟨.reference "Bin", {}⟩ ⟨.reference "Plank", {}⟩)]
    [.userType "Bin" [.type (.reference "Lid")]] [.collectionOf "Crate" []] {} (by decide +kernel) (by decide +kernel)
    (by decide +kernel) (by decide +kernel) (by decide +kernel)
  exact ⟨inserted.2.1, by decide +kernel⟩

end ApiDesign
