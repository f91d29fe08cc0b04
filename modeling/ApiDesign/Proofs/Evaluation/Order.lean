import ApiDesign.Proofs.Evaluation.Settled
import ApiDesign.Proofs.Evaluation.Shortcuts

/-!
Contract: evaluation of the same declarations in two orders.

Declarations in another order make a rearranged registry. Up to the sealed registry, order matters where a name is
looked up among result types that have not been sorted yet: when a collection is named after its element, and when the
collection of a shortcut is generated. Where such a name leads to one result type at most, both orders stay rearranged
at every stage, and sealing makes them equal.

Owns: `Registry.AsksUnambiguously`, one step and a whole run of generation in two orders, evaluation in two orders.
Does not own: naming in two orders (`Proofs.Evaluation.Settled`).
-/

namespace ApiDesign

namespace Registry

/-! ## Names of elements -/

/-- The names by which elements are asked for: those that collections give, and those of shortcuts. -/
def elementNames (registry : Registry) : List String :=
  registry.resultTypes.filterMap (fun resultType => resultType.collection.map (·.element.name)) ++
    registry.shortcutNames

/-- Once collections have their names, no name by which an element is asked for is ambiguous. -/
def AsksUnambiguously (settings : Settings) (registry : Registry) : Prop :=
  ∀ name ∈ registry.elementNames, IsUnambiguous name (registry.named settings).resultTypes

instance (settings : Settings) (registry : Registry) : Decidable (registry.AsksUnambiguously settings) := by
  unfold AsksUnambiguously
  infer_instance

variable {settings : Settings} {registry left right : Registry}

theorem IsDeclared.hasGivenIdentifiers (declared : registry.IsDeclared) :
    Naming.HasGivenIdentifiers registry.resultTypes := by
  intro collection member facts collects _
  cases declared.resultTypes collection member with
  | plain _ _ _ notCollection =>
      rw [notCollection] at collects
      cases collects
  | collection element identifier _ isCollection =>
      rw [isCollection] at collects
      cases collects
      exact identifier

theorem AsksUnambiguously.elementsUnambiguous (unambiguous : registry.AsksUnambiguously settings)
    (declared : registry.IsDeclared) :
    Naming.ElementsUnambiguous registry.resultTypes
      (Naming.run settings.collectionSuffix registry.resultTypes).resultTypes := by
  intro collection member facts collects _
  rw [← declared.resultTypes_named]
  refine unambiguous _ (List.mem_append_left _ (List.mem_filterMap.mpr ⟨collection, member, ?_⟩))
  rw [collects]
  rfl

theorem AsksUnambiguously.shortcuts (unambiguous : registry.AsksUnambiguously settings) (declared : registry.IsDeclared)
    {name : String} (member : name ∈ (registry.named settings).shortcutNames) :
    IsUnambiguous name (registry.named settings).resultTypes := by
  rw [declared.shortcutNames_named] at member
  exact unambiguous name (List.mem_append_right _ member)

/-! ## Naming -/

/-- Naming keeps registries rearranged. -/
theorem Rearranged.named (rearranged : left.Rearranged right) (declared : left.IsDeclared)
    (otherDeclared : right.IsDeclared) (unambiguous : left.AsksUnambiguously settings)
    (otherUnambiguous : right.AsksUnambiguously settings)
    (noDuplicate : (Naming.run settings.collectionSuffix left.resultTypes).diagnostics = []) :
    (Naming.run settings.collectionSuffix right.resultTypes).diagnostics = [] ∧
      (left.named settings).Rearranged (right.named settings) := by
  obtain ⟨alsoNone, permutation⟩ := Naming.run_perm rearranged.resultTypes declared.nodup_identifiers
    declared.hasGivenIdentifiers (unambiguous.elementsUnambiguous declared)
    (otherUnambiguous.elementsUnambiguous otherDeclared) noDuplicate
  refine ⟨alsoNone, ?_, ?_, ?_, ?_, ?_, declared.isIndexed_named, otherDeclared.isIndexed_named⟩
  · rw [declared.phase_named, otherDeclared.phase_named]
  · rw [declared.named_eq, otherDeclared.named_eq]
    exact rearranged.api
  · rw [declared.named_eq, otherDeclared.named_eq]
    exact rearranged.services
  · rw [declared.named_eq, otherDeclared.named_eq]
    exact rearranged.userTypes
  · rw [declared.resultTypes_named, otherDeclared.resultTypes_named]
    exact permutation

/-! ## Look-up -/

/-- An unambiguous name leads to the same result type in rearranged registries, also after the same result types have
been added at the end of both. -/
theorem Rearranged.resultType?_eq {base other : Registry} (rearranged : left.Rearranged right)
    (permutation : base.resultTypes.Perm other.resultTypes) {added : List ResultType}
    (leftIs : left.resultTypes = base.resultTypes ++ added) (rightIs : right.resultTypes = other.resultTypes ++ added)
    {name : String} (unambiguous : IsUnambiguous name base.resultTypes) :
    left.resultType? name = right.resultType? name := by
  have distinct : (left.resultTypes.map (·.identifier)).Nodup := rearranged.indexed.nodup .resultType
  rw [rearranged.indexed.resultType?_eq, rearranged.otherIndexed.resultType?_eq,
    ← find?_eq_of_perm rearranged.resultTypes distinct name]
  cases byIdentifier : left.resultTypes.find? (·.identifier == name) with
  | some element => rfl
  | none =>
      -- What was added is the same on both sides, so only the first look-up by type name among the rest could differ.
      have noIdentifier := List.find?_eq_none.mp byIdentifier
      have inLeft : ∀ {resultType : ResultType}, resultType ∈ base.resultTypes → resultType ∈ left.resultTypes := by
        intro resultType member
        rw [leftIs]
        exact List.mem_append_left _ member
      have unique : {resultType ∈ base.resultTypes | (resultType.typeName == name) = true}.Subsingleton := by
        rintro first ⟨firstMember, firstNamed⟩ second ⟨secondMember, secondNamed⟩
        rcases unambiguous with ⟨resultType, member, identifier, _⟩ | same
        · exact absurd (beq_iff_eq.mpr identifier) (noIdentifier resultType (inLeft member))
        · exact List.inj_on_of_nodup_map distinct (inLeft firstMember) (inLeft secondMember)
            (same first firstMember second secondMember (ResultType.isNamed_iff.mpr (.inr (beq_iff_eq.mp firstNamed)))
              (ResultType.isNamed_iff.mpr (.inr (beq_iff_eq.mp secondNamed))))
      rw [leftIs, rightIs, List.find?_append, List.find?_append, List.find?_eq_find?_of_perm permutation unique]

end Registry

/-! ## Generation -/

namespace Generation

/-- Two states of generation over rearranged registries: both have added the same result types and found the same
targets. -/
structure Alike (base other : Registry) (left right : Generation) : Prop where
  preparing : left.registry.phase = .preparing
  rearranged : left.registry.Rearranged right.registry
  added : ∃ added, left.registry.resultTypes = base.resultTypes ++ added ∧
    right.registry.resultTypes = other.resultTypes ++ added
  targets : left.targets = right.targets

variable {suffix : String} {base other : Registry} {left right : Generation}

/-- Rearranged registries both have the collection of an element, or both get the same one at the end. -/
theorem rearranged_withCollection (suffix : String) {left right : Registry} (preparing : left.phase = .preparing)
    (rearranged : left.Rearranged right) (element : ResultType) :
    (withCollection suffix element left).phase = .preparing ∧
      (withCollection suffix element left).Rearranged (withCollection suffix element right) ∧
      ∃ added, (withCollection suffix element left).resultTypes = left.resultTypes ++ added ∧
        (withCollection suffix element right).resultTypes = right.resultTypes ++ added := by
  unfold withCollection
  rw [← rearranged.contains_eq]
  cases there : left.contains .resultType (ResultType.collectionIdentifier element.identifier) with
  | true => exact ⟨preparing, rearranged, [], by simp, by simp⟩
  | false =>
      have free : left.objection? (.resultType (element.generatedCollection suffix)) = none :=
        (Registry.register_eq_ok_iff.mp (Registry.register_resultType preparing there)).1
      exact ⟨preparing, rearranged.append free, [element.generatedCollection suffix], rfl, rfl⟩

/-- One step keeps two states alike, because the name it looks up is not ambiguous. -/
theorem Alike.provide (alike : Alike base other left right) (permutation : base.resultTypes.Perm other.resultTypes)
    {name : String} (unambiguous : IsUnambiguous name base.resultTypes) :
    Alike base other (left.provide suffix name) (right.provide suffix name) := by
  obtain ⟨added, leftIs, rightIs⟩ := alike.added
  rw [provide_eq alike.preparing, provide_eq (alike.rearranged.phase.symm.trans alike.preparing),
    ← alike.rearranged.resultType?_eq permutation leftIs rightIs unambiguous]
  cases left.registry.resultType? name with
  | none => exact alike
  | some element =>
      obtain ⟨preparing, rearranged, more, leftMore, rightMore⟩ :=
        rearranged_withCollection suffix alike.preparing alike.rearranged element
      refine ⟨preparing, rearranged, ⟨added ++ more, ?_, ?_⟩, ?_⟩
      · rw [← List.append_assoc, ← leftIs]
        exact leftMore
      · rw [← List.append_assoc, ← rightIs]
        exact rightMore
      · exact congrArg (· ++ [(name, ResultType.collectionIdentifier element.identifier)]) alike.targets

theorem Alike.foldl_provide (permutation : base.resultTypes.Perm other.resultTypes) {names : List String}
    (unambiguous : ∀ name ∈ names, IsUnambiguous name base.resultTypes) (alike : Alike base other left right) :
    Alike base other (names.foldl (Generation.provide suffix) left)
      (names.foldl (Generation.provide suffix) right) := by
  induction names generalizing left right with
  | nil => exact alike
  | cons name rest inductionHypothesis =>
      exact inductionHypothesis (fun later member => unambiguous later (List.mem_cons_of_mem _ member))
        (alike.provide permutation (unambiguous name List.mem_cons_self))

/-- Generation over rearranged registries ends alike. -/
theorem alike_final (suffix : String) {base other : Registry} (preparing : base.phase = .preparing)
    (rearranged : base.Rearranged other)
    (unambiguous : ∀ name ∈ base.shortcutNames, IsUnambiguous name base.resultTypes) :
    Alike base other (final suffix base) (final suffix other) := by
  unfold final
  rw [← rearranged.shortcutNames_eq]
  exact Alike.foldl_provide rearranged.resultTypes unambiguous
    ⟨preparing, rearranged, ⟨[], by simp, by simp⟩, rfl⟩

end Generation

/-! ## Evaluation -/

namespace Registry

variable {settings : Settings} {left right : Registry}

theorem Rearranged.generated (rearranged : (left.named settings).Rearranged (right.named settings))
    (declared : left.IsDeclared) (otherDeclared : right.IsDeclared) (unambiguous : left.AsksUnambiguously settings) :
    (left.generated settings).Rearranged (right.generated settings) := by
  have alike := Generation.alike_final settings.collectionSuffix declared.phase_named rearranged
    fun _ member => unambiguous.shortcuts declared member
  rw [declared.generated_eq, otherDeclared.generated_eq]
  unfold generation
  rw [alike.targets]
  exact alike.rearranged.mapShapes _

/-- Filling in what was left unsaid treats each declaration by itself. -/
theorem Rearranged.completed (rearranged : (left.generated settings).Rearranged (right.generated settings))
    (declared : left.IsDeclared) (otherDeclared : right.IsDeclared) :
    (left.completed settings).Rearranged (right.completed settings) := by
  have indexed : (left.completed settings).IsIndexed := declared.isIndexed_completed
  have otherIndexed : (right.completed settings).IsIndexed := otherDeclared.isIndexed_completed
  unfold Registry.completed markExamples at indexed otherIndexed ⊢
  rw [← rearranged.allowsExamples_eq settings] at otherIndexed ⊢
  have marked := rearranged.mapShapes
    (Attribute.transform { details := Details.markExamples ((left.generated settings).allowsExamples settings) })
  exact ⟨marked.phase, marked.api, marked.services.map _, marked.userTypes, marked.resultTypes.map _, indexed,
    otherIndexed⟩

/-- Where no element is asked for ambiguously, rearranged registries evaluate alike, unless naming reports. -/
theorem Rearranged.evaluate_eq (rearranged : left.Rearranged right) (declared : left.IsDeclared)
    (otherDeclared : right.IsDeclared) (unambiguous : left.AsksUnambiguously settings)
    (otherUnambiguous : right.AsksUnambiguously settings)
    (noDuplicate : (Naming.run settings.collectionSuffix left.resultTypes).diagnostics = []) :
    left.evaluate settings = right.evaluate settings := by
  obtain ⟨alsoNone, named⟩ := rearranged.named declared otherDeclared unambiguous otherUnambiguous noDuplicate
  have completed := (named.generated declared otherDeclared unambiguous).completed declared otherDeclared
  have prepared : left.prepared settings = right.prepared settings := by
    unfold Registry.prepared
    exact completed.toSealed_eq
  rw [evaluate_eq_findings, evaluate_eq_findings]
  unfold evaluatedRegistry evaluationFindings
  rw [declared.prepare_eq, otherDeclared.prepare_eq, prepared, noDuplicate, alsoNone]

/-- Where no element is asked for ambiguously, one registry succeeds if a rearranged one does, with the same
outcome. -/
theorem Succeeds.of_rearranged (succeeds : left.Succeeds settings) (rearranged : left.Rearranged right)
    (declared : left.IsDeclared) (otherDeclared : right.IsDeclared) (unambiguous : left.AsksUnambiguously settings)
    (otherUnambiguous : right.AsksUnambiguously settings) :
    right.Succeeds settings ∧ left.derived settings = right.derived settings := by
  have same := rearranged.evaluate_eq declared otherDeclared unambiguous otherUnambiguous succeeds.noDuplicate
  refine ⟨(diagnostics_evaluate_eq_nil_iff settings right).mp ?_, ?_⟩
  · rw [← same]
    exact (diagnostics_evaluate_eq_nil_iff settings left).mpr succeeds
  · have sameRegistry := congrArg Evaluated.registry same
    rwa [Registry.evaluate_eq, Registry.evaluate_eq] at sameRegistry

end Registry

/-- Where no element is asked for ambiguously in either order, declarations in two orders evaluate to the same model or
both to none. -/
theorem evaluate_perm {settings : Settings} {left right : List Declaration} (permutation : left.Perm right)
    (unambiguous : (declaredRegistry left).AsksUnambiguously settings)
    (otherUnambiguous : (declaredRegistry right).AsksUnambiguously settings) (model : Model) :
    evaluate settings left = .ok model ↔ evaluate settings right = .ok model := by
  have oneWay : ∀ {first second : List Declaration}, first.Perm second →
      (declaredRegistry first).AsksUnambiguously settings → (declaredRegistry second).AsksUnambiguously settings →
      evaluate settings first = .ok model → evaluate settings second = .ok model := by
    intro first second same firstUnambiguous secondUnambiguous evaluated
    obtain ⟨registry, declares, succeeds, rfl⟩ := evaluate_eq_ok_iff.mp evaluated
    obtain ⟨other, otherDeclares, rearranged⟩ := declares.perm same
    rw [declares.eq_declaredRegistry] at firstUnambiguous
    rw [otherDeclares.eq_declaredRegistry] at secondUnambiguous
    obtain ⟨otherSucceeds, sameOutcome⟩ := succeeds.of_rearranged rearranged declares.isDeclared
      otherDeclares.isDeclared firstUnambiguous secondUnambiguous
    exact evaluate_eq_ok_iff.mpr ⟨other, otherDeclares, otherSucceeds, by rw [sameOutcome]⟩
  exact ⟨oneWay permutation unambiguous otherUnambiguous, oneWay permutation.symm otherUnambiguous unambiguous⟩

/-- Elements by type name and by identifier, in two orders. -/
theorem evaluate_cellar_reversed :
    ∃ model,
      evaluate {}
        [.resultType "vnd.bottle" [.block (.view "default") []], .collectionOf "Bottle" [],
          .userType "Cellar" [.type (.collectionOf "vnd.bottle")]] = .ok model ∧
        evaluate {}
          [.userType "Cellar" [.type (.collectionOf "vnd.bottle")], .collectionOf "Bottle" [],
            .resultType "vnd.bottle" [.block (.view "default") []]] = .ok model := by
  refine exists_model (fun _ => true) (by decide +kernel) fun model evaluated _ => ?_
  refine (evaluate_perm ?permutation (by decide +kernel) (by decide +kernel) model).mp evaluated
  exact (List.reverse_perm _).symm

/-- Two result types have one type name: a collection asked for by it takes the one that is declared first. -/
theorem evaluate_ne_of_ambiguous :
    ∃ model,
      evaluate {}
        [.resultType "a/x" [.block (.view "default") []], .resultType "b/x" [.block (.view "default") []],
          .collectionOf "X" []] = .ok model ∧
        ∃ other,
          evaluate {}
            [.resultType "b/x" [.block (.view "default") []], .resultType "a/x" [.block (.view "default") []],
              .collectionOf "X" []] = .ok other ∧
            model ≠ other := by
  refine exists_model (fun model => model.resultTypes.any (·.identifier == "a/x; type=collection"))
    (by decide +kernel) fun model _ fromFirst => ?_
  refine exists_model (fun other => !other.resultTypes.any (·.identifier == "a/x; type=collection"))
    (by decide +kernel) fun other _ fromSecond same => ?_
  rw [← same, fromFirst] at fromSecond
  cases fromSecond

end ApiDesign
