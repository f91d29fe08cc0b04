import ApiDesign.Proofs.Design
import ApiDesign.Proofs.Evaluation.Generation
import ApiDesign.Proofs.Evaluation.Naming
import ApiDesign.Proofs.Evaluation.Phases
import ApiDesign.Proofs.Evaluation.SharedErrors

/-!
Contract: evaluation as a sequence of registries, and when it leads to a model.

A declared registry is named, completed by generated collections and by what was left unsaid, sealed, linked, and given
derived views. Every one of these registries is indexed; from the sealed one on, names do not change any more.

Owns: the registries by name, `Registry.Succeeds`, and the facts about indices, names and errors on the way.
Does not own: what links and views look like in the end (`Proofs.Evaluation.Links`, `Proofs.Evaluation.Views`).
-/

namespace ApiDesign

/-! ## The registries -/

namespace Registry

variable (settings : Settings) (registry : Registry)

/-- The registry after naming. -/
@[irreducible] def named : Registry := (registry.beginPreparing.nameCollections settings.collectionSuffix).1

/-- The registry after generation. -/
@[irreducible] def generated : Registry := (Generation.run settings.collectionSuffix (registry.named settings)).1

/-- The registry with everything filled in that was left unsaid. -/
@[irreducible] def completed : Registry :=
  ((registry.generated settings).markExamples settings).canonicalViews.shareErrors

/-- The registry as it is checked. -/
@[irreducible] def prepared : Registry := (registry.completed settings).toSealed

/-- The registry with linked references. -/
@[irreducible] def linked : Registry := (registry.prepared settings).link (registry.prepared settings).typeIndex

/-- The registry that becomes the model. -/
@[irreducible] def derived : Registry := (registry.linked settings).deriveViews.1

/-- Nothing is found at any stage of evaluation. -/
structure Succeeds : Prop where
  noDuplicate : (Naming.run settings.collectionSuffix registry.resultTypes).diagnostics = []
  noRefusal : (Generation.run settings.collectionSuffix (registry.named settings)).2 = []
  noFinding : (registry.prepared settings).findings = []
  noUnresolved : (registry.prepared settings).unresolved (registry.prepared settings).typeIndex = []
  noViewFinding : (registry.linked settings).deriveViews.2 = []

theorem resultTypes_beginPreparing : registry.beginPreparing.resultTypes = registry.resultTypes := by
  unfold beginPreparing
  cases registry.phase <;> rfl

theorem prepare_eq :
    registry.prepare settings =
      (registry.prepared settings,
        (registry.beginPreparing.nameCollections settings.collectionSuffix).2 ++
          (Generation.run settings.collectionSuffix (registry.named settings)).2) := by
  unfold prepare prepared completed generated named
  cases registry.beginPreparing.nameCollections settings.collectionSuffix with
  | mk named duplicates =>
      dsimp only

theorem diagnostics_nameCollections (suffix : String) :
    (registry.beginPreparing.nameCollections suffix).2 = (Naming.run suffix registry.resultTypes).diagnostics := by
  unfold nameCollections
  rw [resultTypes_beginPreparing]

theorem evaluate_eq :
    registry.evaluate settings =
      ⟨registry.derived settings,
        (Naming.run settings.collectionSuffix registry.resultTypes).diagnostics ++
          (Generation.run settings.collectionSuffix (registry.named settings)).2 ++
          (registry.prepared settings).findings ++
          (registry.prepared settings).unresolved (registry.prepared settings).typeIndex ++
          (registry.linked settings).deriveViews.2⟩ := by
  rw [evaluate_eq_findings]
  unfold evaluatedRegistry evaluationFindings derived linked
  rw [prepare_eq, diagnostics_nameCollections]
  rfl

theorem diagnostics_evaluate_eq_nil_iff :
    (registry.evaluate settings).diagnostics = [] ↔ registry.Succeeds settings := by
  rw [evaluate_eq]
  simp only [List.append_eq_nil_iff]
  constructor
  · rintro ⟨⟨⟨⟨noDuplicate, noRefusal⟩, noFinding⟩, noUnresolved⟩, noViewFinding⟩
    exact ⟨noDuplicate, noRefusal, noFinding, noUnresolved, noViewFinding⟩
  · intro succeeds
    exact ⟨⟨⟨⟨succeeds.noDuplicate, succeeds.noRefusal⟩, succeeds.noFinding⟩, succeeds.noUnresolved⟩,
      succeeds.noViewFinding⟩

end Registry

/-- Declarations evaluate to a model exactly if they make a registry without a diagnostic and evaluation finds nothing
at any stage. -/
theorem evaluate_eq_ok_iff {settings : Settings} {declarations : List Declaration} {model : Model} :
    evaluate settings declarations = .ok model ↔
      ∃ registry, Declares declarations registry ∧ registry.Succeeds settings ∧
        model = .ofRegistry (registry.derived settings) := by
  unfold evaluate
  constructor
  · intro evaluated
    cases declared : Design.empty.declareAll declarations with
    | mk design failure =>
        cases failure with
        | some diagnostic => simp [declared] at evaluated
        | none =>
            simp only [declared, Design.evaluate_eq_ok_iff] at evaluated
            obtain ⟨noneDeclared, noneFound, rfl⟩ := evaluated
            have flawless := Design.reporter_declareAll rfl declared
            obtain ⟨registry, reporter⟩ := design
            have clean : reporter = {} := by
              cases reporter
              simp only at flawless noneDeclared
              rw [flawless, noneDeclared]
            subst clean
            refine ⟨registry, declares_iff.mpr declared, ?_, ?_⟩
            · exact (Registry.diagnostics_evaluate_eq_nil_iff settings registry).mp noneFound
            · rw [Registry.evaluate_eq]
  · rintro ⟨registry, declares, succeeds, rfl⟩
    rw [declares_iff.mp declares]
    have nothing := (Registry.diagnostics_evaluate_eq_nil_iff settings registry).mpr succeeds
    refine Design.evaluate_eq_ok_iff.mpr ⟨rfl, nothing, ?_⟩
    rw [Registry.evaluate_eq]

/-- A check that the model of a design passes speaks of a model, not of a failure. -/
theorem exists_model {outcome : Except (List Diagnostic) Model} {property : Model → Prop} (check : Model → Bool)
    (passes : outcome.toOption.any check = true)
    (enough : ∀ model, outcome = .ok model → check model = true → property model) :
    ∃ model, outcome = .ok model ∧ property model := by
  cases outcome with
  | error diagnostics => cases passes
  | ok model => exact ⟨model, rfl, enough model rfl passes⟩

/-! ## Names and indices -/

namespace Registry

variable {settings : Settings} {registry : Registry}

theorem IsDeclared.named_eq (declared : registry.IsDeclared) :
    registry.named settings =
      { registry with
        phase := .preparing
        resultTypes := (Naming.run settings.collectionSuffix registry.resultTypes).resultTypes }.reindex := by
  unfold named nameCollections beginPreparing
  rw [declared.phase]

theorem IsDeclared.nodup_identifiers (declared : registry.IsDeclared) :
    (registry.resultTypes.map (·.identifier)).Nodup :=
  declared.indexed.nodup .resultType

theorem IsDeclared.phase_named (declared : registry.IsDeclared) : (registry.named settings).phase = .preparing := by
  rw [declared.named_eq]
  rfl

theorem IsDeclared.isIndexed_named (declared : registry.IsDeclared) : (registry.named settings).IsIndexed := by
  rw [declared.named_eq]
  apply isIndexed_reindex
  intro kind
  cases kind with
  | api => exact declared.indexed.nodup .api
  | service => exact declared.indexed.nodup .service
  | userType => exact declared.indexed.nodup .userType
  | resultType =>
      refine (Naming.reaches_run settings.collectionSuffix registry.resultTypes).nodup_identifiers ?_
      simpa [Naming.start, Function.comp_def] using declared.nodup_identifiers

/-- The state in which generation ends. -/
def generation (settings : Settings) (registry : Registry) : Generation :=
  Generation.final settings.collectionSuffix (registry.named settings)

theorem IsDeclared.isSound_generation (declared : registry.IsDeclared) :
    (registry.generation settings).IsSound (registry.named settings) :=
  Generation.isSound_final declared.phase_named declared.isIndexed_named _

theorem IsDeclared.generated_eq (declared : registry.IsDeclared) :
    registry.generated settings =
      (registry.generation settings).registry.mapShapes
        (Attribute.transform (Generation.resolution (registry.generation settings).targets)) := by
  unfold generated generation
  rw [Generation.run_eq declared.phase_named declared.isIndexed_named]

/-- Of all that preparing does, only naming may report. -/
theorem IsDeclared.prepare_eq (declared : registry.IsDeclared) :
    registry.prepare settings =
      (registry.prepared settings, (Naming.run settings.collectionSuffix registry.resultTypes).diagnostics) := by
  rw [Registry.prepare_eq, diagnostics_nameCollections,
    Generation.run_eq declared.phase_named declared.isIndexed_named, List.append_nil]

theorem IsDeclared.isIndexed_generated (declared : registry.IsDeclared) : (registry.generated settings).IsIndexed := by
  rw [declared.generated_eq]
  exact declared.isSound_generation.extended.indexed.mapShapes _

theorem IsDeclared.adds_generation (settings : Settings) (declared : registry.IsDeclared) :
    Generation.Adds settings.collectionSuffix (registry.named settings) (registry.generation settings).registry :=
  Generation.adds_final declared.phase_named declared.isIndexed_named _

theorem IsDeclared.mem_generation (declared : registry.IsDeclared) {named : ResultType}
    (member : named ∈ (registry.named settings).resultTypes) :
    named ∈ (registry.generation settings).registry.resultTypes := by
  obtain ⟨added, same, _⟩ := declared.adds_generation settings
  rw [same]
  exact List.mem_append_left _ member

/-- A result type of generation is one of naming, or a collection, under a new identifier, of one that is there. -/
theorem IsDeclared.mem_resultTypes_generation (declared : registry.IsDeclared) {resultType : ResultType}
    (member : resultType ∈ (registry.generation settings).registry.resultTypes) :
    resultType ∈ (registry.named settings).resultTypes ∨
      (resultType.identifier ∉ (registry.named settings).resultTypes.map (·.identifier) ∧
        ∃ element ∈ (registry.generation settings).registry.resultTypes,
          resultType = element.generatedCollection settings.collectionSuffix) := by
  obtain ⟨added, same, allGenerated⟩ := declared.adds_generation settings
  have distinct : ((registry.generation settings).registry.resultTypes.map (·.identifier)).Nodup :=
    declared.isSound_generation.extended.indexed.nodup .resultType
  rw [same, List.map_append] at distinct
  rw [same] at member
  rcases List.mem_append.mp member with fromNaming | isAdded
  · exact .inl fromNaming
  · refine .inr ⟨?_, allGenerated resultType isAdded⟩
    intro known
    exact (List.nodup_append.mp distinct).2.2 _ known _ (List.mem_map_of_mem isAdded) rfl

theorem names_canonicalViews (kind : RootKind) (registry : Registry) :
    registry.canonicalViews.names kind = registry.names kind := by
  cases kind with
  | resultType =>
      simp only [names, canonicalViews, List.map_map]
      rfl
  | _ => rfl

theorem names_shareErrors (kind : RootKind) (registry : Registry) :
    registry.shareErrors.names kind = registry.names kind := by
  cases kind with
  | service =>
      simp only [names, shareErrors, List.map_map]
      rfl
  | _ => rfl

theorem index_canonicalViews (registry : Registry) : registry.canonicalViews.index = registry.index := rfl

theorem index_shareErrors (registry : Registry) : registry.shareErrors.index = registry.index := rfl

theorem names_completed (kind : RootKind) :
    (registry.completed settings).names kind = (registry.generated settings).names kind := by
  unfold completed markExamples
  rw [names_shareErrors, names_canonicalViews, names_mapShapes]

theorem IsDeclared.isIndexed_completed (declared : registry.IsDeclared) : (registry.completed settings).IsIndexed := by
  intro kind name position
  rw [names_completed]
  unfold completed markExamples
  rw [index_shareErrors, index_canonicalViews, index_mapShapes]
  exact declared.isIndexed_generated kind name position

theorem IsDeclared.isIndexed_prepared (declared : registry.IsDeclared) : (registry.prepared settings).IsIndexed := by
  unfold prepared
  exact declared.isIndexed_completed.toSealed

/-! ## Errors -/

end Registry

theorem Service.HasOwnErrors.mapShapes {service : Service} (own : service.HasOwnErrors)
    (change : Attribute → Attribute) : (service.mapShapes change).HasOwnErrors where
  errors := by
    intro error member
    obtain ⟨before, inBefore, rfl⟩ := List.mem_map.mp member
    exact own.errors before inBefore
  methods := by
    intro method member error inMethod
    obtain ⟨before, inBefore, rfl⟩ := List.mem_map.mp member
    obtain ⟨errorBefore, inErrors, rfl⟩ := List.mem_map.mp inMethod
    exact own.methods before inBefore errorBefore inErrors

/-- The service has no inherited error, and its methods inherit only from it. -/
structure Service.SharesErrors (service : Service) : Prop where
  errors : ∀ error ∈ service.errors, error.inherited = false
  methods : ∀ method ∈ service.methods, ∀ error ∈ method.errors, error.inherited = true →
    ∃ own ∈ service.errors, own.shape = error.shape

theorem Service.HasOwnErrors.shareErrors {service : Service} (own : service.HasOwnErrors) :
    service.shareErrors.SharesErrors where
  errors := own.errors
  methods := by
    intro method member
    obtain ⟨before, inBefore, rfl⟩ := List.mem_map.mp member
    rw [Method.foldl_inherit]
    intro error inMethod isInherited
    rcases List.mem_append.mp inMethod with isOwn | isCopy
    · rw [own.methods before inBefore error isOwn] at isInherited
      cases isInherited
    · obtain ⟨original, inErrors, _, rfl⟩ := ErrorAnswer.exists_of_mem_copiesBeside isCopy
      exact ⟨original, inErrors, rfl⟩

namespace Registry

variable {settings : Settings} {registry : Registry}

theorem IsDeclared.ownErrors_generated (declared : registry.IsDeclared) :
    ∀ service ∈ (registry.generated settings).services, service.HasOwnErrors := by
  have sameServices : (registry.generation settings).registry.services = registry.services := by
    rw [declared.isSound_generation.extended.services, declared.named_eq]
    rfl
  rw [declared.generated_eq]
  intro service member
  simp only [mapShapes, sameServices] at member
  obtain ⟨before, inBefore, rfl⟩ := List.mem_map.mp member
  exact (declared.services before inBefore).mapShapes _

theorem mem_services_toSealed {service : Service} {registry : Registry} :
    service ∈ registry.toSealed.services ↔ service ∈ registry.services := by
  unfold toSealed reindex
  exact mem_sortByName

theorem services_canonicalViews (registry : Registry) : registry.canonicalViews.services = registry.services := rfl

theorem services_shareErrors (registry : Registry) :
    registry.shareErrors.services = registry.services.map Service.shareErrors := rfl

theorem resultTypes_toSealed (registry : Registry) :
    registry.toSealed.resultTypes = sortByName (·.identifier) registry.resultTypes := rfl

theorem resultTypes_canonicalViews (registry : Registry) :
    registry.canonicalViews.resultTypes = registry.resultTypes.map ResultType.canonicalViews := rfl

theorem resultTypes_shareErrors (registry : Registry) : registry.shareErrors.resultTypes = registry.resultTypes := rfl

theorem resultTypes_mapShapes (change : Attribute → Attribute) (registry : Registry) :
    (registry.mapShapes change).resultTypes = registry.resultTypes.map (ResultType.mapShape change) := rfl

theorem services_mapShapes (change : Attribute → Attribute) (registry : Registry) :
    (registry.mapShapes change).services = registry.services.map (Service.mapShapes change) := rfl

/-- A service of the prepared registry has shared the errors that were declared. -/
theorem IsDeclared.exists_shared (declared : registry.IsDeclared) {service : Service}
    (member : service ∈ (registry.prepared settings).services) :
    ∃ before : Service, before.HasOwnErrors ∧ before.shareErrors = service := by
  unfold prepared at member
  have inCompleted := mem_services_toSealed.mp member
  unfold completed markExamples at inCompleted
  rw [services_shareErrors, services_canonicalViews, services_mapShapes, List.map_map] at inCompleted
  obtain ⟨before, inGenerated, rfl⟩ := List.mem_map.mp inCompleted
  exact ⟨_, (declared.ownErrors_generated before inGenerated).mapShapes _, rfl⟩

/-- In a prepared registry, every inherited error is a copy of an error of its service. -/
theorem IsDeclared.sharesErrors_prepared (declared : registry.IsDeclared) :
    ∀ service ∈ (registry.prepared settings).services, service.SharesErrors := by
  intro service member
  obtain ⟨before, own, rfl⟩ := declared.exists_shared member
  exact own.shareErrors

end Registry

end ApiDesign
