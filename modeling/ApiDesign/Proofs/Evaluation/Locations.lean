import ApiDesign.Proofs.Design.FirstOfKey
import ApiDesign.Proofs.Evaluation.Links
import ApiDesign.Proofs.Evaluation.Outcome
import ApiDesign.Proofs.Evaluation.Trails

/-!
Contract: every diagnostic of a design is located, and the reporter is outside all frames between calls and phases.

A clause comes out in the frames it went in with and records below them; so does a declaration, which goes into its own
frame first. Each phase of evaluation keeps the frames of its reporter. So whatever is found in the end has an outermost
frame: that of the declaration that recorded it, that of the declared collection that could not be named, or that of
the declaration of the sealed registry in which it was found.

Owns: `Reporter.StaysWithin`, `Scan.KeepsFrames`, `HasOutermostFrame`, the frames of everything that is reported.
Does not own: where each check locates its findings (`Proofs.Evaluation.Trails`).
-/

namespace ApiDesign

/-- A reporter is still in the frames of an earlier moment and has recorded since, if anything, diagnostics below
them. -/
structure Reporter.StaysWithin (before after : Reporter) : Prop where
  sameFrames : after.frames = before.frames
  recorded : ∃ recorded, after.diagnostics = before.diagnostics ++ recorded ∧ AllWithin before.frames recorded

/-- A scan hands on its reporter in the frames in which it got it. -/
def Scan.KeepsFrames {α : Type} (scan : Scan α) : Prop :=
  ∀ reporter, (scan.run reporter).2.frames = reporter.frames

/-- A diagnostic is located, and its outermost frame is one of these. -/
def Diagnostic.HasOutermostFrame (frames : List String) (diagnostic : Diagnostic) : Prop :=
  ∃ frame ∈ frames, ∃ inner, diagnostic.trail = some (frame :: inner)

theorem Diagnostic.IsWithin.hasOutermostFrame {diagnostic : Diagnostic} {frame : String} {frames : List String}
    (within : diagnostic.IsWithin [frame]) (member : frame ∈ frames) : diagnostic.HasOutermostFrame frames :=
  ⟨frame, member, within⟩

theorem Diagnostic.HasOutermostFrame.mono {diagnostic : Diagnostic} {frames more : List String}
    (has : diagnostic.HasOutermostFrame frames) (included : frames ⊆ more) : diagnostic.HasOutermostFrame more := by
  obtain ⟨frame, member, located⟩ := has
  exact ⟨frame, included member, located⟩

/-! ## Clauses and declarations -/

/-- A clause, whether it fails or not, stays within the frames it is applied under. -/
theorem Clause.staysWithin_apply (clause : Clause) (node : Node) (reporter : Reporter) :
    reporter.StaysWithin (clause.apply node reporter).reporter :=
  ⟨frames_apply clause node reporter,
    (records_apply clause node reporter).imp fun _ facts => ⟨facts.1, facts.2.2⟩⟩

theorem Clause.staysWithin_applyAll (clauses : List Clause) (node : Node) (reporter : Reporter) :
    reporter.StaysWithin (applyAll clauses node reporter).reporter :=
  ⟨frames_applyAll clauses node reporter,
    (records_applyAll clauses node reporter).imp fun _ facts => ⟨facts.1, facts.2.2⟩⟩

namespace Design

variable {design : Design}

/-- Between calls, a design is outside all frames and what it has recorded since an earlier moment is located below a
frame. -/
structure HasRecorded (frame : String) (before after : Design) : Prop where
  outside : after.reporter.frames = []
  recorded : ∃ recorded, after.reporter.diagnostics = before.reporter.diagnostics ++ recorded ∧
    AllWithin [frame] recorded

theorem hasRecorded_register (design : Design) (outside : design.reporter.frames = []) (frame : String) (node : Node) :
    HasRecorded frame design (design.register frame node) := by
  unfold register
  split
  · exact ⟨outside, [], by simp, .nil⟩
  · split
    · exact ⟨outside, [], by simp, .nil⟩
    · exact ⟨outside, _, rfl, .singleton _⟩

/-- A declaration, whether it fails or not, leaves the design outside all frames and records below its own frame. -/
theorem hasRecorded_declare (outside : design.reporter.frames = []) (declaration : Declaration) :
    HasRecorded declaration.frame design (design.declare declaration).1 := by
  unfold declare
  cases opens : declaration.opening with
  | error diagnostic => exact ⟨outside, [], by simp, .nil⟩
  | ok opening =>
      have inside := Clause.staysWithin_applyAll opening.clauses opening.node (design.reporter.enter opening.frame)
      dsimp only
      generalize Clause.applyAll opening.clauses opening.node (design.reporter.enter opening.frame) = outcome at inside
      obtain ⟨fromClauses, toOutcome, within⟩ := inside.recorded
      rw [show (design.reporter.enter opening.frame).frames = [declaration.frame] by
        simp [Reporter.enter, outside, Declaration.frame_of_opening opens]] at within
      have left : outcome.reporter.leave.frames = [] := by
        simp [Reporter.leave, inside.sameFrames, Reporter.enter, outside]
      cases outcome.failure with
      | some diagnostic => exact ⟨left, fromClauses, toOutcome, within⟩
      | none =>
          rw [Declaration.frame_of_opening opens]
          obtain ⟨stillOutside, fromRegistering, toEnd, alsoWithin⟩ :=
            hasRecorded_register { design with reporter := outcome.reporter.leave } left declaration.frame outcome.node
          refine ⟨stillOutside, fromClauses ++ fromRegistering, ?_, within.append alsoWithin⟩
          rw [toEnd, ← List.append_assoc]
          exact congrArg (· ++ fromRegistering) toOutcome

/-- Whatever calls record has the frame of one of the declarations as its outermost frame. -/
theorem hasOutermostFrame_declareEach (declarations : List Declaration) :
    ∀ diagnostic ∈ (empty.declareEach declarations).reporter.diagnostics,
      diagnostic.HasOutermostFrame (declarations.map Declaration.frame) := by
  induction declarations using List.reverseRecOn with
  | nil => exact fun _ member => nomatch member
  | append_singleton earlier last inductionHypothesis =>
      rw [declareEach, List.foldl_concat]
      obtain ⟨recorded, toEnd, within⟩ :=
        (hasRecorded_declare (hasDeclared_declareEach earlier).outside last).recorded
      rw [show (List.foldl _ empty earlier) = empty.declareEach earlier from rfl, toEnd, List.map_append]
      refine List.forall_mem_append.mpr ⟨?ofEarlier, ?ofLast⟩
      case ofEarlier =>
        exact fun diagnostic member => (inductionHypothesis diagnostic member).mono (List.subset_append_left _ _)
      case ofLast =>
        exact fun diagnostic member => (within diagnostic member).hasOutermostFrame (by simp)

/-- A result type that a design holds was declared under its frame. -/
theorem frame_mem_of_mem_resultTypes {declarations : List Declaration} {resultType : ResultType}
    (held : resultType ∈ (empty.declareEach declarations).registry.resultTypes) :
    Kind.resultType.frame resultType.identifier ∈ declarations.map Declaration.frame := by
  rw [(hasDeclared_declareEach declarations).holds.resultTypes] at held
  obtain ⟨root, inRoots, isResultType⟩ := List.mem_filterMap.mp held
  cases root <;> cases isResultType
  rcases List.mem_cons.mp inRoots with isBuiltIn | isFirst
  · cases isBuiltIn
  · obtain ⟨declaration, member, builds⟩ := Declaration.exists_of_mem_firstRoots isFirst
    have sameFrame : declaration.frame = Kind.resultType.frame resultType.identifier := by
      obtain ⟨sameKind, sameName⟩ := Declaration.kindAndName_of_built? builds
      cases declaration <;> cases sameKind <;> exact congrArg Kind.resultType.frame sameName.symm
    exact List.mem_map.mpr ⟨declaration, member, sameFrame⟩

end Design

/-! ## Phases -/

namespace Registry

variable {settings : Settings} {registry : Registry}

theorem frame_mem_roots_of_mem_resultTypes {resultType : ResultType} (member : resultType ∈ registry.resultTypes) :
    Kind.resultType.frame resultType.identifier ∈ registry.roots.map Root.frame :=
  List.mem_map.mpr ⟨.resultType resultType, List.mem_append_right _ (List.mem_map_of_mem member), rfl⟩

/-- What evaluation finds has the frame of a declared result type or of a declaration of the sealed registry as its
outermost frame. -/
theorem IsDeclared.hasOutermostFrame (declared : registry.IsDeclared) :
    ∀ diagnostic ∈ registry.evaluationFindings settings [],
      diagnostic.HasOutermostFrame (registry.resultTypes.map fun resultType =>
        Kind.resultType.frame resultType.identifier) ∨
      diagnostic.HasOutermostFrame ((registry.prepare settings).1.roots.map Root.frame) := by
  unfold evaluationFindings
  rw [declared.prepare_eq, findingsAt_nil, unresolvedAt_nil, findings_eq_flatMap, unresolved_eq_flatMap]
  generalize registry.prepared settings = prepared
  simp only [List.forall_mem_append]
  refine ⟨⟨⟨?ofNaming, ?ofChecking⟩, ?ofLinking⟩, ?ofDerivation⟩
  case ofNaming =>
    intro diagnostic member
    obtain ⟨named, inStart, within⟩ := (Naming.reaches_run _ _).isInResultType rfl diagnostic member
    obtain ⟨resultType, inRegistry, rfl⟩ := List.mem_map.mp inStart
    rw [Naming.identifier_nameProvisionally] at within
    exact .inl (within.hasOutermostFrame (List.mem_map.mpr ⟨resultType, inRegistry, rfl⟩))
  case ofChecking =>
    intro diagnostic member
    obtain ⟨root, inRoots, found⟩ := List.mem_flatMap.mp member
    exact .inr ((prepared.allWithin_rootFindings root diagnostic found).hasOutermostFrame (List.mem_map_of_mem inRoots))
  case ofLinking =>
    intro diagnostic member
    obtain ⟨root, inRoots, found⟩ := List.mem_flatMap.mp member
    exact .inr ((root.allWithin_unresolved _ diagnostic found).hasOutermostFrame (List.mem_map_of_mem inRoots))
  case ofDerivation =>
    intro diagnostic member
    obtain ⟨linked, inLinked, within⟩ := (Derivation.reaches_run _).isInResultType rfl diagnostic member
    change linked ∈ prepared.resultTypes.map (ResultType.link prepared.typeIndex) at inLinked
    obtain ⟨resultType, inPrepared, rfl⟩ := List.mem_map.mp inLinked
    rw [ResultType.identifier_link] at within
    exact .inr (within.hasOutermostFrame (frame_mem_roots_of_mem_resultTypes inPrepared))

end Registry

/-- Clauses stay within the frames they are applied under, failing or not. After every call a design is outside all
frames, and every phase of evaluation keeps the frames. So each diagnostic that evaluation returns is located, and its
outermost frame is that of a declaration that was attempted or of one in the sealed registry. -/
theorem every_diagnostic_isLocated (settings : Settings) (declarations : List Declaration) :
    let design := Design.empty.declareEach declarations
    (∀ (clause : Clause) (node : Node) (reporter : Reporter),
        reporter.StaysWithin (clause.apply node reporter).reporter) ∧
      (∀ (clauses : List Clause) (node : Node) (reporter : Reporter),
        reporter.StaysWithin (Clause.applyAll clauses node reporter).reporter) ∧
      design.reporter.frames = [] ∧
      (∀ next, (design.declare next).1.reporter.frames = []) ∧
      (∀ registry : Registry, (registry.preparation settings).KeepsFrames ∧ registry.check.KeepsFrames ∧
        registry.finalization.KeepsFrames) ∧
      ∀ diagnostics, design.evaluate settings = .error diagnostics → ∀ diagnostic ∈ diagnostics,
        diagnostic.HasOutermostFrame (declarations.map Declaration.frame ++
          (design.registry.prepare settings).1.roots.map Root.frame) := by
  intro design
  have hasDeclared := Design.hasDeclared_declareEach declarations
  refine ⟨Clause.staysWithin_apply, Clause.staysWithin_applyAll, hasDeclared.outside,
    fun next => (Design.hasRecorded_declare hasDeclared.outside next).outside,
    fun registry => ⟨(registry.yields_preparation settings).frames, registry.yields_check.frames,
      registry.yields_finalization.frames⟩, ?_⟩
  intro diagnostics failed diagnostic member
  rw [Design.evaluate_eq, Registry.evaluate_eq_findings] at failed
  split at failed
  · cases failed
  · cases failed
    rcases List.mem_append.mp member with inDeclaring | inEvaluation
    · exact (Design.hasOutermostFrame_declareEach declarations diagnostic inDeclaring).mono
        (List.subset_append_left _ _)
    · rcases hasDeclared.declared.hasOutermostFrame diagnostic inEvaluation with ofResultType | ofSealed
      · refine ofResultType.mono fun frame isFrame => List.mem_append_left _ ?_
        obtain ⟨resultType, held, rfl⟩ := List.mem_map.mp isFrame
        exact Design.frame_mem_of_mem_resultTypes held
      · exact ofSealed.mono (List.subset_append_right _ _)

/-- A call without a place, a declaration that fails, two collections of one element, and an unknown name inside a
type. -/
def flawedShed : List Declaration :=
  [.service "shed" [.setting (.uri "http://localhost")],
    .service " " [],
    .userType "Bin" [.type (.array (.ofType (.reference "Lid")))],
    .resultType "a/x" [.child "id" [], .block (.view "default") [.child "id" []]],
    .collectionOf "a/x" [], .collectionOf "X" []]

/-- The second collection cannot be named after its element and keeps the frame of its declaration. -/
theorem every_diagnostic_isLocated_flawedShed :
    ∃ diagnostics, (Design.empty.declareEach flawedShed).evaluate {} = .error diagnostics ∧
      diagnostics.map (·.root?) =
        [some "service \"shed\"", some "result type \"X; type=collection\"", some "type \"Bin\""] ∧
      ∀ diagnostic ∈ diagnostics,
        diagnostic.HasOutermostFrame (flawedShed.map Declaration.frame ++
          ((Design.empty.declareEach flawedShed).registry.prepare {}).1.roots.map Root.frame) := by
  have frames : (match (Design.empty.declareEach flawedShed).evaluate {} with
      | .ok _ => none
      | .error diagnostics => some (diagnostics.map (·.root?))) =
        some [some "service \"shed\"", some "result type \"X; type=collection\"", some "type \"Bin\""] := by
    decide +kernel
  cases outcome : (Design.empty.declareEach flawedShed).evaluate {} with
  | ok model =>
      rw [outcome] at frames
      cases frames
  | error diagnostics =>
      rw [outcome] at frames
      exact ⟨diagnostics, rfl, Option.some.inj frames,
        (every_diagnostic_isLocated {} flawedShed).2.2.2.2.2 diagnostics outcome⟩

end ApiDesign
