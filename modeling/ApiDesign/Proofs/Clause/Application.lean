import ApiDesign.Clause.Basic

/-!
Contract: what applying clauses keeps, whatever the clauses are.

A relation that every single change respects holds between an expression and the outcome of any clauses on it. The
reporter comes out in the frames it went in with, and what was recorded earlier plays no part in an application.

Owns: the induction over clauses and the two facts about reporters.
Does not own: which relations are respected (`Proofs.Clause.Identity`).
-/

namespace ApiDesign

/-! ## Relations -/

/-- A relation that settings, listings and blocks respect. A block does if what it opened is related to what its
clauses made of that. -/
structure Clause.Respects (relation : Node → Node → Prop) : Prop where
  refl : ∀ node, relation node node
  trans : ∀ {first second third}, relation first second → relation second third → relation first third
  set : ∀ {setting : Setting} {node changed}, setting.set? node = some changed → relation node changed
  listed : ∀ {block : Block} {node changed}, block.site node = .listed changed → relation node changed
  finish : ∀ {block : Block} {node frame opened closed}, block.site node = .inside frame opened →
    relation opened closed → relation node (block.finish node closed)

namespace Clause

section Relation

variable {relation : Node → Node → Prop}

theorem node_skipping (clauses : List Clause) (node : Node) (reporter : Reporter) (skipped : Outcome) :
    (skipping clauses node reporter skipped).node = node ∨
      (skipping clauses node reporter skipped).node = skipped.node := by
  unfold skipping
  cases firstFailure? clauses with
  | none => exact .inr rfl
  | some diagnostic => exact .inl rfl

mutual

/-- A respected relation holds between an expression and what a clause makes of it. -/
theorem apply_related (respected : Respects relation) :
    ∀ (clause : Clause) (node : Node) (reporter : Reporter), relation node (clause.apply node reporter).node
  | .setting what, node, reporter => by
      unfold apply
      cases changes : what.set? node with
      | some changed => exact respected.set changes
      | none => exact respected.refl node
  | .block what clauses, node, reporter => by
      unfold apply
      cases opens : what.site node with
      | misplaced =>
          rcases node_skipping clauses node reporter ⟨node, reportMisplaced what.call node reporter, none⟩ with
            kept | kept
          · simp only [kept]
            exact respected.refl node
          · simp only [kept]
            exact respected.refl node
      | listed changed =>
          rcases node_skipping clauses node reporter ⟨changed, reporter, none⟩ with kept | kept
          · simp only [kept]
            exact respected.refl node
          · simp only [kept]
            exact respected.listed opens
      | inside frame opened =>
          have inner := applyAll_related respected clauses opened (enterFrame frame reporter)
          have finished := respected.finish opens inner
          simp only [closing]
          split
          · exact finished
          · split
            · exact finished
            · exact respected.refl node
  | .failed _ _, node, _ => by
      unfold apply
      exact respected.refl node

/-- A respected relation holds between an expression and what clauses make of it. -/
theorem applyAll_related (respected : Respects relation) :
    ∀ (clauses : List Clause) (node : Node) (reporter : Reporter),
      relation node (applyAll clauses node reporter).node
  | [], node, _ => by
      unfold applyAll
      exact respected.refl node
  | clause :: rest, node, reporter => by
      have first := apply_related respected clause node reporter
      unfold applyAll
      cases outcome : clause.apply node reporter with
      | mk changed after failure =>
          rw [outcome] at first
          cases failure with
          | none => exact respected.trans first (applyAll_related respected rest changed after)
          | some diagnostic => exact first

end

end Relation

/-! ## Frames -/

@[simp] theorem frames_leaveFrame_enterFrame (frame : Option String) (reporter inner : Reporter)
    (kept : inner.frames = (enterFrame frame reporter).frames) :
    (leaveFrame frame inner).frames = reporter.frames := by
  cases frame with
  | none => simpa [leaveFrame, enterFrame] using kept
  | some name =>
      simp only [enterFrame, Reporter.enter] at kept
      simp [leaveFrame, Reporter.leave, kept]

theorem frames_skipping {clauses : List Clause} {node : Node} {reporter : Reporter} {skipped : Outcome}
    (kept : skipped.reporter.frames = reporter.frames) :
    (skipping clauses node reporter skipped).reporter.frames = reporter.frames := by
  unfold skipping
  cases firstFailure? clauses with
  | none => exact kept
  | some diagnostic => rfl

mutual

theorem frames_apply :
    ∀ (clause : Clause) (node : Node) (reporter : Reporter),
      (clause.apply node reporter).reporter.frames = reporter.frames
  | .setting what, node, reporter => by
      unfold apply
      cases what.set? node <;> rfl
  | .block what clauses, node, reporter => by
      unfold apply
      cases what.site node with
      | misplaced => exact frames_skipping rfl
      | listed changed => exact frames_skipping rfl
      | inside frame opened =>
          have inner := frames_applyAll clauses opened (enterFrame frame reporter)
          simp only [closing]
          split
          · exact frames_leaveFrame_enterFrame frame reporter _ inner
          · exact frames_leaveFrame_enterFrame frame reporter _ inner
  | .failed _ _, _, _ => by
      unfold apply
      rfl

/-- Whatever clauses do, the reporter comes out in the frames it went in with. -/
theorem frames_applyAll :
    ∀ (clauses : List Clause) (node : Node) (reporter : Reporter),
      (applyAll clauses node reporter).reporter.frames = reporter.frames
  | [], _, _ => by
      unfold applyAll
      rfl
  | clause :: rest, node, reporter => by
      have first := frames_apply clause node reporter
      unfold applyAll
      cases outcome : clause.apply node reporter with
      | mk changed after failure =>
          rw [outcome] at first
          cases failure with
          | none => exact (frames_applyAll rest changed after).trans first
          | some diagnostic => exact first

end

end Clause

/-! ## Earlier diagnostics -/

/-- The reporter with diagnostics recorded before its own. -/
def Reporter.behind (earlier : List Diagnostic) (reporter : Reporter) : Reporter :=
  { reporter with diagnostics := earlier ++ reporter.diagnostics }

/-- The outcome whose reporter has diagnostics recorded before its own. -/
def Outcome.behind (earlier : List Diagnostic) (outcome : Outcome) : Outcome :=
  { outcome with reporter := outcome.reporter.behind earlier }

namespace Clause

variable (earlier : List Diagnostic)

theorem reportMisplaced_behind (call : String) (node : Node) (reporter : Reporter) :
    reportMisplaced call node (reporter.behind earlier) = (reportMisplaced call node reporter).behind earlier := by
  simp [reportMisplaced, Reporter.reportCause, Reporter.report, Reporter.behind, Reporter.locate]

theorem enterFrame_behind (frame : Option String) (reporter : Reporter) :
    enterFrame frame (reporter.behind earlier) = (enterFrame frame reporter).behind earlier := by
  cases frame <;> rfl

theorem leaveFrame_behind (frame : Option String) (reporter : Reporter) :
    leaveFrame frame (reporter.behind earlier) = (leaveFrame frame reporter).behind earlier := by
  cases frame <;> rfl

theorem skipping_behind (clauses : List Clause) (node : Node) (reporter : Reporter) (skipped : Outcome) :
    skipping clauses node (reporter.behind earlier) (skipped.behind earlier) =
      (skipping clauses node reporter skipped).behind earlier := by
  unfold skipping
  cases firstFailure? clauses <;> rfl

theorem closing_behind (what : Block) (node : Node) (frame : Option String) (inner : Outcome) :
    closing what node frame (inner.behind earlier) = (closing what node frame inner).behind earlier := by
  unfold closing
  cases inner with
  | mk opened reporter failure =>
      cases failure with
      | none => simp only [Outcome.behind, leaveFrame_behind]
      | some diagnostic => simp only [Outcome.behind, leaveFrame_behind]

mutual

theorem apply_behind :
    ∀ (clause : Clause) (node : Node) (reporter : Reporter),
      clause.apply node (reporter.behind earlier) = (clause.apply node reporter).behind earlier
  | .setting what, node, reporter => by
      unfold apply
      cases what.set? node with
      | some changed => rfl
      | none => simp only [reportMisplaced_behind, Outcome.behind]
  | .block what clauses, node, reporter => by
      unfold apply
      cases what.site node with
      | misplaced =>
          simp only [reportMisplaced_behind]
          exact skipping_behind earlier clauses node reporter ⟨node, reportMisplaced what.call node reporter, none⟩
      | listed changed => exact skipping_behind earlier clauses node reporter ⟨changed, reporter, none⟩
      | inside frame opened =>
          simp only [enterFrame_behind]
          rw [applyAll_behind clauses opened (enterFrame frame reporter), closing_behind]
  | .failed _ _, _, _ => by
      unfold apply
      rfl

/-- Applying clauses adds to what was recorded earlier and otherwise ignores it. -/
theorem applyAll_behind :
    ∀ (clauses : List Clause) (node : Node) (reporter : Reporter),
      applyAll clauses node (reporter.behind earlier) = (applyAll clauses node reporter).behind earlier
  | [], _, _ => by
      unfold applyAll
      rfl
  | clause :: rest, node, reporter => by
      unfold applyAll
      rw [apply_behind clause node reporter]
      cases clause.apply node reporter with
      | mk changed after failure =>
          cases failure with
          | none => exact applyAll_behind rest changed after
          | some diagnostic => rfl

end

end Clause

end ApiDesign
