import ApiDesign.Proofs.Clause.Failure
import ApiDesign.Proofs.Diagnostic

/-!
Contract: what clauses record, and where it is located.

A reporter locates at the frames of the moment what nobody has located yet. A clause records misplaced calls only: at
the frames it was applied under or, inside the frame that it opens, below them; and it comes out in the frames it went
in with. So everything that clauses record is a misplaced call below the frames they were applied under.

Owns: `Clause.AreMisplaced`, `Clause.Records`, what the clauses of a declaration record.
Does not own: that frames are kept (`Proofs.Clause.Application`), which failure ends a declaration
(`Proofs.Clause.Failure`).
-/

namespace ApiDesign

namespace Clause

/-- The diagnostics are calls for which there was no place. -/
def AreMisplaced (diagnostics : List Diagnostic) : Prop :=
  ∀ diagnostic ∈ diagnostics, diagnostic.cause.kind = .misplacedCall

/-- A reporter has recorded since, if anything, misplaced calls below the frames it was in. -/
def Records (before after : Reporter) : Prop :=
  ∃ recorded, after.diagnostics = before.diagnostics ++ recorded ∧ AreMisplaced recorded ∧
    AllWithin before.frames recorded

namespace Records

variable {first second third : Reporter}

theorem refl (reporter : Reporter) : Records reporter reporter := ⟨[], by simp, by simp [AreMisplaced], .nil⟩

theorem trans (left : Records first second) (sameFrames : second.frames = first.frames)
    (right : Records second third) : Records first third := by
  obtain ⟨earlier, toSecond, earlierMisplaced, earlierWithin⟩ := left
  obtain ⟨later, toThird, laterMisplaced, laterWithin⟩ := right
  rw [sameFrames] at laterWithin
  exact ⟨earlier ++ later, by rw [toThird, toSecond, List.append_assoc],
    List.forall_mem_append.mpr ⟨earlierMisplaced, laterMisplaced⟩, earlierWithin.append laterWithin⟩

/-- What is recorded inside a frame is recorded below the frames around it. -/
theorem of_enterFrame {frame : Option String} (records : Records (enterFrame frame first) second) :
    Records first second := by
  cases frame with
  | none => exact records
  | some name =>
      obtain ⟨recorded, toSecond, misplaced, within⟩ := records
      exact ⟨recorded, toSecond, misplaced, within.of_append⟩

end Records

theorem records_reportMisplaced (call : String) (node : Node) (reporter : Reporter) :
    Records reporter (reportMisplaced call node reporter) := by
  refine ⟨_, rfl, ?_, .singleton _⟩
  intro diagnostic member
  rw [List.mem_singleton.mp member, Reporter.cause_locate]
  rfl

theorem records_skipping {clauses : List Clause} {node : Node} {reporter : Reporter} {skipped : Outcome}
    (records : Records reporter skipped.reporter) :
    Records reporter (skipping clauses node reporter skipped).reporter := by
  unfold skipping
  cases firstFailure? clauses with
  | none => exact records
  | some diagnostic => exact .refl reporter

theorem diagnostics_closing (what : Block) (node : Node) (frame : Option String) (inner : Outcome) :
    (closing what node frame inner).reporter.diagnostics = inner.reporter.diagnostics := by
  unfold closing
  cases inner.failure <;> cases frame <;> rfl

mutual

/-- A clause records misplaced calls below the frames it is applied under. -/
theorem records_apply :
    ∀ (clause : Clause) (node : Node) (reporter : Reporter),
      Records reporter (clause.apply node reporter).reporter
  | .setting what, node, reporter => by
      unfold apply
      cases what.set? node with
      | some changed => exact .refl reporter
      | none => exact records_reportMisplaced _ _ _
  | .block what clauses, node, reporter => by
      unfold apply
      cases what.site node with
      | misplaced => exact records_skipping (records_reportMisplaced _ _ _)
      | listed changed => exact records_skipping (.refl reporter)
      | inside frame opened =>
          obtain ⟨recorded, toInner, facts⟩ :=
            (records_applyAll clauses opened (enterFrame frame reporter)).of_enterFrame
          exact ⟨recorded, by rw [diagnostics_closing, toInner], facts⟩
  | .failed _ _, _, reporter => by
      unfold apply
      exact .refl reporter

theorem records_applyAll :
    ∀ (clauses : List Clause) (node : Node) (reporter : Reporter),
      Records reporter (applyAll clauses node reporter).reporter
  | [], _, reporter => .refl reporter
  | clause :: rest, node, reporter => by
      have first := records_apply clause node reporter
      have sameFrames := frames_apply clause node reporter
      unfold applyAll
      cases outcome : clause.apply node reporter with
      | mk changed after failure =>
          rw [outcome] at first sameFrames
          cases failure with
          | none => exact first.trans sameFrames (records_applyAll rest changed after)
          | some diagnostic => exact first

end

end Clause

end ApiDesign
