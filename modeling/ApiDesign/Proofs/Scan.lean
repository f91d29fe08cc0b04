import ApiDesign.Scan

/-!
Contract: what a scan answers and finds, whatever reporter it is handed.

A scan keeps the frames of its reporter and adds to the diagnostics; what it adds and what it answers depend on the
frames alone. `Scan.Yields` says this once for every step, so that a whole scan is known from its parts: one after
the other they find their findings one after the other, and inside a frame the findings stand below that frame.

Owns: `Scan.Yields` and its rules for the steps of scans.
Does not own: the scans of evaluation (`Proofs.Evaluation.Checking`, `Proofs.Evaluation.Linking`).
-/

namespace ApiDesign.Scan

variable {α β : Type} {answer : α} {other : β} {found more : List String → List Diagnostic}

/-- Under every reporter the scan gives this answer, keeps the frames and adds what it finds below them. -/
def Yields (scan : Scan α) (answer : α) (found : List String → List Diagnostic) : Prop :=
  ∀ reporter : Reporter, scan.run reporter = (answer, reporter.absorb (found reporter.frames))

namespace Yields

theorem frames {scan : Scan α} (yields : scan.Yields answer found) (reporter : Reporter) :
    (scan.run reporter).2.frames = reporter.frames := by
  rw [yields reporter]
  rfl

theorem congr {scan : Scan α} (yields : scan.Yields answer found) (same : ∀ trail, found trail = more trail) :
    scan.Yields answer more := by
  intro reporter
  rw [yields reporter, same]

theorem pure (answer : α) : Yields (Pure.pure answer) answer fun _ => [] := by
  intro reporter
  show (answer, reporter) = _
  simp [Reporter.absorb]

theorem report (cause : Cause) : Yields (Scan.report cause) () fun trail => [.located trail cause] := by
  intro reporter
  rfl

theorem absorb (diagnostics : List Diagnostic) : Yields (Scan.absorb diagnostics) () fun _ => diagnostics := by
  intro reporter
  rfl

/-- One scan after the other finds its findings after the other's. -/
theorem bind {scan : Scan α} {next : α → Scan β} (first : scan.Yields answer found)
    (second : (next answer).Yields other more) :
    Yields (scan >>= next) other fun trail => found trail ++ more trail := by
  intro reporter
  rw [StateT.run_bind, first reporter]
  show (next answer).run _ = _
  rw [second]
  simp [Reporter.absorb]

/-- Inside a frame, everything is found below that frame. -/
theorem within {scan : Scan α} (inside : scan.Yields answer found) (frame : String) :
    Yields (Scan.within frame scan) answer fun trail => found (trail ++ [frame]) := by
  intro reporter
  have left : (Scan.within frame scan).run reporter =
      ((scan.run (reporter.enter frame)).1, (scan.run (reporter.enter frame)).2.leave) := rfl
  rw [left, inside]
  simp [Reporter.enter, Reporter.leave, Reporter.absorb]

/-- Nothing is found by a scan that nobody hears. -/
theorem unheard {scan : Scan α} (yields : scan.Yields answer found) :
    Yields (Scan.unheard scan) answer fun _ => [] := by
  unfold Scan.unheard
  rw [yields]
  exact .pure answer

/-! ## Several scans -/

theorem forM {items : List α} {scan : α → Scan Unit} {found : α → List String → List Diagnostic}
    (each : ∀ item ∈ items, (scan item).Yields () (found item)) :
    Yields (items.forM scan) () fun trail => items.flatMap fun item => found item trail := by
  induction items with
  | nil => exact .pure ()
  | cons head rest inductionHypothesis =>
      have here := each head List.mem_cons_self
      have others := inductionHypothesis fun item member => each item (List.mem_cons_of_mem _ member)
      exact here.bind others

theorem mapM {items : List α} {scan : α → Scan β} {answer : α → β} {found : α → List String → List Diagnostic}
    (each : ∀ item ∈ items, (scan item).Yields (answer item) (found item)) :
    Yields (items.mapM scan) (items.map answer) fun trail => items.flatMap fun item => found item trail := by
  induction items with
  | nil => exact .pure []
  | cons head rest inductionHypothesis =>
      have here := each head List.mem_cons_self
      have others := inductionHypothesis fun item member => each item (List.mem_cons_of_mem _ member)
      rw [List.mapM_cons]
      exact congr (bind here (bind others (pure (answer head :: rest.map answer)))) fun trail => by simp

theorem optionForM {item : Option α} {scan : α → Scan Unit} {found : α → List String → List Diagnostic}
    (each : ∀ present ∈ item, (scan present).Yields () (found present)) :
    Yields (item.forM scan) () fun trail => item.toList.flatMap fun present => found present trail := by
  cases item with
  | none => exact .pure ()
  | some present => exact (each present rfl).congr fun trail => by simp

theorem optionMapM {item : Option α} {scan : α → Scan β} {answer : α → β}
    {found : α → List String → List Diagnostic}
    (each : ∀ present ∈ item, (scan present).Yields (answer present) (found present)) :
    Yields (item.mapM scan) (item.map answer) fun trail => item.toList.flatMap fun present => found present trail := by
  cases item with
  | none => exact .pure none
  | some present =>
      show Yields (some <$> scan present) _ _
      rw [map_eq_pure_bind]
      exact congr (bind (each present rfl) (pure (some (answer present)))) fun trail => by simp

/-- A report for each of some items. -/
theorem forM_report (items : List α) (cause : α → Cause) :
    Yields (items.forM fun item => Scan.report (cause item)) () fun trail =>
      items.map fun item => .located trail (cause item) :=
  (forM fun item _ => .report (cause item)).congr fun _ => List.map_eq_flatMap.symm

end Yields

end ApiDesign.Scan
