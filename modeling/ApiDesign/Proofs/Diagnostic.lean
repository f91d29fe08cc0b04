import ApiDesign.Diagnostic

/-!
Contract: where a diagnostic is located.

A diagnostic is located below a trail if its own trail begins with it. What is located below a longer trail is located
below the shorter one; below a single frame, that frame is the outermost one.

Owns: `Diagnostic.IsWithin`, `AllWithin`, what is left out with an outermost frame.
Does not own: which diagnostics are located where (`Proofs.Clause.Trails`, `Proofs.Evaluation.Trails`).
-/

namespace ApiDesign

namespace Diagnostic

variable {diagnostic : Diagnostic} {trail : List String}

/-- The trail of the diagnostic begins with these frames. -/
def IsWithin (trail : List String) (diagnostic : Diagnostic) : Prop :=
  ∃ inner, diagnostic.trail = some (trail ++ inner)

theorem isWithin_located (trail : List String) (cause : Cause) : (located trail cause).IsWithin trail :=
  ⟨[], by simp [located]⟩

/-- What is located below a longer trail is located below its beginning. -/
theorem IsWithin.of_append {inner : List String} (within : diagnostic.IsWithin (trail ++ inner)) :
    diagnostic.IsWithin trail := by
  obtain ⟨rest, isTrail⟩ := within
  exact ⟨inner ++ rest, by rw [isTrail, List.append_assoc]⟩

theorem IsWithin.root?_eq {frame : String} (within : diagnostic.IsWithin (frame :: trail)) :
    diagnostic.root? = some frame := by
  obtain ⟨inner, isTrail⟩ := within
  rw [root?, isTrail]
  rfl

/-- The outermost frame is another one. -/
def isOutside (frame : String) (diagnostic : Diagnostic) : Bool := diagnostic.root? != some frame

end Diagnostic

/-- All diagnostics are located below a trail. -/
def AllWithin (trail : List String) (diagnostics : List Diagnostic) : Prop :=
  ∀ diagnostic ∈ diagnostics, diagnostic.IsWithin trail

namespace AllWithin

variable {trail inner : List String} {diagnostics others : List Diagnostic}

theorem nil : AllWithin trail [] := by simp [AllWithin]

theorem append (first : AllWithin trail diagnostics) (second : AllWithin trail others) :
    AllWithin trail (diagnostics ++ others) :=
  List.forall_mem_append.mpr ⟨first, second⟩

theorem flatMap {α : Type} {items : List α} {find : α → List Diagnostic}
    (each : ∀ item ∈ items, AllWithin trail (find item)) : AllWithin trail (items.flatMap find) := by
  intro diagnostic member
  obtain ⟨item, inItems, found⟩ := List.mem_flatMap.mp member
  exact each item inItems diagnostic found

/-- Diagnostics of some causes at one place. -/
theorem map_located {α : Type} (items : List α) (cause : α → Cause) :
    AllWithin trail (items.map fun item => .located trail (cause item)) := by
  intro diagnostic member
  obtain ⟨item, _, rfl⟩ := List.mem_map.mp member
  exact Diagnostic.isWithin_located trail (cause item)

theorem singleton (cause : Cause) : AllWithin trail [.located trail cause] := by
  simpa [AllWithin] using Diagnostic.isWithin_located trail cause

theorem of_append (all : AllWithin (trail ++ inner) diagnostics) : AllWithin trail diagnostics :=
  fun diagnostic member => (all diagnostic member).of_append

/-- Below another frame, everything is outside. -/
theorem filter_isOutside {frame other : String} (all : AllWithin [frame] diagnostics) (different : frame ≠ other) :
    diagnostics.filter (·.isOutside other) = diagnostics :=
  List.filter_eq_self.mpr fun diagnostic member => by
    simpa [Diagnostic.isOutside, (all diagnostic member).root?_eq] using different

/-- Below the frame itself, nothing is. -/
theorem filter_isOutside_self {frame : String} (all : AllWithin [frame] diagnostics) :
    diagnostics.filter (·.isOutside frame) = [] :=
  List.filter_eq_nil_iff.mpr fun diagnostic member => by
    simp [Diagnostic.isOutside, (all diagnostic member).root?_eq]

end AllWithin

end ApiDesign
