import ApiDesign.Diagnostic

/-!
Contract: recording diagnostics while a scan goes on.

A reporter holds the frames of the expressions the scan is in, outermost first, and the diagnostics recorded so far.
A diagnostic is recorded under the frames of that moment, unless it is located already.
-/

namespace ApiDesign

/-- The frames of a scan and what it has found. -/
structure Reporter where
  frames : List String := []
  diagnostics : List Diagnostic := []
deriving DecidableEq, Repr

namespace Reporter

def enter (frame : String) (reporter : Reporter) : Reporter :=
  { reporter with frames := reporter.frames ++ [frame] }

/-- Goes out of the innermost expression; outside all of them, stays there. -/
def leave (reporter : Reporter) : Reporter :=
  { reporter with frames := reporter.frames.dropLast }

/-- Gives a diagnostic the frames of this moment, unless it is located already. -/
def locate (reporter : Reporter) (diagnostic : Diagnostic) : Diagnostic :=
  diagnostic.locate reporter.frames

/-- Records a diagnostic at the frames of this moment. -/
def report (diagnostic : Diagnostic) (reporter : Reporter) : Reporter :=
  { reporter with diagnostics := reporter.diagnostics ++ [reporter.locate diagnostic] }

/-- Records the cause of a diagnostic at the frames of this moment. -/
def reportCause (cause : Cause) (reporter : Reporter) : Reporter :=
  reporter.report ⟨cause, none⟩

/-- Adds diagnostics recorded elsewhere, as they are. -/
def absorb (diagnostics : List Diagnostic) (reporter : Reporter) : Reporter :=
  { reporter with diagnostics := reporter.diagnostics ++ diagnostics }

def hasDiagnostics (reporter : Reporter) : Bool := !reporter.diagnostics.isEmpty

end Reporter

end ApiDesign
