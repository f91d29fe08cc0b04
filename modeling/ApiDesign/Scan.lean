import ApiDesign.Reporter

/-!
Contract: scans, which go over a design and report to a reporter on the way.

A scan answers something and hands on the reporter. What it reports is located at the frames of that moment; a scan
inside an expression enters its frame before and leaves it afterwards.

Owns: the steps of scans.
Does not own: what is looked for (`Evaluation.Checking`, `Evaluation.Linking`).
-/

namespace ApiDesign

/-- Something that is computed while a reporter is handed on. -/
abbrev Scan := StateM Reporter

namespace Scan

/-- Reports a cause at the frames of this moment. -/
def report (cause : Cause) : Scan Unit := modify (Reporter.reportCause cause)

/-- Adds diagnostics that are located already. -/
def absorb (diagnostics : List Diagnostic) : Scan Unit := modify (Reporter.absorb diagnostics)

/-- Scans inside the expression of a frame. -/
def within {α : Type} (frame : String) (scan : Scan α) : Scan α := do
  modify (Reporter.enter frame)
  let answer ← scan
  modify Reporter.leave
  return answer

/-- Scans with a reporter of its own, which is thrown away. -/
def unheard {α : Type} (scan : Scan α) : Scan α := return (scan.run {}).1

end Scan

end ApiDesign
