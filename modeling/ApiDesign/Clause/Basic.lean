import ApiDesign.Clause.Block
import ApiDesign.Reporter

/-!
Contract: clauses, the calls of which a declaration is built, and their application.

A clause sets one thing, or holds clauses for what it opens, or is a call that cannot be carried out (`failed`), such
as one with malformed arguments. Applying a clause changes an expression and may report. Two things go wrong in two
ways: a misplaced clause is reported and skipped whole; a failed one ends the declaration, wherever it is nested. So
skipping a block first looks for a failed clause in it.

Owns: the clauses, `firstFailure?`, `apply`, `applyAll`.
Does not own: the effects (`Clause.Setting`, `Clause.Block`), the arguments (`Clause.Arguments`).
-/

namespace ApiDesign

inductive Clause where
  | setting (setting : Setting)
  | block (block : Block) (clauses : List Clause)
  | failed (call : String) (diagnostic : Diagnostic)
deriving Repr

/-- What applying clauses leaves: the expression, the reporter, and the diagnostic that ended it, if one did. -/
structure Outcome where
  node : Node
  reporter : Reporter
  failure : Option Diagnostic := none
deriving Repr

namespace Clause

def call : Clause → String
  | .setting what => what.call
  | .block what _ => what.call
  | .failed name _ => name

mutual

/-- The diagnostic of the first failed clause in a clause, itself included, in reading order. -/
def failure? : Clause → Option Diagnostic
  | .setting _ => none
  | .block _ clauses => firstFailure? clauses
  | .failed _ diagnostic => some diagnostic

/-- The diagnostic of the first failed clause among clauses and inside them. -/
def firstFailure? : List Clause → Option Diagnostic
  | [] => none
  | clause :: rest => (failure? clause).or (firstFailure? rest)

end

/-- Skips a block: fails with the first failure in it, or else answers the given outcome. -/
def skipping (clauses : List Clause) (node : Node) (reporter : Reporter) (skipped : Outcome) : Outcome :=
  match firstFailure? clauses with
  | some diagnostic => ⟨node, reporter, some (reporter.locate diagnostic)⟩
  | none => skipped

/-- Reports a call for which an expression has no place. -/
def reportMisplaced (call : String) (node : Node) (reporter : Reporter) : Reporter :=
  reporter.reportCause (.misplacedCall call node.kind.keyword)

/-- Goes into the frame of a block, if it has one. -/
def enterFrame (frame : Option String) (reporter : Reporter) : Reporter :=
  match frame with
  | some frame => reporter.enter frame
  | none => reporter

/-- Goes out of the frame of a block, if it has one. -/
def leaveFrame (frame : Option String) (reporter : Reporter) : Reporter :=
  match frame with
  | some _ => reporter.leave
  | none => reporter

/-- The outcome of a block from the outcome of its clauses on what it opened. -/
def closing (what : Block) (node : Node) (frame : Option String) (inner : Outcome) : Outcome :=
  match inner.failure with
  | none => ⟨what.finish node inner.node, leaveFrame frame inner.reporter, none⟩
  | some diagnostic =>
      ⟨if what.opensInPlace then what.finish node inner.node else node, leaveFrame frame inner.reporter,
        some diagnostic⟩

mutual

/-- Applies a clause to an expression. -/
def apply : Clause → Node → Reporter → Outcome
  | .setting what, node, reporter =>
      match what.set? node with
      | some changed => ⟨changed, reporter, none⟩
      | none => ⟨node, reportMisplaced what.call node reporter, none⟩
  | .block what clauses, node, reporter =>
      match what.site node with
      | .misplaced =>
          skipping clauses node reporter ⟨node, reportMisplaced what.call node reporter, none⟩
      | .listed changed => skipping clauses node reporter ⟨changed, reporter, none⟩
      | .inside frame opened =>
          closing what node frame (applyAll clauses opened (enterFrame frame reporter))
  | .failed _ diagnostic, node, reporter => ⟨node, reporter, some (reporter.locate diagnostic)⟩

/-- Applies clauses in order, up to the first that fails. -/
def applyAll : List Clause → Node → Reporter → Outcome
  | [], node, reporter => ⟨node, reporter, none⟩
  | clause :: rest, node, reporter =>
      match apply clause node reporter with
      | ⟨changed, after, none⟩ => applyAll rest changed after
      | ⟨changed, after, some diagnostic⟩ => ⟨changed, after, some diagnostic⟩

end

end Clause

end ApiDesign
