import ApiDesign.Clause.Arguments
import ApiDesign.Registry.Basic

/-!
Contract: designs, built by one declaration after the other.

A declaration opens a fresh node under a frame, applies its clauses and registers the result. It fails on a blank
name, on malformed arguments and on a failed clause; then nothing is registered. A node that cannot be registered is
reported, and the declaration goes on as if it had been.

Owns: declarations, `Design.declare`, and `Design.declareAll`, which stops at the first failure.
-/

namespace ApiDesign

inductive Declaration where
  | api (name : String) (clauses : List Clause)
  | service (name : String) (clauses : List Clause)
  | userType (name : String) (arguments : List Argument)
  | resultType (identifier : String) (clauses : List Clause)
  | collectionOf (element : String) (clauses : List Clause)
deriving Repr

/-- A node at the beginning of its declaration: its frame and the clauses to apply to it. -/
structure Opening where
  frame : String
  node : Node
  clauses : List Clause
deriving Repr

namespace Declaration

def call : Declaration → String
  | .api .. => "api"
  | .service .. => "service"
  | .userType .. => "ty"
  | .resultType .. => "result_type"
  | .collectionOf .. => "collection_of"

def name : Declaration → String
  | .api given _ => given
  | .service given _ => given
  | .userType given _ => given
  | .resultType identifier _ => identifier
  | .collectionOf element _ => element

/-- What a declaration with a name begins with. -/
def begin : Declaration → Except Diagnostic Opening
  | .api given clauses => .ok ⟨Kind.api.frame given, .api { name := given }, clauses⟩
  | .service given clauses => .ok ⟨Kind.service.frame given, .service { name := given }, clauses⟩
  | .userType given arguments =>
      match Arguments.read "ty" arguments with
      | .ok parsed =>
          .ok ⟨Kind.userType.frame given, .userType ⟨given, parsed.signature.shape⟩, parsed.clauses⟩
      | .error diagnostic => .error { diagnostic with trail := some [Kind.userType.frame given] }
  | .resultType identifier clauses =>
      .ok ⟨Kind.resultType.frame identifier, .resultType (.named identifier), clauses⟩
  | .collectionOf element clauses =>
      .ok ⟨Kind.resultType.frame (ResultType.collectionIdentifier element), .resultType (.collectionOf element),
        clauses⟩

/-- What a declaration begins with; one with a blank name does not begin. -/
def opening (declaration : Declaration) : Except Diagnostic Opening :=
  if Text.isBlankText declaration.name then
    .error ⟨.invalidArgument declaration.call "a non-empty name", none⟩
  else declaration.begin

end Declaration

/-- The declaration that a node makes, if it is of a kind that can be declared. -/
def Node.root? : Node → Option Root
  | .api held => some (.api held)
  | .service held => some (.service held)
  | .userType held => some (.userType held)
  | .resultType held => some (.resultType held)
  | _ => none

/-- The declarations made so far and the diagnostics they left. -/
structure Design where
  registry : Registry := .initial
  reporter : Reporter := {}
deriving Repr

namespace Design

/-- Registers a node that was declared under a frame. -/
def register (frame : String) (node : Node) (design : Design) : Design :=
  match node.root? with
  | none => design
  | some root =>
      match design.registry.register root with
      | .ok registry => { design with registry := registry }
      | .error cause => { design with reporter := design.reporter.report (.located [frame] cause) }

/-- Makes a declaration. The diagnostic is the failure, if it failed. -/
def declare (declaration : Declaration) (design : Design) : Design × Option Diagnostic :=
  match declaration.opening with
  | .error diagnostic => (design, some diagnostic)
  | .ok opening =>
      let outcome := Clause.applyAll opening.clauses opening.node (design.reporter.enter opening.frame)
      let after : Design := { design with reporter := outcome.reporter.leave }
      match outcome.failure with
      | some diagnostic => (after, some diagnostic)
      | none => (after.register opening.frame outcome.node, none)

/-- Makes declarations in order, up to the first that fails. -/
def declareAll : List Declaration → Design → Design × Option Diagnostic
  | [], design => (design, none)
  | declaration :: rest, design =>
      match design.declare declaration with
      | (after, none) => declareAll rest after
      | (after, some diagnostic) => (after, some diagnostic)

def empty : Design := {}

end Design

end ApiDesign
