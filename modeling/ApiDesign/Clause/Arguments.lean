import ApiDesign.Clause.Basic

/-!
Contract: the arguments of calls that declare attributes, and the calls of the design language.

An argument list is read in one of six shapes: nothing, clauses, a type, a type and clauses, a type and a
description, or all three. A text in the place of the type names a type. Any other list makes the call a failed
clause. The definitions of the second part are the calls by which designs are written.
-/

namespace ApiDesign

/-- An argument of a call that declares an attribute. -/
inductive Argument where
  | text (text : String)
  | type (type : DataType)
  | clauses (clauses : List Clause)
deriving Repr

/-- An argument list that was read. -/
structure Arguments where
  signature : Signature := {}
  clauses : List Clause := []
deriving Repr

/-- The type that an argument in the first place gives. -/
def Argument.type? : Argument → Option DataType
  | .type given => some given
  | .text name => some (.reference name)
  | .clauses _ => none

namespace Arguments

/-- The shapes besides the empty one, in words. -/
def someShapes : String := "(dsl), (type), (type, dsl), (type, description) or (type, description, dsl)"

/-- All shapes, in words. -/
def allShapes : String := "(), " ++ someShapes

/-- The diagnostic of a call whose arguments have another shape. -/
def malformed (call shapes : String) : Diagnostic := ⟨.invalidArgument call shapes, none⟩

def read (call : String) : List Argument → Except Diagnostic Arguments
  | [] => .ok {}
  | [.clauses clauses] => .ok ⟨{}, clauses⟩
  | first :: rest =>
      match first.type?, rest with
      | some type, [] => .ok ⟨⟨some type, none⟩, []⟩
      | some type, [.clauses clauses] => .ok ⟨⟨some type, none⟩, clauses⟩
      | some type, [.text description] => .ok ⟨⟨some type, some description⟩, []⟩
      | some type, [.text description, .clauses clauses] => .ok ⟨⟨some type, some description⟩, clauses⟩
      | _, _ => .error (malformed call allShapes)

def readSome (call : String) : List Argument → Except Diagnostic Arguments
  | [] => .error (malformed call someShapes)
  | arguments => read call arguments

end Arguments

namespace Clause

/-- The block with the signature and the clauses that were read, or the failed call. -/
def declaring (call : String) (block : Signature → Block) : Except Diagnostic Arguments → Clause
  | .ok arguments => .block (block arguments.signature) arguments.clauses
  | .error diagnostic => .failed call diagnostic

/-! ## Calls that declare attributes -/

def child (name : String) (arguments : List Argument) : Clause :=
  declaring "attribute" (.attr name) (Arguments.read "attribute" arguments)

def field (tag : Nat) (name : String) (arguments : List Argument) : Clause :=
  declaring "field" (.field tag name) (Arguments.read "field" arguments)

def hostVariable (name : String) (arguments : List Argument) : Clause :=
  declaring "variable" (.hostVariable name) (Arguments.read "variable" arguments)

def payload (arguments : List Argument) : Clause :=
  declaring "payload" .payload (Arguments.readSome "payload" arguments)

def result (arguments : List Argument) : Clause :=
  declaring "result" .result (Arguments.readSome "result" arguments)

def error (name : String) (arguments : List Argument) : Clause :=
  declaring "error" (.error name) (Arguments.read "error" arguments)

end Clause

end ApiDesign
