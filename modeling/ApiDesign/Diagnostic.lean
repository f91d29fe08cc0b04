/-!
Contract: what can be wrong with a design, where, and in which words.

A diagnostic is one cause with a trail. The trail lists the frames of the enclosing expressions, outermost first; a
diagnostic that nobody has located yet has none, which is not the same as an empty trail. Names in messages stand
between plain quotes, without escapes.

Owns: causes, diagnostics, their messages, the summary of several.
Does not own: the frames themselves (`Node`), the recording of diagnostics (`Reporter`).
-/

namespace ApiDesign

inductive Cause where
  | invalidArgument (call expected : String)
  | duplicateName (kind name : String)
  | missingRequired (name : String)
  | incompatibleDefault (value type : String)
  | unresolvedReference (name : String)
  | missingDefaultView (resultType : String)
  | misplacedCall (call parent : String)
  | undefinedAttribute (view name : String)
  | invalidUriVariable (text : String)
  | internal (text : String)
deriving DecidableEq, Repr

/-- The sort of a cause, without its particulars. -/
inductive CauseKind where
  | invalidArgument | duplicateName | missingRequired | incompatibleDefault | unresolvedReference
  | missingDefaultView | misplacedCall | undefinedAttribute | invalidUriVariable | internal
deriving DecidableEq, Repr

namespace Cause

def kind : Cause → CauseKind
  | .invalidArgument .. => .invalidArgument
  | .duplicateName .. => .duplicateName
  | .missingRequired _ => .missingRequired
  | .incompatibleDefault .. => .incompatibleDefault
  | .unresolvedReference _ => .unresolvedReference
  | .missingDefaultView _ => .missingDefaultView
  | .misplacedCall .. => .misplacedCall
  | .undefinedAttribute .. => .undefinedAttribute
  | .invalidUriVariable _ => .invalidUriVariable
  | .internal _ => .internal

/-- The particulars of a cause, in the order in which its message has them. -/
def particulars : Cause → List String
  | .invalidArgument call expected => [call, expected]
  | .duplicateName kind name => [kind, name]
  | .missingRequired name => [name]
  | .incompatibleDefault value type => [value, type]
  | .unresolvedReference name => [name]
  | .missingDefaultView resultType => [resultType]
  | .misplacedCall call parent => [call, parent]
  | .undefinedAttribute view name => [view, name]
  | .invalidUriVariable text => [text]
  | .internal text => [text]

/-- The cause of a sort with some particulars, if there are as many as it has. -/
def ofParticulars? : CauseKind → List String → Option Cause
  | .invalidArgument, [call, expected] => some (.invalidArgument call expected)
  | .duplicateName, [kind, name] => some (.duplicateName kind name)
  | .missingRequired, [name] => some (.missingRequired name)
  | .incompatibleDefault, [value, type] => some (.incompatibleDefault value type)
  | .unresolvedReference, [name] => some (.unresolvedReference name)
  | .missingDefaultView, [resultType] => some (.missingDefaultView resultType)
  | .misplacedCall, [call, parent] => some (.misplacedCall call parent)
  | .undefinedAttribute, [view, name] => some (.undefinedAttribute view name)
  | .invalidUriVariable, [text] => some (.invalidUriVariable text)
  | .internal, [text] => some (.internal text)
  | _, _ => none

/-- Sort and particulars determine a cause. -/
theorem ofParticulars?_particulars (cause : Cause) :
    ofParticulars? cause.kind cause.particulars = some cause := by
  cases cause <;> rfl

def message : Cause → String
  | .invalidArgument call expected => "invalid arguments in call to " ++ call ++ ": expected " ++ expected
  | .duplicateName kind name => "duplicate " ++ kind ++ " name \"" ++ name ++ "\""
  | .missingRequired name => "required attribute \"" ++ name ++ "\" is not defined"
  | .incompatibleDefault value type =>
      "default value " ++ value ++ " is incompatible with attribute of type " ++ type
  | .unresolvedReference name => "unresolved type reference \"" ++ name ++ "\""
  | .missingDefaultView resultType => "result type \"" ++ resultType ++ "\" has no default view"
  | .misplacedCall call parent => call ++ " cannot be used in " ++ parent
  | .undefinedAttribute view name =>
      "view \"" ++ view ++ "\" references undefined attribute \"" ++ name ++ "\""
  | .invalidUriVariable text => "invalid URI variable: " ++ text
  | .internal text => "internal error: " ++ text

end Cause

/-- A cause and, once it is located, the frames that enclose it, outermost first. -/
structure Diagnostic where
  cause : Cause
  trail : Option (List String) := none
deriving DecidableEq, Repr

/-- A trail in words: nothing for no frames. -/
def trailText (frames : List String) : String :=
  if frames.isEmpty then "" else "in " ++ " > ".intercalate frames

namespace Diagnostic

/-- The diagnostic of a cause with a trail. -/
def located (trail : List String) (cause : Cause) : Diagnostic := ⟨cause, some trail⟩

/-- The diagnostic with a trail, unless it has one already. -/
def locate (trail : List String) (diagnostic : Diagnostic) : Diagnostic :=
  match diagnostic.trail with
  | some _ => diagnostic
  | none => { diagnostic with trail := some trail }

/-- Whether a declaration must stop at this diagnostic. -/
def isFatal (diagnostic : Diagnostic) : Bool :=
  diagnostic.cause.kind == .invalidArgument

/-- The innermost frame: the expression the diagnostic is about. -/
def subject? (diagnostic : Diagnostic) : Option String :=
  diagnostic.trail.bind List.getLast?

/-- The outermost frame: the top-level declaration. -/
def root? (diagnostic : Diagnostic) : Option String :=
  diagnostic.trail.bind List.head?

/-- The diagnostic in words: the cause and, if there are frames, where. -/
def message (diagnostic : Diagnostic) : String :=
  match diagnostic.trail with
  | none | some [] => diagnostic.cause.message
  | some (frame :: frames) => diagnostic.cause.message ++ " (" ++ trailText (frame :: frames) ++ ")"

end Diagnostic

/-- Several diagnostics in words: a single one by itself, more of them counted and one on a line. -/
def summarize : List Diagnostic → String
  | [] => "no errors"
  | [diagnostic] => diagnostic.message
  | diagnostics =>
      toString diagnostics.length ++ " errors:" ++
        String.join (diagnostics.map fun diagnostic => "\n  " ++ diagnostic.message)

end ApiDesign
