import ApiDesign.Api

/-!
Contract: services, their methods and the errors both may answer with.

An error without a type of its own has the built-in error type. Its qualifiers (temporary, timeout, fault) are marks
in the metadata of its shape.
-/

namespace ApiDesign

/-- The name of the built-in error type. -/
def errorResultName : String := "ErrorResult"

/-- What an error may be qualified as. -/
inductive Qualifier where
  | temporary | timeout | fault
deriving DecidableEq, Repr

/-- The name of the metadata mark of a qualifier. -/
def Qualifier.mark : Qualifier → String
  | .temporary => "error:temporary"
  | .timeout => "error:timeout"
  | .fault => "error:fault"

/-- An error answer. `inherited` tells that a method has it from its service. -/
structure ErrorAnswer where
  name : String
  shape : Attribute := .ofType (.reference errorResultName)
  inherited : Bool := false
deriving Repr

def ErrorAnswer.isQualified (qualifier : Qualifier) (error : ErrorAnswer) : Bool :=
  error.shape.details.metadata.contains qualifier.mark

structure Method where
  name : String
  service : String
  description : Option String := none
  docs : Option Docs := none
  metadata : Metadata := {}
  payload : Option Attribute := none
  result : Option Attribute := none
  errors : List ErrorAnswer := []
deriving Repr

def Method.error? (name : String) (method : Method) : Option ErrorAnswer :=
  method.errors.find? (·.name == name)

structure Service where
  name : String
  description : Option String := none
  docs : Option Docs := none
  metadata : Metadata := {}
  methods : List Method := []
  errors : List ErrorAnswer := []
  servers : List Server := []
deriving Repr

def Service.method? (name : String) (service : Service) : Option Method :=
  service.methods.find? (·.name == name)

end ApiDesign
