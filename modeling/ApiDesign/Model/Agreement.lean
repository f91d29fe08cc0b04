import ApiDesign.Model.Basic

/-!
Contract: whether two models say the same.

They do when all their parts are equal, where the bounds of validation rules are compared as numbers: a bound that is
not a number agrees with none, and the zeros of both signs agree.
-/

namespace ApiDesign

/-- Whether two lists have the same length and agree item by item. -/
def agreeEach {α : Type} (agree : α → α → Bool) : List α → List α → Bool
  | [], [] => true
  | left :: lefts, right :: rights => agree left right && agreeEach agree lefts rights
  | _, _ => false

def agreeOption {α : Type} (agree : α → α → Bool) : Option α → Option α → Bool
  | none, none => true
  | some left, some right => agree left right
  | _, _ => false

def Sample.agrees (left right : Sample) : Bool :=
  left.summary == right.summary && left.description == right.description &&
    agreeOption Value.same left.value right.value

/-- Whether the rules of two attributes agree. -/
def Validation.agrees (left right : Validation) : Bool :=
  left.minLength == right.minLength && left.maxLength == right.maxLength &&
    agreeOption Binary64.sameNumber left.minimum right.minimum &&
    agreeOption Binary64.sameNumber left.maximum right.maximum && left.pattern == right.pattern &&
    agreeEach Value.same left.values right.values && left.format == right.format && left.required == right.required

/-- Whether the details of two attributes agree. -/
def Details.agrees (left right : Details) : Bool :=
  left.description == right.description && left.docs == right.docs &&
    agreeOption Value.same left.defaultValue right.defaultValue &&
    agreeEach Sample.agrees left.samples right.samples && left.validation.agrees right.validation &&
    left.metadata == right.metadata && left.generateExamples == right.generateExamples

mutual

def Attribute.agrees : Attribute → Attribute → Bool
  | ⟨leftType, leftDetails⟩, ⟨rightType, rightDetails⟩ =>
      DataType.agrees leftType rightType && leftDetails.agrees rightDetails

def DataType.agrees : DataType → DataType → Bool
  | .primitive left, .primitive right => left == right
  | .array left, .array right => Attribute.agrees left right
  | .map leftKey left, .map rightKey right => Attribute.agrees leftKey rightKey && Attribute.agrees left right
  | .object left, .object right => DataType.agreeFields left right
  | .named left, .named right => left == right
  | .collection left, .collection right => left == right
  | _, _ => false

def DataType.agreeFields : List (String × Attribute) → List (String × Attribute) → Bool
  | [], [] => true
  | (leftName, left) :: lefts, (rightName, right) :: rights =>
      leftName == rightName && Attribute.agrees left right && DataType.agreeFields lefts rights
  | _, _ => false

end

def Host.agrees (left right : Host) : Bool :=
  left.name == right.name && left.description == right.description && left.uris == right.uris &&
    left.uriVariables.agrees right.uriVariables

def Server.agrees (left right : Server) : Bool :=
  left.name == right.name && left.description == right.description && left.services == right.services &&
    agreeEach Host.agrees left.hosts right.hosts

def Api.agrees (left right : Api) : Bool :=
  left.name == right.name && left.title == right.title && left.description == right.description &&
    left.version == right.version && left.termsOfService == right.termsOfService &&
    left.contact == right.contact && left.license == right.license && left.docs == right.docs &&
    agreeEach Server.agrees left.servers right.servers && left.metadata == right.metadata

def ErrorAnswer.agrees (left right : ErrorAnswer) : Bool :=
  left.name == right.name && left.shape.agrees right.shape && left.inherited == right.inherited

def Method.agrees (left right : Method) : Bool :=
  left.name == right.name && left.service == right.service && left.description == right.description &&
    left.docs == right.docs && left.metadata == right.metadata &&
    agreeOption Attribute.agrees left.payload right.payload &&
    agreeOption Attribute.agrees left.result right.result && agreeEach ErrorAnswer.agrees left.errors right.errors

def Service.agrees (left right : Service) : Bool :=
  left.name == right.name && left.description == right.description && left.docs == right.docs &&
    left.metadata == right.metadata && agreeEach Method.agrees left.methods right.methods &&
    agreeEach ErrorAnswer.agrees left.errors right.errors && agreeEach Server.agrees left.servers right.servers

def UserType.agrees (left right : UserType) : Bool :=
  left.name == right.name && left.shape.agrees right.shape

def ResultType.agrees (left right : ResultType) : Bool :=
  left.identifier == right.identifier && left.typeName == right.typeName && left.shape.agrees right.shape &&
    left.views == right.views && left.collection == right.collection

def Model.agrees (left right : Model) : Bool :=
  agreeOption Api.agrees left.api right.api &&
    agreeEach Service.agrees left.services.toList right.services.toList &&
    agreeEach UserType.agrees left.userTypes.toList right.userTypes.toList &&
    agreeEach ResultType.agrees left.resultTypes.toList right.resultTypes.toList

end ApiDesign
