import ApiDesign.Registry.Shapes
import ApiDesign.Schema.Acceptance
import ApiDesign.Value.Text

/-!
Contract: what is wrong with a prepared registry, as far as it can be seen without following references for good.

Each check lists its findings, located by the trail of frames that leads to the expression. Checks are independent:
no finding suppresses another one. Errors that a method has from its service are checked at the service only.
-/

namespace ApiDesign

/-- The names that occur more than once, each once, in the order of their second occurrence. -/
def repeatedFrom (seen reported : List String) : List String → List String
  | [] => []
  | name :: rest =>
      if seen.contains name then
        if reported.contains name then repeatedFrom seen reported rest
        else name :: repeatedFrom seen (name :: reported) rest
      else repeatedFrom (name :: seen) reported rest

/-- The names that occur more than once. -/
def repeatedNames (names : List String) : List String := repeatedFrom [] [] names

/-- A finding for each name that occurs more than once among expressions of a kind. -/
def duplicateFindings (trail : List String) (kind : Kind) (names : List String) : List Diagnostic :=
  (repeatedNames names).map fun name => .located trail (.duplicateName kind.keyword name)

/-! ## Attributes -/

/-- A default that the type does not accept. -/
def Vocabulary.defaultFindings (vocabulary : Vocabulary) (trail : List String) (node : Attribute) :
    List Diagnostic :=
  match node.details.defaultValue with
  | some value =>
      if vocabulary.accepts node.type value then []
      else [.located trail (.incompatibleDefault value.render node.typeName)]
  | none => []

/-- Required names that the type, whose aliases lead to something definite, has no field for. -/
def Vocabulary.requiredFindings (vocabulary : Vocabulary) (trail : List String) (node : Attribute) :
    List Diagnostic :=
  match vocabulary.fieldsOf? node.type with
  | some fields =>
      (node.required.filter fun name => !(fields.map Prod.fst).contains name).map fun name =>
        .located trail (.missingRequired name)
  | none => []

/-- What is wrong with one attribute, its parts aside. -/
def Vocabulary.nodeFindings (vocabulary : Vocabulary) (trail : List String) (node : Attribute) : List Diagnostic :=
  vocabulary.defaultFindings trail node ++ vocabulary.requiredFindings trail node ++
    duplicateFindings trail .attr (node.fields.map Prod.fst)

def Vocabulary.shapeFindings (vocabulary : Vocabulary) (trail : List String) (shape : Attribute) : List Diagnostic :=
  (shape.located trail).flatMap fun (nodeTrail, node) => vocabulary.nodeFindings nodeTrail node

/-! ## Hosts and servers -/

/-- A placeholder of a template has no variable. -/
def unmatchedParameter (parameter : String) : Cause :=
  .invalidUriVariable ("URI parameter \"" ++ parameter ++ "\" has no matching variable")

/-- A variable has no value to take. -/
def variableWithoutValue (name : String) : Cause :=
  .invalidUriVariable ("variable \"" ++ name ++ "\" needs a default value or an enum")

/-- Placeholders of the templates of a host without a variable, and variables without a value to take. -/
def Host.uriFindings (trail : List String) (host : Host) : List Diagnostic :=
  ((host.uriParameters.filter fun parameter => !host.uriVariables.hasField parameter).map fun parameter =>
    .located trail (unmatchedParameter parameter)) ++
  ((host.uriVariables.fields.filter fun (_, declared) =>
      declared.details.defaultValue.isNone && declared.details.validation.values.isEmpty).map fun (name, _) =>
    .located (trail ++ [Kind.attr.frame name]) (variableWithoutValue name))

def Host.findings (vocabulary : Vocabulary) (trail : List String) (host : Host) : List Diagnostic :=
  host.uriFindings trail ++ vocabulary.shapeFindings trail host.uriVariables

def Server.findings (vocabulary : Vocabulary) (trail : List String) (server : Server) : List Diagnostic :=
  duplicateFindings trail .host (server.hosts.map (·.name)) ++
    server.hosts.flatMap fun host => host.findings vocabulary (trail ++ [Kind.host.frame host.name])

def serverFindings (vocabulary : Vocabulary) (trail : List String) (servers : List Server) : List Diagnostic :=
  duplicateFindings trail .server (servers.map (·.name)) ++
    servers.flatMap fun server => server.findings vocabulary (trail ++ [Kind.server.frame server.name])

/-! ## Services -/

def errorFindings (vocabulary : Vocabulary) (trail : List String) (errors : List ErrorAnswer) : List Diagnostic :=
  errors.flatMap fun error => vocabulary.shapeFindings (trail ++ [Kind.error.frame error.name]) error.shape

/-- The errors that a method declares itself. -/
def Method.ownErrors (method : Method) : List ErrorAnswer := method.errors.filter fun error => !error.inherited

def Vocabulary.partFindings (vocabulary : Vocabulary) (trail : List String) (part : Option Attribute) :
    List Diagnostic :=
  part.toList.flatMap (vocabulary.shapeFindings trail)

def Method.findings (vocabulary : Vocabulary) (trail : List String) (method : Method) : List Diagnostic :=
  duplicateFindings trail .error (method.ownErrors.map (·.name)) ++
    vocabulary.partFindings (trail ++ [Frame.payload]) method.payload ++
    vocabulary.partFindings (trail ++ [Frame.result]) method.result ++
    errorFindings vocabulary trail method.ownErrors

def Service.findings (vocabulary : Vocabulary) (trail : List String) (service : Service) : List Diagnostic :=
  duplicateFindings trail .method (service.methods.map (·.name)) ++
    duplicateFindings trail .error (service.errors.map (·.name)) ++
    errorFindings vocabulary trail service.errors ++
    serverFindings vocabulary trail service.servers ++
    service.methods.flatMap fun method => method.findings vocabulary (trail ++ [Kind.method.frame method.name])

/-! ## Result types -/

/-- The result type at the end of the chain of elements, reached within a number of steps. -/
def Registry.innermostWithin? (registry : Registry) : Nat → ResultType → Option ResultType
  | 0, _ => none
  | steps + 1, resultType =>
      match resultType.collection with
      | none => some resultType
      | some facts =>
          match registry.resultType? facts.element.name with
          | some element => registry.innermostWithin? steps element
          | none => none

/-- The result type at the end of the chain of elements, which is no collection. A chain that never ends meets a
result type twice, so one step for each result type, and one, suffices. -/
def Registry.innermost? (registry : Registry) (resultType : ResultType) : Option ResultType :=
  registry.innermostWithin? (registry.resultTypes.length + 1) resultType

/-- The attributes that a view selects and fields do not have. -/
def View.findings (trail : List String) (fields : List (String × Attribute)) (view : View) : List Diagnostic :=
  (view.attributes.filter fun name => !(fields.map Prod.fst).contains name).map fun name =>
    .located (trail ++ [Kind.view.frame view.name]) (.undefinedAttribute view.name name)

/-- The selections of a result type that the shape of its innermost element does not have, as far as that shape is
known. -/
def Registry.selectionFindings (registry : Registry) (trail : List String) (resultType : ResultType) :
    List Diagnostic :=
  match (registry.innermost? resultType).bind fun element =>
      registry.vocabulary.fieldsOf? element.shape.type with
  | some fields => resultType.views.flatMap (View.findings trail fields)
  | none => []

def Registry.resultTypeFindings (registry : Registry) (resultType : ResultType) : List Diagnostic :=
  let trail := [Kind.resultType.frame resultType.identifier]
  registry.vocabulary.shapeFindings trail resultType.shape ++
    duplicateFindings trail .view (resultType.views.map (·.name)) ++
    (if !resultType.inheritsViews && !resultType.hasDefaultView then
      [.located trail (.missingDefaultView resultType.identifier)]
    else []) ++
    registry.selectionFindings trail resultType

/-! ## The registry -/

def Registry.findings (registry : Registry) : List Diagnostic :=
  (registry.api.toList.flatMap fun api =>
    serverFindings registry.vocabulary [Kind.api.frame api.name] api.servers) ++
  (registry.services.flatMap fun service =>
    service.findings registry.vocabulary [Kind.service.frame service.name]) ++
  (registry.userTypes.flatMap fun userType =>
    registry.vocabulary.shapeFindings [Kind.userType.frame userType.name] userType.shape) ++
  registry.resultTypes.flatMap registry.resultTypeFindings

end ApiDesign
