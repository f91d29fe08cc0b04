import ApiDesign.Evaluation.Findings
import ApiDesign.Scan

/-!
Contract: a prepared registry is checked under a reporter.

The check goes over the registry declaration by declaration, and over every attribute part by part, inside the frames
of what it goes through. A failure is reported where it stands and the scan goes on. Errors that a method has from its
service are checked at the service only.

Owns: the scan.
Does not own: what is wrong with one expression (`Evaluation.Findings`).
-/

namespace ApiDesign

/-- Reports each name that occurs more than once among expressions of a kind. -/
def Scan.reportDuplicates (kind : Kind) (names : List String) : Scan Unit :=
  (repeatedNames names).forM fun name => report (.duplicateName kind.keyword name)

/-! ## Attributes -/

/-- Reports a default that the type does not accept. -/
def Vocabulary.checkDefault (vocabulary : Vocabulary) (node : Attribute) : Scan Unit :=
  match node.details.defaultValue with
  | some value =>
      if vocabulary.accepts node.type value then pure ()
      else Scan.report (.incompatibleDefault value.render node.typeName)
  | none => pure ()

/-- Reports the required names that the type, whose aliases lead to something definite, has no field for. -/
def Vocabulary.checkRequired (vocabulary : Vocabulary) (node : Attribute) : Scan Unit :=
  match vocabulary.fieldsOf? node.type with
  | some fields =>
      (node.required.filter fun name => !(fields.map Prod.fst).contains name).forM fun name =>
        Scan.report (.missingRequired name)
  | none => pure ()

mutual

/-- Checks an attribute and everything inside it. -/
def Attribute.check (vocabulary : Vocabulary) : Attribute → Scan Unit
  | ⟨type, details⟩ => do
      vocabulary.checkDefault ⟨type, details⟩
      vocabulary.checkRequired ⟨type, details⟩
      type.checkParts vocabulary

/-- Checks everything inside a type. -/
def DataType.checkParts (vocabulary : Vocabulary) : DataType → Scan Unit
  | .primitive _ => pure ()
  | .array element => Scan.within Frame.element (element.check vocabulary)
  | .map key value => do
      Scan.within Frame.key (key.check vocabulary)
      Scan.within Frame.element (value.check vocabulary)
  | .object fields => do
      Scan.reportDuplicates .attr (fields.map Prod.fst)
      DataType.checkFields vocabulary fields
  | .named _ => pure ()
  | .collection _ => pure ()

/-- Checks everything inside fields. -/
def DataType.checkFields (vocabulary : Vocabulary) : List (String × Attribute) → Scan Unit
  | [] => pure ()
  | (name, child) :: rest => do
      Scan.within (Kind.attr.frame name) (child.check vocabulary)
      DataType.checkFields vocabulary rest

end

/-! ## Hosts and servers -/

def Host.check (vocabulary : Vocabulary) (host : Host) : Scan Unit := do
  (host.uriParameters.filter fun parameter => !host.uriVariables.hasField parameter).forM fun parameter =>
    Scan.report (unmatchedParameter parameter)
  (host.uriVariables.fields.filter fun (_, declared) =>
      declared.details.defaultValue.isNone && declared.details.validation.values.isEmpty).forM fun (name, _) =>
    Scan.within (Kind.attr.frame name) (Scan.report (variableWithoutValue name))
  host.uriVariables.check vocabulary

def Server.check (vocabulary : Vocabulary) (server : Server) : Scan Unit := do
  Scan.reportDuplicates .host (server.hosts.map (·.name))
  server.hosts.forM fun host => Scan.within (Kind.host.frame host.name) (host.check vocabulary)

def checkServers (vocabulary : Vocabulary) (servers : List Server) : Scan Unit := do
  Scan.reportDuplicates .server (servers.map (·.name))
  servers.forM fun server => Scan.within (Kind.server.frame server.name) (server.check vocabulary)

/-! ## Services -/

def checkErrors (vocabulary : Vocabulary) (errors : List ErrorAnswer) : Scan Unit :=
  errors.forM fun error => Scan.within (Kind.error.frame error.name) (error.shape.check vocabulary)

def Method.check (vocabulary : Vocabulary) (method : Method) : Scan Unit := do
  Scan.reportDuplicates .error (method.ownErrors.map (·.name))
  method.payload.forM fun payload => Scan.within Frame.payload (payload.check vocabulary)
  method.result.forM fun result => Scan.within Frame.result (result.check vocabulary)
  checkErrors vocabulary method.ownErrors

def Service.check (vocabulary : Vocabulary) (service : Service) : Scan Unit := do
  Scan.reportDuplicates .method (service.methods.map (·.name))
  Scan.reportDuplicates .error (service.errors.map (·.name))
  checkErrors vocabulary service.errors
  checkServers vocabulary service.servers
  service.methods.forM fun method => Scan.within (Kind.method.frame method.name) (method.check vocabulary)

/-! ## Result types -/

/-- Reports that there is no default view, unless the views are inherited. -/
def ResultType.checkDefaultView (resultType : ResultType) : Scan Unit :=
  if !resultType.inheritsViews && !resultType.hasDefaultView then
    Scan.report (.missingDefaultView resultType.identifier)
  else pure ()

/-- Reports the attributes that a view selects and fields do not have. -/
def View.check (fields : List (String × Attribute)) (view : View) : Scan Unit :=
  Scan.within (Kind.view.frame view.name)
    ((view.attributes.filter fun name => !(fields.map Prod.fst).contains name).forM fun name =>
      Scan.report (.undefinedAttribute view.name name))

/-- Reports the selections that the innermost element does not have, as far as its shape is known. -/
def Registry.checkSelections (registry : Registry) (resultType : ResultType) : Scan Unit :=
  match (registry.innermost? resultType).bind fun element =>
      registry.vocabulary.fieldsOf? element.shape.type with
  | some fields => resultType.views.forM (View.check fields)
  | none => pure ()

def Registry.checkResultType (registry : Registry) (resultType : ResultType) : Scan Unit := do
  resultType.shape.check registry.vocabulary
  Scan.reportDuplicates .view (resultType.views.map (·.name))
  resultType.checkDefaultView
  registry.checkSelections resultType

/-! ## The registry -/

def Registry.check (registry : Registry) : Scan Unit := do
  registry.api.forM fun api =>
    Scan.within (Kind.api.frame api.name) (checkServers registry.vocabulary api.servers)
  registry.services.forM fun service =>
    Scan.within (Kind.service.frame service.name) (service.check registry.vocabulary)
  registry.userTypes.forM fun userType =>
    Scan.within (Kind.userType.frame userType.name) (userType.shape.check registry.vocabulary)
  registry.resultTypes.forM fun resultType =>
    Scan.within (Kind.resultType.frame resultType.identifier) (registry.checkResultType resultType)

end ApiDesign
