import ApiDesign.Evaluation.Links
import ApiDesign.Scan

/-!
Contract: the references of a registry are linked under a reporter.

The scan goes over the registry declaration by declaration, and over every attribute part by part, inside the frames
of what it goes through. It links each reference whose name the index knows and reports each other one. Errors that a
method has from its service are linked unheard: what cannot be linked in them is reported at the service.

Owns: the scan.
Does not own: what linking makes of a reference (`Evaluation.Links`).
-/

namespace ApiDesign

/-! ## Attributes -/

/-- Links a reference, or reports that its name refers to nothing. -/
def TypeRef.connect (index : TypeIndex) (reference : TypeRef) : Scan TypeRef :=
  match index.find? reference.name with
  | some target => pure (reference.resolve target)
  | none => do
      Scan.report (.unresolvedReference reference.name)
      return reference

mutual

/-- Links every reference inside an attribute. -/
def Attribute.connect (index : TypeIndex) : Attribute → Scan Attribute
  | ⟨type, details⟩ => do return ⟨← type.connect index, details⟩

/-- Links every reference inside a type. A shortcut that is still there has no element. -/
def DataType.connect (index : TypeIndex) : DataType → Scan DataType
  | .primitive builtIn => pure (.primitive builtIn)
  | .array element => do return .array (← Scan.within Frame.element (element.connect index))
  | .map key value => do
      let newKey ← Scan.within Frame.key (key.connect index)
      let newValue ← Scan.within Frame.element (value.connect index)
      return .map newKey newValue
  | .object fields => do return .object (← DataType.connectFields index fields)
  | .named reference => do return .named (← reference.connect index)
  | .collection reference => do
      Scan.report (.unresolvedReference reference.name)
      return .collection reference

/-- Links every reference inside fields. -/
def DataType.connectFields (index : TypeIndex) : List (String × Attribute) → Scan (List (String × Attribute))
  | [] => pure []
  | (name, child) :: rest => do
      let newChild ← Scan.within (Kind.attr.frame name) (child.connect index)
      let newRest ← DataType.connectFields index rest
      return (name, newChild) :: newRest

end

/-! ## Declarations -/

def Host.connect (index : TypeIndex) (host : Host) : Scan Host := do
  return { host with uriVariables := ← host.uriVariables.connect index }

def Server.connect (index : TypeIndex) (server : Server) : Scan Server := do
  return { server with
    hosts := ← server.hosts.mapM fun host => Scan.within (Kind.host.frame host.name) (host.connect index) }

def connectServers (index : TypeIndex) (servers : List Server) : Scan (List Server) :=
  servers.mapM fun server => Scan.within (Kind.server.frame server.name) (server.connect index)

def ErrorAnswer.connectShape (index : TypeIndex) (error : ErrorAnswer) : Scan Attribute :=
  if error.inherited then Scan.unheard (error.shape.connect index)
  else Scan.within (Kind.error.frame error.name) (error.shape.connect index)

def ErrorAnswer.connect (index : TypeIndex) (error : ErrorAnswer) : Scan ErrorAnswer := do
  return { error with shape := ← error.connectShape index }

def Method.connect (index : TypeIndex) (method : Method) : Scan Method := do
  let payload ← method.payload.mapM fun payload => Scan.within Frame.payload (payload.connect index)
  let result ← method.result.mapM fun result => Scan.within Frame.result (result.connect index)
  let errors ← method.errors.mapM (ErrorAnswer.connect index)
  return { method with payload := payload, result := result, errors := errors }

def Service.connect (index : TypeIndex) (service : Service) : Scan Service := do
  let servers ← connectServers index service.servers
  let errors ← service.errors.mapM (ErrorAnswer.connect index)
  let methods ← service.methods.mapM fun method =>
    Scan.within (Kind.method.frame method.name) (method.connect index)
  return { service with methods := methods, errors := errors, servers := servers }

def Api.connect (index : TypeIndex) (api : Api) : Scan Api := do
  return { api with servers := ← connectServers index api.servers }

def UserType.connect (index : TypeIndex) (userType : UserType) : Scan UserType := do
  return { userType with shape := ← userType.shape.connect index }

/-- Links a result type. A collection without an element is reported and stays as it is: its shape only wraps the
element. -/
def ResultType.connect (index : TypeIndex) (resultType : ResultType) : Scan ResultType :=
  match resultType.collection with
  | none => do return { resultType with shape := ← resultType.shape.connect index }
  | some facts =>
      match facts.elementTarget? index with
      | some target => do
          let shape ← resultType.shape.connect index
          return { resultType with
            shape := shape
            collection := some { facts with element := facts.element.resolve target } }
      | none => do
          Scan.report (.unresolvedReference facts.element.name)
          return resultType

def Registry.connect (index : TypeIndex) (registry : Registry) : Scan Registry := do
  let api ← registry.api.mapM fun api => Scan.within (Kind.api.frame api.name) (api.connect index)
  let services ← registry.services.mapM fun service =>
    Scan.within (Kind.service.frame service.name) (service.connect index)
  let userTypes ← registry.userTypes.mapM fun userType =>
    Scan.within (Kind.userType.frame userType.name) (userType.connect index)
  let resultTypes ← registry.resultTypes.mapM fun resultType =>
    Scan.within (Kind.resultType.frame resultType.identifier) (resultType.connect index)
  return { registry with api := api, services := services, userTypes := userTypes, resultTypes := resultTypes }

end ApiDesign
