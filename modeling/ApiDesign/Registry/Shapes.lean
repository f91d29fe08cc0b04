import ApiDesign.Registry.Basic

/-!
Contract: all shapes of a registry, in one fixed order.

First come the variables of all hosts, those of the API before those of the services. Then come, service by service,
the errors of the service and of each method the payload, the result and the errors; then the user types; then the
result types. `shapes` lists them, `mapShapes` changes each, `traverse` visits every node inside them with a state.
-/

namespace ApiDesign

/-! ## Listing -/

/-- The variables of the hosts of a server. -/
def Server.shapes (server : Server) : List Attribute := server.hosts.map (·.uriVariables)

/-- The shapes of a method: payload, result, errors. -/
def Method.shapes (method : Method) : List Attribute :=
  method.payload.toList ++ method.result.toList ++ method.errors.map (·.shape)

/-- The shapes of a service besides the variables of its hosts. -/
def Service.ownShapes (service : Service) : List Attribute :=
  service.errors.map (·.shape) ++ service.methods.flatMap Method.shapes

/-- All servers, those of the API first. -/
def Registry.servers (registry : Registry) : List Server :=
  registry.api.toList.flatMap (·.servers) ++ registry.services.flatMap (·.servers)

def Registry.shapes (registry : Registry) : List Attribute :=
  registry.servers.flatMap Server.shapes ++ registry.services.flatMap Service.ownShapes ++
    registry.userTypes.map (·.shape) ++ registry.resultTypes.map (·.shape)

def Registry.nodes (registry : Registry) : List Attribute :=
  registry.shapes.flatMap Attribute.nodes

/-! ## Changing -/

def Host.mapShapes (change : Attribute → Attribute) (host : Host) : Host :=
  { host with uriVariables := change host.uriVariables }

def Server.mapShapes (change : Attribute → Attribute) (server : Server) : Server :=
  { server with hosts := server.hosts.map (Host.mapShapes change) }

def Api.mapShapes (change : Attribute → Attribute) (api : Api) : Api :=
  { api with servers := api.servers.map (Server.mapShapes change) }

def ErrorAnswer.mapShape (change : Attribute → Attribute) (error : ErrorAnswer) : ErrorAnswer :=
  { error with shape := change error.shape }

def Method.mapShapes (change : Attribute → Attribute) (method : Method) : Method :=
  { method with
    payload := method.payload.map change
    result := method.result.map change
    errors := method.errors.map (ErrorAnswer.mapShape change) }

def Service.mapShapes (change : Attribute → Attribute) (service : Service) : Service :=
  { service with
    methods := service.methods.map (Method.mapShapes change)
    errors := service.errors.map (ErrorAnswer.mapShape change)
    servers := service.servers.map (Server.mapShapes change) }

def UserType.mapShape (change : Attribute → Attribute) (userType : UserType) : UserType :=
  { userType with shape := change userType.shape }

def ResultType.mapShape (change : Attribute → Attribute) (resultType : ResultType) : ResultType :=
  { resultType with shape := change resultType.shape }

/-- The registry with every shape changed. -/
def Registry.mapShapes (change : Attribute → Attribute) (registry : Registry) : Registry :=
  { registry with
    api := registry.api.map (Api.mapShapes change)
    services := registry.services.map (Service.mapShapes change)
    userTypes := registry.userTypes.map (UserType.mapShape change)
    resultTypes := registry.resultTypes.map (ResultType.mapShape change) }

/-! ## Visiting with a state -/

/-- Visits the items of a list in order, handing a state along. -/
def visitEach {α σ : Type} (visit : α → σ → α × σ) : List α → σ → List α × σ
  | [], state => ([], state)
  | item :: rest, state =>
      let (newItem, afterItem) := visit item state
      let (newRest, afterRest) := visitEach visit rest afterItem
      (newItem :: newRest, afterRest)

def visitOption {α σ : Type} (visit : α → σ → α × σ) : Option α → σ → Option α × σ
  | none, state => (none, state)
  | some item, state =>
      let (newItem, afterItem) := visit item state
      (some newItem, afterItem)

section Visiting

variable {σ : Type} (visit : Attribute → σ → Attribute × σ)

def Server.visitShapes (server : Server) (state : σ) : Server × σ :=
  let (hosts, after) := visitEach (fun host state =>
    let (changed, after) := visit host.uriVariables state
    ({ host with uriVariables := changed }, after)) server.hosts state
  ({ server with hosts := hosts }, after)

def ErrorAnswer.visitShape (error : ErrorAnswer) (state : σ) : ErrorAnswer × σ :=
  let (shape, after) := visit error.shape state
  ({ error with shape := shape }, after)

def Method.visitShapes (method : Method) (state : σ) : Method × σ :=
  let (payload, afterPayload) := visitOption visit method.payload state
  let (result, afterResult) := visitOption visit method.result afterPayload
  let (errors, afterErrors) := visitEach (ErrorAnswer.visitShape visit) method.errors afterResult
  ({ method with payload := payload, result := result, errors := errors }, afterErrors)

def Service.visitServers (service : Service) (state : σ) : Service × σ :=
  let (servers, after) := visitEach (Server.visitShapes visit) service.servers state
  ({ service with servers := servers }, after)

def Service.visitOwnShapes (service : Service) (state : σ) : Service × σ :=
  let (errors, afterErrors) := visitEach (ErrorAnswer.visitShape visit) service.errors state
  let (methods, afterMethods) := visitEach (Method.visitShapes visit) service.methods afterErrors
  ({ service with errors := errors, methods := methods }, afterMethods)

def Api.visitServers (api : Api) (state : σ) : Api × σ :=
  let (servers, after) := visitEach (Server.visitShapes visit) api.servers state
  ({ api with servers := servers }, after)

def Registry.visitShapes (registry : Registry) (state : σ) : Registry × σ :=
  let (api, afterApi) := visitOption (Api.visitServers visit) registry.api state
  let (services, afterServers) := visitEach (Service.visitServers visit) registry.services afterApi
  let (services, afterServices) := visitEach (Service.visitOwnShapes visit) services afterServers
  let (userTypes, afterUserTypes) := visitEach (fun userType state =>
    let (shape, after) := visit userType.shape state
    (({ userType with shape := shape } : UserType), after)) registry.userTypes afterServices
  let (resultTypes, afterResultTypes) := visitEach (fun resultType state =>
    let (shape, after) := visit resultType.shape state
    (({ resultType with shape := shape } : ResultType), after)) registry.resultTypes afterUserTypes
  ({ registry with api := api, services := services, userTypes := userTypes, resultTypes := resultTypes },
    afterResultTypes)

end Visiting

def Registry.traverse {σ : Type} (visit : Attribute → σ → Details × σ) (registry : Registry) (state : σ) :
    Registry × σ :=
  registry.visitShapes (Attribute.traverse visit) state

end ApiDesign
