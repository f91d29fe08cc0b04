import ApiDesign.Evaluation.Findings
import ApiDesign.Proofs.Schema.Located

/-!
Contract: the shapes that a registry declares, and the frames below which each stands.

Every shape of a registry is declared in one place, but for the errors that methods have from their services, which
are copies. `Registry.DeclaresAt` says where each declared shape stands, kind of place by kind of place, and
`declaredShapes` lists them in the order of checking. Their nodes are the ones that checking is responsible for.

Owns: `Registry.DeclaresAt`, `Registry.HasAt`, and their lists.
Does not own: what is found at a node (`Proofs.Evaluation.Exactness`).
-/

namespace ApiDesign

/-! ## Places -/

namespace Registry

/-- A shape is declared below these frames. -/
inductive DeclaresAt (registry : Registry) : List String → Attribute → Prop
  | apiHost {api : Api} {server : Server} {host : Host} (isApi : registry.api = some api)
      (inApi : server ∈ api.servers) (inServer : host ∈ server.hosts) :
      DeclaresAt registry [Kind.api.frame api.name, Kind.server.frame server.name, Kind.host.frame host.name]
        host.uriVariables
  | serviceHost {service : Service} {server : Server} {host : Host} (inRegistry : service ∈ registry.services)
      (inService : server ∈ service.servers) (inServer : host ∈ server.hosts) :
      DeclaresAt registry [Kind.service.frame service.name, Kind.server.frame server.name, Kind.host.frame host.name]
        host.uriVariables
  | serviceError {service : Service} {error : ErrorAnswer} (inRegistry : service ∈ registry.services)
      (inService : error ∈ service.errors) :
      DeclaresAt registry [Kind.service.frame service.name, Kind.error.frame error.name] error.shape
  | payload {service : Service} {method : Method} {shape : Attribute} (inRegistry : service ∈ registry.services)
      (inService : method ∈ service.methods) (isPayload : method.payload = some shape) :
      DeclaresAt registry [Kind.service.frame service.name, Kind.method.frame method.name, Frame.payload] shape
  | result {service : Service} {method : Method} {shape : Attribute} (inRegistry : service ∈ registry.services)
      (inService : method ∈ service.methods) (isResult : method.result = some shape) :
      DeclaresAt registry [Kind.service.frame service.name, Kind.method.frame method.name, Frame.result] shape
  | methodError {service : Service} {method : Method} {error : ErrorAnswer} (inRegistry : service ∈ registry.services)
      (inService : method ∈ service.methods) (inMethod : error ∈ method.errors) (own : error.inherited = false) :
      DeclaresAt registry
        [Kind.service.frame service.name, Kind.method.frame method.name, Kind.error.frame error.name] error.shape
  | userType {userType : UserType} (inRegistry : userType ∈ registry.userTypes) :
      DeclaresAt registry [Kind.userType.frame userType.name] userType.shape
  | resultType {resultType : ResultType} (inRegistry : resultType ∈ registry.resultTypes) :
      DeclaresAt registry [Kind.resultType.frame resultType.identifier] resultType.shape

/-- A node stands at a path of frames, inside a shape that is declared. -/
def HasAt (registry : Registry) (path : List String) (node : Attribute) : Prop :=
  ∃ trail shape inner, registry.DeclaresAt trail shape ∧ shape.HasAt inner node ∧ path = trail ++ inner

end Registry

/-! ## Lists -/

/-- The variables of the hosts of servers, with their frames. -/
def hostShapes (trail : List String) (servers : List Server) : List (List String × Attribute) :=
  servers.flatMap fun server => server.hosts.map fun host =>
    (trail ++ [Kind.server.frame server.name] ++ [Kind.host.frame host.name], host.uriVariables)

/-- The shapes of errors, with their frames. -/
def errorShapes (trail : List String) (errors : List ErrorAnswer) : List (List String × Attribute) :=
  errors.map fun error => (trail ++ [Kind.error.frame error.name], error.shape)

def Method.declaredShapes (trail : List String) (method : Method) : List (List String × Attribute) :=
  method.payload.toList.map (fun shape => (trail ++ [Frame.payload], shape)) ++
    method.result.toList.map (fun shape => (trail ++ [Frame.result], shape)) ++
    errorShapes trail method.ownErrors

def Service.declaredShapes (trail : List String) (service : Service) : List (List String × Attribute) :=
  errorShapes trail service.errors ++ hostShapes trail service.servers ++
    service.methods.flatMap fun method => method.declaredShapes (trail ++ [Kind.method.frame method.name])

namespace Registry

/-- All declared shapes with the frames below which they stand. -/
def declaredShapes (registry : Registry) : List (List String × Attribute) :=
  (registry.api.toList.flatMap fun api => hostShapes [Kind.api.frame api.name] api.servers) ++
    (registry.services.flatMap fun service => service.declaredShapes [Kind.service.frame service.name]) ++
    (registry.userTypes.map fun userType => ([Kind.userType.frame userType.name], userType.shape)) ++
    registry.resultTypes.map fun resultType => ([Kind.resultType.frame resultType.identifier], resultType.shape)

/-- All nodes of declared shapes with the paths of frames that lead to them. -/
def locatedNodes (registry : Registry) : List (List String × Attribute) :=
  registry.declaredShapes.flatMap fun (trail, shape) => shape.located trail

variable {registry : Registry}

theorem mem_hostShapes {trail path : List String} {servers : List Server} {shape : Attribute} :
    (path, shape) ∈ hostShapes trail servers ↔ ∃ server ∈ servers, ∃ host ∈ server.hosts,
      path = trail ++ [Kind.server.frame server.name, Kind.host.frame host.name] ∧ shape = host.uriVariables := by
  simp [hostShapes, eq_comm]

theorem mem_errorShapes {trail path : List String} {errors : List ErrorAnswer} {shape : Attribute} :
    (path, shape) ∈ errorShapes trail errors ↔
      ∃ error ∈ errors, path = trail ++ [Kind.error.frame error.name] ∧ shape = error.shape := by
  simp [errorShapes, eq_comm]

theorem mem_declaredShapes_of_method {trail path : List String} {method : Method} {shape : Attribute} :
    (path, shape) ∈ method.declaredShapes trail ↔
      (path = trail ++ [Frame.payload] ∧ method.payload = some shape) ∨
      (path = trail ++ [Frame.result] ∧ method.result = some shape) ∨
      ∃ error ∈ method.errors, error.inherited = false ∧ path = trail ++ [Kind.error.frame error.name] ∧
        shape = error.shape := by
  simp only [Method.declaredShapes, List.mem_append, List.mem_map, Option.mem_toList, Prod.mk.injEq,
    mem_errorShapes, Method.ownErrors, List.mem_filter]
  grind

/-- The list has exactly the declared shapes, each below its frames. -/
theorem mem_declaredShapes_iff {trail : List String} {shape : Attribute} :
    (trail, shape) ∈ registry.declaredShapes ↔ registry.DeclaresAt trail shape := by
  simp only [declaredShapes, Service.declaredShapes, List.mem_append, List.mem_flatMap, List.mem_map,
    Option.mem_toList, Prod.mk.injEq, mem_hostShapes, mem_errorShapes, mem_declaredShapes_of_method]
  constructor
  · rintro (((⟨api, isApi, server, inApi, host, inServer, rfl, rfl⟩ | ⟨service, inRegistry, inService⟩) |
      ⟨userType, inRegistry, rfl, rfl⟩) | ⟨resultType, inRegistry, rfl, rfl⟩)
    · exact .apiHost isApi inApi inServer
    · rcases inService with (⟨error, inService, rfl, rfl⟩ | ⟨server, inService, host, inServer, rfl, rfl⟩) |
        ⟨method, inService, ⟨rfl, isPayload⟩ | ⟨rfl, isResult⟩ | ⟨error, inMethod, own, rfl, rfl⟩⟩
      · exact .serviceError inRegistry inService
      · exact .serviceHost inRegistry inService inServer
      · exact .payload inRegistry inService isPayload
      · exact .result inRegistry inService isResult
      · exact .methodError inRegistry inService inMethod own
    · exact .userType inRegistry
    · exact .resultType inRegistry
  · intro declares
    cases declares with
    | apiHost isApi inApi inServer => exact .inl (.inl (.inl ⟨_, isApi, _, inApi, _, inServer, rfl, rfl⟩))
    | serviceHost inRegistry inService inServer =>
        exact .inl (.inl (.inr ⟨_, inRegistry, .inl (.inr ⟨_, inService, _, inServer, rfl, rfl⟩)⟩))
    | serviceError inRegistry inService =>
        exact .inl (.inl (.inr ⟨_, inRegistry, .inl (.inl ⟨_, inService, rfl, rfl⟩)⟩))
    | payload inRegistry inService isPayload =>
        exact .inl (.inl (.inr ⟨_, inRegistry, .inr ⟨_, inService, .inl ⟨rfl, isPayload⟩⟩⟩))
    | result inRegistry inService isResult =>
        exact .inl (.inl (.inr ⟨_, inRegistry, .inr ⟨_, inService, .inr (.inl ⟨rfl, isResult⟩)⟩⟩))
    | methodError inRegistry inService inMethod own =>
        exact .inl (.inl (.inr
          ⟨_, inRegistry, .inr ⟨_, inService, .inr (.inr ⟨_, inMethod, own, rfl, rfl⟩)⟩⟩))
    | userType inRegistry => exact .inl (.inr ⟨_, inRegistry, rfl, rfl⟩)
    | resultType inRegistry => exact .inr ⟨_, inRegistry, rfl, rfl⟩

/-- The list has exactly the nodes of declared shapes, each at its path. -/
theorem mem_locatedNodes_iff {path : List String} {node : Attribute} :
    (path, node) ∈ registry.locatedNodes ↔ registry.HasAt path node := by
  simp only [locatedNodes, List.mem_flatMap, Prod.exists, Attribute.mem_located_iff, mem_declaredShapes_iff]
  constructor
  · rintro ⟨trail, shape, declares, inner, rfl, has⟩
    exact ⟨trail, shape, inner, declares, has, rfl⟩
  · rintro ⟨trail, shape, inner, declares, has, rfl⟩
    exact ⟨trail, shape, declares, inner, rfl, has⟩

end Registry

end ApiDesign
