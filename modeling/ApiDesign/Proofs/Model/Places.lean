import ApiDesign.Evaluation.Defaults
import ApiDesign.Proofs.Model.Links

/-!
Contract: a shape keeps its place through evaluation.

A `Holder` names one shape of a design by whom it belongs to: declarations by name, their parts by position. Each stage
of evaluation changes the shape at a holder in a known way or not at all, and sealing moves declarations but not what
is found under their names. So an attribute declared somewhere can be pointed at in the model.

Owns: `Holder`, the shape at a holder in a registry and in a model, and what each stage does to it.
-/

namespace ApiDesign

/-! ## Holders -/

/-- A part of a service that has a shape. -/
inductive ServicePart where
  | host (server host : Nat)
  | error (position : Nat)
  | payload (method : Nat)
  | result (method : Nat)
  | methodError (method position : Nat)
deriving DecidableEq, Repr

/-- Whatever has a shape in a design. -/
inductive Holder where
  | apiHost (server host : Nat)
  | service (name : String) (part : ServicePart)
  | userType (name : String)
  | resultType (identifier : String)
deriving DecidableEq, Repr

/-- The variables of a host. -/
def hostShape? (servers : List Server) (server host : Nat) : Option Attribute :=
  servers[server]?.bind fun held => held.hosts[host]?.map (·.uriVariables)

/-- The shape of a part of a service. -/
def Service.shapeAt? (service : Service) : ServicePart → Option Attribute
  | .host server host => hostShape? service.servers server host
  | .error position => service.errors[position]?.map (·.shape)
  | .payload method => service.methods[method]?.bind (·.payload)
  | .result method => service.methods[method]?.bind (·.result)
  | .methodError method position => service.methods[method]?.bind fun held => held.errors[position]?.map (·.shape)

/-- The shape at a holder among some declarations. -/
def Holder.shapeAmong? (api : Option Api) (services : List Service) (userTypes : List UserType)
    (resultTypes : List ResultType) : Holder → Option Attribute
  | .apiHost server host => api.bind fun held => hostShape? held.servers server host
  | .service name part => (services.find? (·.name == name)).bind (·.shapeAt? part)
  | .userType name => (userTypes.find? (·.name == name)).map (·.shape)
  | .resultType identifier => (resultTypes.find? (·.identifier == identifier)).map (·.shape)

/-- The shape at a holder of a registry. -/
def Registry.shapeHeld? (holder : Holder) (registry : Registry) : Option Attribute :=
  holder.shapeAmong? registry.api registry.services registry.userTypes registry.resultTypes

/-- The shape at a holder of a model. -/
def Model.shapeHeld? (holder : Holder) (model : Model) : Option Attribute :=
  holder.shapeAmong? model.api model.services.toList model.userTypes.toList model.resultTypes.toList

theorem mem_shapes_of_hostShape? {servers : List Server} {server host : Nat} {shape : Attribute}
    (held : hostShape? servers server host = some shape) : shape ∈ servers.flatMap Server.shapes := by
  unfold hostShape? at held
  obtain ⟨heldServer, atServer, held⟩ := Option.bind_eq_some_iff.mp held
  obtain ⟨heldHost, atHost, rfl⟩ := Option.map_eq_some_iff.mp held
  exact List.mem_flatMap.mpr
    ⟨heldServer, List.mem_of_getElem? atServer, List.mem_map.mpr ⟨heldHost, List.mem_of_getElem? atHost, rfl⟩⟩

theorem Service.mem_shapes_of_shapeAt? {service : Service} {part : ServicePart} {shape : Attribute}
    (held : service.shapeAt? part = some shape) :
    shape ∈ service.servers.flatMap Server.shapes ∨ shape ∈ service.ownShapes := by
  cases part with
  | host server host => exact .inl (mem_shapes_of_hostShape? held)
  | error position =>
      obtain ⟨error, here, rfl⟩ := Option.map_eq_some_iff.mp held
      exact .inr (List.mem_append_left _ (List.mem_map.mpr ⟨error, List.mem_of_getElem? here, rfl⟩))
  | payload method =>
      obtain ⟨own, here, isPayload⟩ := Option.bind_eq_some_iff.mp held
      refine .inr (List.mem_append_right _ (List.mem_flatMap.mpr ⟨own, List.mem_of_getElem? here, ?_⟩))
      simp [Method.shapes, isPayload]
  | result method =>
      obtain ⟨own, here, isResult⟩ := Option.bind_eq_some_iff.mp held
      refine .inr (List.mem_append_right _ (List.mem_flatMap.mpr ⟨own, List.mem_of_getElem? here, ?_⟩))
      simp [Method.shapes, isResult]
  | methodError method position =>
      obtain ⟨own, here, ofError⟩ := Option.bind_eq_some_iff.mp held
      obtain ⟨error, atError, rfl⟩ := Option.map_eq_some_iff.mp ofError
      refine .inr (List.mem_append_right _ (List.mem_flatMap.mpr ⟨own, List.mem_of_getElem? here, ?_⟩))
      exact List.mem_append_right _ (List.mem_map.mpr ⟨error, List.mem_of_getElem? atError, rfl⟩)

/-- The shape at a holder is one of the shapes that a walk over everything meets. -/
theorem Registry.mem_shapes_of_shapeHeld? {holder : Holder} {registry : Registry} {shape : Attribute}
    (held : registry.shapeHeld? holder = some shape) : shape ∈ registry.shapes := by
  unfold Registry.shapeHeld? at held
  simp only [Registry.shapes, Registry.servers, List.flatMap_append, List.mem_append]
  cases holder with
  | apiHost server host =>
      obtain ⟨api, isApi, ofHost⟩ := Option.bind_eq_some_iff.mp held
      refine .inl (.inl (.inl (.inl ?_)))
      rw [isApi]
      simpa using mem_shapes_of_hostShape? ofHost
  | service name part =>
      obtain ⟨service, found, ofPart⟩ := Option.bind_eq_some_iff.mp held
      have member := List.mem_of_find?_eq_some found
      rcases Service.mem_shapes_of_shapeAt? ofPart with ofServer | own
      · obtain ⟨server, inServers, inServer⟩ := List.mem_flatMap.mp ofServer
        exact .inl (.inl (.inl (.inr
          (List.mem_flatMap.mpr ⟨server, List.mem_flatMap.mpr ⟨service, member, inServers⟩, inServer⟩))))
      · exact .inl (.inl (.inr (List.mem_flatMap.mpr ⟨service, member, own⟩)))
  | userType name =>
      obtain ⟨userType, found, rfl⟩ := Option.map_eq_some_iff.mp held
      exact .inl (.inr (List.mem_map.mpr ⟨userType, List.mem_of_find?_eq_some found, rfl⟩))
  | resultType identifier =>
      obtain ⟨resultType, found, rfl⟩ := Option.map_eq_some_iff.mp held
      exact .inr (List.mem_map.mpr ⟨resultType, List.mem_of_find?_eq_some found, rfl⟩)

/-! ## Changing shapes -/

section Changing

variable (change : Attribute → Attribute)

theorem hostShape?_mapShapes (servers : List Server) (server host : Nat) :
    hostShape? (servers.map (Server.mapShapes change)) server host = (hostShape? servers server host).map change := by
  unfold hostShape?
  simp only [List.getElem?_map]
  cases servers[server]? with
  | none => rfl
  | some held =>
      simp only [Option.map_some, Option.bind_some, Server.mapShapes, List.getElem?_map]
      cases held.hosts[host]? <;> rfl

theorem Service.shapeAt?_mapShapes (service : Service) (part : ServicePart) :
    (service.mapShapes change).shapeAt? part = (service.shapeAt? part).map change := by
  cases part with
  | host server host => exact hostShape?_mapShapes change service.servers server host
  | error position =>
      simp only [Service.shapeAt?, Service.mapShapes, List.getElem?_map, Option.map_map]
      rfl
  | payload method =>
      simp only [Service.shapeAt?, Service.mapShapes, List.getElem?_map]
      cases service.methods[method]? <;> rfl
  | result method =>
      simp only [Service.shapeAt?, Service.mapShapes, List.getElem?_map]
      cases service.methods[method]? <;> rfl
  | methodError method position =>
      simp only [Service.shapeAt?, Service.mapShapes, List.getElem?_map]
      cases service.methods[method]? with
      | none => rfl
      | some held =>
          simp only [Option.map_some, Option.bind_some, Method.mapShapes, List.getElem?_map, Option.map_map]
          rfl

namespace Registry

/-- A change of all shapes changes the shape at each holder. -/
theorem shapeHeld?_mapShapes (holder : Holder) (registry : Registry) :
    (registry.mapShapes change).shapeHeld? holder = (registry.shapeHeld? holder).map change := by
  unfold shapeHeld?
  cases holder with
  | apiHost server host =>
      simp only [Holder.shapeAmong?, mapShapes]
      cases registry.api with
      | none => rfl
      | some held => exact hostShape?_mapShapes change held.servers server host
  | service name part =>
      simp only [Holder.shapeAmong?, mapShapes, List.find?_map]
      rw [show ((fun service : Service => service.name == name) ∘ Service.mapShapes change) =
        fun service => service.name == name from rfl]
      cases registry.services.find? fun service => service.name == name with
      | none => rfl
      | some held => exact Service.shapeAt?_mapShapes change held part
  | userType name =>
      simp only [Holder.shapeAmong?, mapShapes, List.find?_map, Option.map_map]
      rfl
  | resultType identifier =>
      simp only [Holder.shapeAmong?, mapShapes, List.find?_map, Option.map_map]
      rfl

end Registry

end Changing

/-! ## Defaults -/

/-- Inherited errors come after a method's own, which keep their positions. -/
theorem Method.getElem?_errors_foldl_inherit {method : Method} {position : Nat} {held : ErrorAnswer}
    (here : method.errors[position]? = some held) (errors : List ErrorAnswer) :
    (errors.foldl Method.inherit method).errors[position]? = some held := by
  rw [Method.foldl_inherit, List.getElem?_append_left (List.getElem?_eq_some_iff.mp here).1]
  exact here

theorem Service.shapeAt?_shareErrors {service : Service} {part : ServicePart} {shape : Attribute}
    (held : service.shapeAt? part = some shape) : service.shareErrors.shapeAt? part = some shape := by
  cases part with
  | host server host => exact held
  | error position => exact held
  | payload method =>
      simp only [Service.shapeAt?, Service.shareErrors, List.getElem?_map] at held ⊢
      cases found : service.methods[method]? with
      | none => simp [found] at held
      | some own =>
          simp only [found, Option.map_some, Option.bind_some] at held ⊢
          rw [Method.foldl_inherit]
          exact held
  | result method =>
      simp only [Service.shapeAt?, Service.shareErrors, List.getElem?_map] at held ⊢
      cases found : service.methods[method]? with
      | none => simp [found] at held
      | some own =>
          simp only [found, Option.map_some, Option.bind_some] at held ⊢
          rw [Method.foldl_inherit]
          exact held
  | methodError method position =>
      simp only [Service.shapeAt?, Service.shareErrors, List.getElem?_map] at held ⊢
      cases found : service.methods[method]? with
      | none => simp [found] at held
      | some own =>
          simp only [found, Option.map_some, Option.bind_some] at held ⊢
          obtain ⟨error, here, shapeIs⟩ := Option.map_eq_some_iff.mp held
          rw [Method.getElem?_errors_foldl_inherit here service.errors]
          rw [← shapeIs]
          rfl

namespace Registry

variable {holder : Holder} {registry : Registry}

theorem shapeHeld?_canonicalViews : registry.canonicalViews.shapeHeld? holder = registry.shapeHeld? holder := by
  unfold shapeHeld?
  cases holder with
  | resultType identifier =>
      simp only [Holder.shapeAmong?, canonicalViews, List.find?_map, Option.map_map]
      rfl
  | _ => rfl

theorem shapeHeld?_shareErrors {shape : Attribute} (held : registry.shapeHeld? holder = some shape) :
    registry.shareErrors.shapeHeld? holder = some shape := by
  unfold shapeHeld? at held ⊢
  cases holder with
  | service name part =>
      simp only [Holder.shapeAmong?, shareErrors, List.find?_map] at held ⊢
      rw [show ((fun service : Service => service.name == name) ∘ Service.shareErrors) =
        fun service => service.name == name from rfl]
      cases found : registry.services.find? fun service => service.name == name with
      | none => simp [found] at held
      | some own =>
          simp only [found, Option.bind_some] at held
          exact Service.shapeAt?_shareErrors held
  | _ => exact held

/-! ## Sealing -/

/-- Sealing moves declarations, but each is still found under its name. -/
theorem shapeHeld?_toSealed (indexed : registry.IsIndexed) :
    registry.toSealed.shapeHeld? holder = registry.shapeHeld? holder := by
  unfold shapeHeld? toSealed reindex
  cases holder with
  | apiHost server host => rfl
  | service name part =>
      simp only [Holder.shapeAmong?]
      rw [find?_eq_of_perm (sortByName_perm Service.name registry.services)
        (((sortByName_perm Service.name registry.services).map _).nodup_iff.mpr (indexed.nodup .service))]
  | userType name =>
      simp only [Holder.shapeAmong?]
      rw [find?_eq_of_perm (sortByName_perm UserType.name registry.userTypes)
        (((sortByName_perm UserType.name registry.userTypes).map _).nodup_iff.mpr (indexed.nodup .userType))]
  | resultType identifier =>
      simp only [Holder.shapeAmong?]
      rw [find?_eq_of_perm (sortByName_perm ResultType.identifier registry.resultTypes)
        (((sortByName_perm ResultType.identifier registry.resultTypes).map _).nodup_iff.mpr
          (indexed.nodup .resultType))]

/-! ## Linking and deriving -/

theorem shapeHeld?_link {index : TypeIndex} (elements : ∀ resultType ∈ registry.resultTypes, ∀ facts,
      resultType.collection = some facts → ∃ position, facts.elementTarget? index = some (.result position)) :
    (registry.link index).shapeHeld? holder = (registry.shapeHeld? holder).map (Attribute.link index) := by
  rw [← shapeHeld?_mapShapes]
  unfold shapeHeld?
  cases holder with
  | resultType identifier =>
      simp only [Holder.shapeAmong?, resultTypes_link, mapShapes, List.find?_map]
      rw [show ((fun resultType : ResultType => resultType.identifier == identifier) ∘ ResultType.link index) =
          fun resultType => resultType.identifier == identifier from by
            funext resultType
            simp]
      rw [show ((fun resultType : ResultType => resultType.identifier == identifier) ∘
          ResultType.mapShape (Attribute.link index)) = fun resultType => resultType.identifier == identifier from rfl]
      cases found : registry.resultTypes.find? fun resultType => resultType.identifier == identifier with
      | none => rfl
      | some resultType =>
          simp only [Option.map_some, ResultType.link_eq (elements resultType (List.mem_of_find?_eq_some found)),
            ResultType.mapShape]
  | _ => rfl

/-- Deriving views does not touch shapes. -/
theorem shapeHeld?_deriveViews : registry.deriveViews.1.shapeHeld? holder = registry.shapeHeld? holder := by
  unfold shapeHeld?
  cases holder with
  | resultType identifier =>
      have pairs := map_resultTypes_deriveViews (fun resultType => (resultType.identifier, resultType.shape))
        (fun _ => rfl) registry
      have byPairs : ∀ resultTypes : List ResultType,
          (resultTypes.find? fun resultType => resultType.identifier == identifier).map (·.shape) =
            ((resultTypes.map fun resultType => (resultType.identifier, resultType.shape)).find?
              fun pair => pair.1 == identifier).map Prod.snd := by
        intro resultTypes
        rw [List.find?_map, Option.map_map]
        rfl
      simp only [Holder.shapeAmong?]
      rw [byPairs, pairs, ← byPairs]
  | _ => rfl

end Registry

end ApiDesign
