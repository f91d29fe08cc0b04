import ApiDesign.Proofs.Evaluation.Stages

/-!
Contract: no shape escapes the walks that check a registry.

The walks leave out the errors that methods have from their services. These are copies, so what holds of every declared
shape holds of every shape; and where a walk finds nothing, its check holds of every declared shape.

Owns: `Registry.AllDeclared`, and what it means for values that the registry has no findings.
Does not own: what unresolved references mean (`Proofs.Evaluation.Links`).
-/

namespace ApiDesign

/-- A property holds of every shape that is declared, that is of every shape but those of inherited errors. -/
structure Registry.AllDeclared (property : Attribute → Prop) (registry : Registry) : Prop where
  apiServers : ∀ api ∈ registry.api, ∀ server ∈ api.servers, ∀ shape ∈ server.shapes, property shape
  servers : ∀ service ∈ registry.services, ∀ server ∈ service.servers, ∀ shape ∈ server.shapes, property shape
  errors : ∀ service ∈ registry.services, ∀ error ∈ service.errors, property error.shape
  payload : ∀ service ∈ registry.services, ∀ method ∈ service.methods, ∀ shape ∈ method.payload, property shape
  result : ∀ service ∈ registry.services, ∀ method ∈ service.methods, ∀ shape ∈ method.result, property shape
  ownErrors : ∀ service ∈ registry.services, ∀ method ∈ service.methods, ∀ error ∈ method.errors,
    error.inherited = false → property error.shape
  userTypes : ∀ userType ∈ registry.userTypes, property userType.shape
  resultTypes : ∀ resultType ∈ registry.resultTypes, property resultType.shape

/-- The shape of an inherited error is the shape of an error of its service. -/
theorem Service.SharesErrors.forall_mem_ownShapes {service : Service} {property : Attribute → Prop}
    (shares : service.SharesErrors) (errors : ∀ error ∈ service.errors, property error.shape)
    (payload : ∀ method ∈ service.methods, ∀ shape ∈ method.payload, property shape)
    (result : ∀ method ∈ service.methods, ∀ shape ∈ method.result, property shape)
    (ownErrors : ∀ method ∈ service.methods, ∀ error ∈ method.errors, error.inherited = false → property error.shape) :
    ∀ shape ∈ service.ownShapes, property shape := by
  intro shape member
  simp only [Service.ownShapes, Method.shapes, List.mem_append, List.mem_map, List.mem_flatMap] at member
  rcases member with ⟨error, inErrors, rfl⟩ | ⟨method, inMethods, (isPayload | isResult) | ⟨error, inErrors, rfl⟩⟩
  · exact errors error inErrors
  · exact payload method inMethods shape (Option.mem_toList.mp isPayload)
  · exact result method inMethods shape (Option.mem_toList.mp isResult)
  · cases isInherited : error.inherited with
    | false => exact ownErrors method inMethods error inErrors isInherited
    | true =>
        obtain ⟨own, inService, same⟩ := shares.methods method inMethods error inErrors isInherited
        rw [← same]
        exact errors own inService

namespace Registry

variable {registry : Registry}

/-- What holds of every declared shape holds of every shape. -/
theorem AllDeclared.forall_mem_shapes {property : Attribute → Prop} (all : registry.AllDeclared property)
    (shares : ∀ service ∈ registry.services, service.SharesErrors) : ∀ shape ∈ registry.shapes, property shape := by
  intro shape member
  simp only [shapes, List.mem_append, List.mem_flatMap, List.mem_map, Registry.servers, Option.mem_toList] at member
  rcases member with ((⟨server, ⟨api, isApi, inApi⟩ | ⟨service, inServices, inService⟩, inServer⟩ |
    ⟨service, inServices, inService⟩) | ⟨userType, inUserTypes, rfl⟩) | ⟨resultType, inResultTypes, rfl⟩
  · exact all.apiServers api isApi server inApi shape inServer
  · exact all.servers service inServices server inService shape inServer
  · exact (shares service inServices).forall_mem_ownShapes (all.errors service inServices)
      (all.payload service inServices) (all.result service inServices) (all.ownErrors service inServices) shape
      inService
  · exact all.userTypes userType inUserTypes
  · exact all.resultTypes resultType inResultTypes

end Registry

/-! ## Findings -/

namespace Vocabulary

variable {vocabulary : Vocabulary}

/-- No node of a shape has a finding, wherever the shape may stand. -/
def Approves (vocabulary : Vocabulary) (shape : Attribute) : Prop :=
  ∀ node ∈ shape.nodes, ∃ trail, vocabulary.nodeFindings trail node = []

theorem approves_of_shapeFindings {trail : List String} {shape : Attribute}
    (nothing : vocabulary.shapeFindings trail shape = []) : vocabulary.Approves shape := by
  intro node member
  obtain ⟨nodeTrail, located⟩ := shape.exists_mem_located trail member
  exact ⟨nodeTrail, List.flatMap_eq_nil_iff.mp nothing (nodeTrail, node) located⟩

theorem approves_of_partFindings {trail : List String} {part : Option Attribute}
    (nothing : vocabulary.partFindings trail part = []) : ∀ shape ∈ part, vocabulary.Approves shape := by
  intro shape isPart
  exact approves_of_shapeFindings (List.flatMap_eq_nil_iff.mp nothing shape (Option.mem_toList.mpr isPart))

theorem approves_of_errorFindings {trail : List String} {errors : List ErrorAnswer}
    (nothing : errorFindings vocabulary trail errors = []) : ∀ error ∈ errors, vocabulary.Approves error.shape := by
  intro error member
  exact approves_of_shapeFindings (List.flatMap_eq_nil_iff.mp nothing error member)

theorem approves_of_serverFindings {trail : List String} {servers : List Server}
    (nothing : serverFindings vocabulary trail servers = []) :
    ∀ server ∈ servers, ∀ shape ∈ server.shapes, vocabulary.Approves shape := by
  simp only [serverFindings, Server.findings, Host.findings, List.append_eq_nil_iff, List.flatMap_eq_nil_iff]
    at nothing
  intro server inServers shape inServer
  obtain ⟨host, inHosts, rfl⟩ := List.mem_map.mp inServer
  exact approves_of_shapeFindings ((nothing.2 server inServers).2 host inHosts).2

/-- An approved default is accepted. -/
theorem accepts_of_nodeFindings {trail : List String} {node : Attribute}
    (nothing : vocabulary.nodeFindings trail node = []) {value : Value}
    (carries : node.details.defaultValue = some value) : vocabulary.accepts node.type value = true := by
  simp only [nodeFindings, List.append_eq_nil_iff] at nothing
  have noDefault := nothing.1.1
  simp only [defaultFindings, carries] at noDefault
  by_contra refused
  simp [refused] at noDefault

end Vocabulary

namespace Registry

variable {registry : Registry}

/-- Where nothing is found, every declared shape is approved. -/
theorem allDeclared_of_findings (nothing : registry.findings = []) :
    registry.AllDeclared registry.vocabulary.Approves := by
  simp only [findings, List.append_eq_nil_iff, List.flatMap_eq_nil_iff] at nothing
  obtain ⟨⟨⟨ofApi, ofServices⟩, ofUserTypes⟩, ofResultTypes⟩ := nothing
  simp only [Service.findings, Method.findings, resultTypeFindings, List.append_eq_nil_iff,
    List.flatMap_eq_nil_iff] at ofServices ofResultTypes
  refine ⟨?apiServers, ?servers, ?errors, ?payload, ?result, ?ownErrors, ?userTypes, ?resultTypes⟩
  case apiServers =>
    intro api isApi
    exact Vocabulary.approves_of_serverFindings (ofApi api (Option.mem_toList.mpr isApi))
  case servers =>
    intro service inServices
    exact Vocabulary.approves_of_serverFindings (ofServices service inServices).1.2
  case errors =>
    intro service inServices
    exact Vocabulary.approves_of_errorFindings (ofServices service inServices).1.1.2
  case payload =>
    intro service inServices method inMethods
    exact Vocabulary.approves_of_partFindings ((ofServices service inServices).2 method inMethods).1.1.2
  case result =>
    intro service inServices method inMethods
    exact Vocabulary.approves_of_partFindings ((ofServices service inServices).2 method inMethods).1.2
  case ownErrors =>
    intro service inServices method inMethods error inErrors own
    exact Vocabulary.approves_of_errorFindings ((ofServices service inServices).2 method inMethods).2 error
      (List.mem_filter.mpr ⟨inErrors, by simp [own]⟩)
  case userTypes =>
    exact fun userType member => Vocabulary.approves_of_shapeFindings (ofUserTypes userType member)
  case resultTypes =>
    exact fun resultType member => Vocabulary.approves_of_shapeFindings (ofResultTypes resultType member).1.1.1

/-- Where nothing is found, every node of every shape is approved. -/
theorem exists_nodeFindings_eq_nil (shares : ∀ service ∈ registry.services, service.SharesErrors)
    (nothing : registry.findings = []) :
    ∀ node ∈ registry.nodes, ∃ trail, registry.vocabulary.nodeFindings trail node = [] := by
  intro node member
  obtain ⟨shape, inShapes, inShape⟩ := List.mem_flatMap.mp member
  exact (allDeclared_of_findings nothing).forall_mem_shapes shares shape inShapes node inShape

end Registry

end ApiDesign
