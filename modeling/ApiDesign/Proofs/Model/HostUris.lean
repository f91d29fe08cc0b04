import ApiDesign.Proofs.Model.DistinctNames
import ApiDesign.Proofs.UriTemplate

/-!
Contract: the URIs of a host are fully described by its variables.

The check of a registry reaches every host of every server, those of the API and those of the services. Where it finds
nothing, each parameter of a template has a variable, and each variable a value to take. Linking changes types only,
so the same hosts, with the same templates and the same values, stand in the model.

Owns: `Host.IsDescribed`, for every host of a model.
Does not own: how a template is read (`Proofs.UriTemplate`).
-/

namespace ApiDesign

/-- Each template of a host has one reading, what it names between braces are variables of the host, and each variable
has a value to take. The parameters of the host are the names of all readings in order of first appearance. -/
structure Host.IsDescribed (host : Host) : Prop where
  readable : ∀ uri ∈ host.uris, ∃! reading : UriTemplate.Reading, reading.text = uri.toList
  declared : ∀ uri ∈ host.uris, ∀ reading : UriTemplate.Reading, reading.text = uri.toList →
    ∀ name ∈ reading.names, name ≠ [] → host.uriVariables.hasField (String.ofList name) = true
  valued : ∀ name shape, (name, shape) ∈ host.uriVariables.fields →
    shape.details.defaultValue.isSome = true ∨ shape.details.validation.values ≠ []
  parameters : ∀ readings : List UriTemplate.Reading,
    List.Forall₂ (fun reading uri => reading.text = uri.toList) readings host.uris →
    ListsFirsts host.uriParameters (readings.flatMap (·.parameters))

/-- Every host of every server of a model is described, those of the API and those of the services. -/
structure Model.DescribesHosts (model : Model) : Prop where
  api : ∀ api ∈ model.api, ∀ server ∈ api.servers, ∀ host ∈ server.hosts, host.IsDescribed
  services : ∀ service ∈ model.services, ∀ server ∈ service.servers, ∀ host ∈ server.hosts, host.IsDescribed

/-! ## The check -/

/-- A name between braces that is not empty is a parameter of the host. -/
theorem Host.mem_uriParameters {host : Host} {uri : String} (inHost : uri ∈ host.uris) {reading : UriTemplate.Reading}
    (reads : reading.text = uri.toList) {name : List Char} (between : name ∈ reading.names) (named : name ≠ []) :
    String.ofList name ∈ host.uriParameters := by
  rw [uriParameters, mem_addNames]
  refine .inl (List.mem_flatMap.mpr ⟨uri, inHost, ?_⟩)
  rw [UriTemplate.parameters_eq reads]
  exact List.mem_map_of_mem (List.mem_filter.mpr ⟨between, by simp [named]⟩)

/-- A host without findings is described. -/
theorem Host.isDescribed_of_uriFindings {host : Host} {trail : List String} (nothing : host.uriFindings trail = []) :
    host.IsDescribed := by
  simp only [uriFindings, List.append_eq_nil_iff, List.map_eq_nil_iff, List.filter_eq_nil_iff] at nothing
  obtain ⟨noneUnmatched, noneWithoutValue⟩ := nothing
  refine ⟨fun uri _ => UriTemplate.Reading.existsUnique uri.toList, ?declared, ?valued,
    fun readings reads => host.listsFirsts_uriParameters reads⟩
  case declared =>
    intro uri inHost reading reads name between named
    simpa using noneUnmatched _ (host.mem_uriParameters inHost reads between named)
  case valued =>
    intro name shape member
    have hasValue := noneWithoutValue (name, shape) member
    rw [Bool.and_eq_true, not_and_or, Bool.not_eq_true, Option.isNone_eq_false_iff, List.isEmpty_iff] at hasValue
    exact hasValue

/-- Where nothing is found about a registry, every host of its servers is described. -/
theorem Registry.isDescribed_of_findings {registry : Registry} (nothing : registry.findings = []) :
    ∀ server ∈ registry.servers, ∀ host ∈ server.hosts, host.IsDescribed := by
  have ofServers : ∀ {trail : List String} {servers : List Server},
      serverFindings registry.vocabulary trail servers = [] →
      ∀ server ∈ servers, ∀ host ∈ server.hosts, host.IsDescribed := by
    intro trail servers none server inServers host inServer
    simp only [serverFindings, Server.findings, Host.findings, List.append_eq_nil_iff, List.flatMap_eq_nil_iff] at none
    exact host.isDescribed_of_uriFindings ((none.2 server inServers).2 host inServer).1
  simp only [findings, Service.findings, List.append_eq_nil_iff, List.flatMap_eq_nil_iff] at nothing
  obtain ⟨⟨⟨ofApi, ofServices⟩, _⟩, _⟩ := nothing
  intro server member
  rcases List.mem_append.mp member with ofAnApi | ofAService
  · obtain ⟨api, isApi, inApi⟩ := List.mem_flatMap.mp ofAnApi
    exact ofServers (ofApi api isApi) server inApi
  · obtain ⟨service, inServices, inService⟩ := List.mem_flatMap.mp ofAService
    exact ofServers (ofServices service inServices).1.2 server inService

/-! ## The model -/

/-- Linking keeps the templates of a host, the names of its variables and what their details say. -/
theorem Host.IsDescribed.link {host : Host} (described : host.IsDescribed) (index : TypeIndex) :
    (host.mapShapes (Attribute.link index)).IsDescribed := by
  obtain ⟨name, description, uris, type, details⟩ := host
  refine ⟨described.readable, ?declared, ?valued, described.parameters⟩
  case declared =>
    intro uri inHost reading reads between isBetween named
    have before := described.declared uri inHost reading reads between isBetween named
    cases type with
    | object fields =>
        show ((DataType.transformFields _ fields).lookup _).isSome = true
        rw [DataType.lookup_transformFields, Option.isSome_map]
        exact before
    | _ => exact before
  case valued =>
    intro variableName shape member
    cases type with
    | object fields =>
        change (variableName, shape) ∈ DataType.transformFields _ fields at member
        rw [DataType.transformFields_eq_map] at member
        obtain ⟨⟨_, _, _⟩, inFields, isTransformed⟩ := List.mem_map.mp member
        cases isTransformed
        have hasValue := described.valued _ _ inFields
        exact hasValue
    | _ => cases member

/-- The servers of a model are those of the prepared registry, linked. -/
theorem Registry.servers_derived (settings : Settings) (registry : Registry) :
    (registry.derived settings).servers = (registry.prepared settings).servers.map
      (Server.mapShapes (Attribute.link (registry.prepared settings).typeIndex)) := by
  have unfolded : (registry.derived settings).servers =
      ((registry.prepared settings).api.map (Api.mapShapes
          (Attribute.link (registry.prepared settings).typeIndex))).toList.flatMap (·.servers) ++
        ((registry.prepared settings).services.map (Service.mapShapes
          (Attribute.link (registry.prepared settings).typeIndex))).flatMap (·.servers) := by
    unfold derived linked
    rfl
  rw [unfolded, servers, List.map_append, List.map_flatMap, List.map_flatMap, List.flatMap_map]
  congr 1
  cases (registry.prepared settings).api <;> simp [Api.mapShapes]

/-- In every model of an evaluation, the URIs of every host are fully described. -/
theorem evaluate_describesHosts {settings : Settings} {declarations : List Declaration} {model : Model}
    (evaluated : evaluate settings declarations = .ok model) : model.DescribesHosts := by
  obtain ⟨registry, declares, succeeds, rfl⟩ := evaluate_eq_ok_iff.mp evaluated
  have each : ∀ server ∈ (registry.derived settings).servers, ∀ host ∈ server.hosts, host.IsDescribed := by
    intro server member host inServer
    rw [registry.servers_derived settings] at member
    obtain ⟨serverBefore, inPrepared, rfl⟩ := List.mem_map.mp member
    obtain ⟨before, inBefore, rfl⟩ := List.mem_map.mp inServer
    exact (Registry.isDescribed_of_findings succeeds.noFinding serverBefore inPrepared before inBefore).link _
  constructor
  case api =>
    intro api isApi server inApi
    exact each server (List.mem_append_left _ (List.mem_flatMap.mpr ⟨api, Option.mem_toList.mpr isApi, inApi⟩))
  case services =>
    intro service member server inService
    have inRegistry : service ∈ (registry.derived settings).services := by simpa [Model.ofRegistry] using member
    exact each server (List.mem_append_right _ (List.mem_flatMap.mpr ⟨service, inRegistry, inService⟩))

/-- A repeated, an empty and an unterminated placeholder, one whose name has an opening brace, and hosts of both kinds
of servers. -/
theorem describesHosts_cellar :
    ∃ model,
      evaluate {}
        [.api "cellar" [.block (.server "front")
          [.block (.host "prod")
            [.setting (.uri "https://\x7bversion\x7d.example/\x7bregion\x7d/\x7b\x7d/\x7bport"),
              .setting (.uri "grpc://\x7bregion\x7d.\x7ba\x7bb\x7d.\x7bversion\x7d"),
              .hostVariable "version" [.clauses [.setting (.defaultValue (.text "v1"))]],
              .hostVariable "region" [.clauses [.setting (.rule (.values [.text "eu", .text "us"]))]],
              .hostVariable "a\x7bb" [.clauses [.setting (.defaultValue (.text "x"))]]]]],
        .service "storage" [.block (.server "back")
          [.block (.host "dev") [.setting (.uri "http://\x7bhost\x7d"),
            .hostVariable "host" [.clauses [.setting (.defaultValue (.text "localhost"))]]]]]] = .ok model ∧
      model.DescribesHosts ∧
      model.api.toList.flatMap (fun api => api.servers.flatMap fun server => server.hosts.map (·.uriParameters)) =
        [["version", "region", "a\x7bb"]] := by
  refine exists_model (fun model =>
    model.api.toList.flatMap (fun api => api.servers.flatMap fun server => server.hosts.map (·.uriParameters)) ==
      [["version", "region", "a\x7bb"]]) (by decide +kernel) fun model evaluated parameters => ?_
  exact ⟨evaluate_describesHosts evaluated, eq_of_beq parameters⟩

end ApiDesign
