import ApiDesign.Proofs.Evaluation.RepeatedNames
import ApiDesign.Proofs.Evaluation.ViewFlow
import ApiDesign.Proofs.Model.Links

/-!
Contract: where nothing is found, names are distinct at every scope, and the later stages keep them so.

Names are compared once, in the prepared registry. An error that a method has from its service is not compared with the
others: it was added only because the method had none of its name. Linking touches shapes only, and derivation gives a
collection the views of its element, or leaves the names of its own views.

Owns: distinct names of servers, hosts, methods, errors and views, in the prepared and in the derived registry.
Does not own: when names have no finding (`Proofs.Evaluation.RepeatedNames`), names within a kind of declarations
(`Proofs.Registry.Index`), the names of a model (`Proofs.Model.DistinctNames`).
-/

namespace ApiDesign

/-! ## Scopes -/

/-- Servers have distinct names, and so have the hosts of each. -/
structure AreDistinctServers (servers : List Server) : Prop where
  names : (servers.map (·.name)).Nodup
  hosts : ∀ server ∈ servers, (server.hosts.map (·.name)).Nodup

/-- The methods, the errors and the servers of a service have distinct names, and so have the errors of each method. -/
structure Service.HasDistinctNames (service : Service) : Prop where
  methods : (service.methods.map (·.name)).Nodup
  errors : (service.errors.map (·.name)).Nodup
  methodErrors : ∀ method ∈ service.methods, (method.errors.map (·.name)).Nodup
  servers : AreDistinctServers service.servers

/-- Names are distinct in all servers, services and result types of a registry. -/
structure Registry.HasDistinctNames (registry : Registry) : Prop where
  api : ∀ api ∈ registry.api, AreDistinctServers api.servers
  services : ∀ service ∈ registry.services, service.HasDistinctNames
  views : ∀ resultType ∈ registry.resultTypes, (resultType.views.map (·.name)).Nodup

theorem areDistinctServers_of_findings {vocabulary : Vocabulary} {trail : List String} {servers : List Server}
    (nothing : serverFindings vocabulary trail servers = []) : AreDistinctServers servers := by
  simp only [serverFindings, Server.findings, List.append_eq_nil_iff, List.flatMap_eq_nil_iff,
    duplicateFindings_eq_nil_iff] at nothing
  exact ⟨nothing.1, fun server member => (nothing.2 server member).1⟩

/-! ## Errors of methods -/

namespace Method

/-- Handing errors to a method leaves those it declares itself. -/
theorem ownErrors_foldl_inherit (errors : List ErrorAnswer) (method : Method) :
    (errors.foldl Method.inherit method).ownErrors = method.ownErrors := by
  have noneAdded : ∀ known,
      (ErrorAnswer.copiesBeside known errors).filter (fun error => !error.inherited) = [] := by
    intro known
    rw [List.filter_eq_nil_iff]
    intro error isCopy
    obtain ⟨original, _, _, rfl⟩ := ErrorAnswer.exists_of_mem_copiesBeside isCopy
    simp
  rw [foldl_inherit]
  unfold ownErrors
  rw [List.filter_append, noneAdded, List.append_nil]

theorem ownErrors_eq {method : Method} (own : method.HasOwnErrors) : method.ownErrors = method.errors :=
  List.filter_eq_self.mpr fun error member => by simp [own error member]

/-- Handing errors to a method keeps the names of its errors distinct: copies have new names. -/
theorem nodup_errors_foldl_inherit {method : Method} (distinct : (method.errors.map (·.name)).Nodup)
    (errors : List ErrorAnswer) : ((errors.foldl Method.inherit method).errors.map (·.name)).Nodup := by
  rw [foldl_inherit, List.map_append]
  refine distinct.append (ErrorAnswer.nodup_names_copiesBeside errors _) ?_
  intro name isOwn isCopied
  exact (ErrorAnswer.mem_names_copiesBeside.mp isCopied).2 isOwn

end Method

/-- Where nothing is found after errors were shared, names are distinct, those of inherited errors included. -/
theorem Service.HasOwnErrors.hasDistinctNames {service : Service} (own : service.HasOwnErrors)
    {vocabulary : Vocabulary} {trail : List String} (nothing : service.shareErrors.findings vocabulary trail = []) :
    service.shareErrors.HasDistinctNames := by
  simp only [Service.findings, Method.findings, List.append_eq_nil_iff, List.flatMap_eq_nil_iff,
    duplicateFindings_eq_nil_iff] at nothing
  obtain ⟨⟨⟨⟨methods, errors⟩, _⟩, servers⟩, ofMethods⟩ := nothing
  refine ⟨methods, errors, ?_, areDistinctServers_of_findings servers⟩
  intro method member
  -- Compared are the errors that are not inherited. Before sharing, these were all errors of the method.
  have compared := (ofMethods method member).1.1.1
  obtain ⟨before, inBefore, rfl⟩ := List.mem_map.mp member
  rw [Method.ownErrors_foldl_inherit, Method.ownErrors_eq (own.methods before inBefore)] at compared
  exact Method.nodup_errors_foldl_inherit compared service.errors

/-! ## The prepared registry -/

namespace Registry

variable {settings : Settings} {registry : Registry}

/-- Where nothing is found, all names are distinct. -/
theorem IsDeclared.hasDistinctNames_prepared (declared : registry.IsDeclared)
    (nothing : (registry.prepared settings).findings = []) : (registry.prepared settings).HasDistinctNames := by
  simp only [findings, List.append_eq_nil_iff, List.flatMap_eq_nil_iff] at nothing
  obtain ⟨⟨⟨ofApi, ofServices⟩, _⟩, ofResultTypes⟩ := nothing
  refine ⟨?api, ?services, ?views⟩
  case api =>
    exact fun api isApi => areDistinctServers_of_findings (ofApi api (Option.mem_toList.mpr isApi))
  case services =>
    intro service member
    have nothing := ofServices service member
    obtain ⟨before, own, rfl⟩ := declared.exists_shared member
    exact own.hasDistinctNames nothing
  case views =>
    intro resultType member
    have nothing := ofResultTypes resultType member
    simp only [resultTypeFindings, List.append_eq_nil_iff, duplicateFindings_eq_nil_iff] at nothing
    exact nothing.1.1.2

end Registry

/-! ## Linking -/

theorem AreDistinctServers.mapShapes {servers : List Server} (distinct : AreDistinctServers servers)
    (change : Attribute → Attribute) : AreDistinctServers (servers.map (Server.mapShapes change)) where
  names := by
    rw [List.map_map]
    exact distinct.names
  hosts := by
    intro server member
    obtain ⟨before, inBefore, rfl⟩ := List.mem_map.mp member
    simp only [Server.mapShapes, List.map_map]
    exact distinct.hosts before inBefore

theorem Service.HasDistinctNames.mapShapes {service : Service} (distinct : service.HasDistinctNames)
    (change : Attribute → Attribute) : (service.mapShapes change).HasDistinctNames where
  methods := by
    simp only [Service.mapShapes, List.map_map]
    exact distinct.methods
  errors := by
    simp only [Service.mapShapes, List.map_map]
    exact distinct.errors
  methodErrors := by
    intro method member
    obtain ⟨before, inBefore, rfl⟩ := List.mem_map.mp member
    simp only [Method.mapShapes, List.map_map]
    exact distinct.methodErrors before inBefore
  servers := distinct.servers.mapShapes change

theorem Registry.HasDistinctNames.link {registry : Registry} (distinct : registry.HasDistinctNames)
    (index : TypeIndex) : (registry.link index).HasDistinctNames where
  api := by
    intro api isApi
    obtain ⟨before, isBefore, rfl⟩ := Option.map_eq_some_iff.mp isApi
    exact (distinct.api before isBefore).mapShapes _
  services := by
    intro service member
    obtain ⟨before, inBefore, rfl⟩ := List.mem_map.mp member
    exact (distinct.services before inBefore).mapShapes _
  views := by
    intro resultType member
    obtain ⟨before, inBefore, rfl⟩ := List.mem_map.mp member
    rw [ResultType.views_link]
    exact distinct.views before inBefore

/-! ## Derivation -/

/-- Names are distinct among the views that a collection has from itself and from its element. -/
theorem ResultType.nodup_viewsFrom {elementViews : List View} {collection : ResultType}
    (ofElement : (elementViews.map (·.name)).Nodup) (own : (collection.views.map (·.name)).Nodup) :
    ((collection.viewsFrom elementViews).map (·.name)).Nodup := by
  unfold ResultType.viewsFrom
  split
  · exact ofElement
  · have sameNames : (collection.views.map (View.completed elementViews)).map (·.name) =
        collection.views.map (·.name) := by
      rw [List.map_map]
      exact List.map_congr_left fun view _ => Derivation.View.name_completed elementViews view
    rw [sameNames]
    exact own

namespace Derivation

/-- A step keeps the names of views distinct in every result type. -/
theorem nodup_views_derive {derivation : Derivation}
    (distinct : ∀ resultType ∈ derivation.resultTypes, (resultType.views.map (·.name)).Nodup) (entry : Nat × Nat) :
    ∀ resultType ∈ (derivation.derive entry).resultTypes, (resultType.views.map (·.name)).Nodup := by
  obtain ⟨position, element⟩ := entry
  cases here : derivation.resultTypes[position]? with
  | none => simpa [derive, here] using distinct
  | some collection =>
      cases there : derivation.resultTypes[element]? with
      | none => simpa [derive, here, there] using distinct
      | some source =>
          rw [resultTypes_derive here there]
          intro resultType member
          rcases List.mem_or_eq_of_mem_set member with unchanged | rfl
          · exact distinct resultType unchanged
          · exact ResultType.nodup_viewsFrom (distinct source (List.mem_of_getElem? there))
              (distinct collection (List.mem_of_getElem? here))

theorem Reaches.nodup_views {start reached : Derivation} (reaches : Reaches start reached)
    (distinct : ∀ resultType ∈ start.resultTypes, (resultType.views.map (·.name)).Nodup) :
    ∀ resultType ∈ reached.resultTypes, (resultType.views.map (·.name)).Nodup := by
  induction reaches with
  | refl => exact distinct
  | @step _ entry _ _ _ inductionHypothesis => exact nodup_views_derive inductionHypothesis entry

end Derivation

theorem Registry.HasDistinctNames.deriveViews {registry : Registry} (distinct : registry.HasDistinctNames) :
    registry.deriveViews.1.HasDistinctNames where
  api := distinct.api
  services := distinct.services
  views := (Derivation.reaches_run registry.resultTypes).nodup_views distinct.views

end ApiDesign
