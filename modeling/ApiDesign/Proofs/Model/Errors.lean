import ApiDesign.Proofs.Evaluation.Completion
import ApiDesign.Proofs.Model.DistinctNames

/-!
Contract: the errors of methods.

A registry hands the errors of its services to their methods, which need not have distinct errors by then. Where
checking finds nothing the declared errors have distinct names, and copies have names of their own, so that each name is
that of exactly one error.

Owns: which errors methods have, after sharing and in a model.
Does not own: how one method is handed its errors (`Proofs.Evaluation.SharedErrors`).
-/

namespace ApiDesign

namespace Registry

/-- Sharing errors, as one equation: nothing changes but the errors of methods. -/
theorem shareErrors_eq (registry : Registry) :
    registry.shareErrors =
      { registry with
        services := registry.services.map fun service =>
          { service with
            methods := service.methods.map fun method =>
              { method with
                errors := method.errors ++ ErrorAnswer.copiesBeside (method.errors.map (·.name)) service.errors } } } := by
  simp only [← Method.foldl_inherit]
  rfl

theorem shareErrors_shareErrors (registry : Registry) : registry.shareErrors.shareErrors = registry.shareErrors := by
  have again : ∀ service : Service, service.shareErrors.shareErrors = service.shareErrors := by
    intro service
    simp only [Service.shareErrors, List.map_map, Function.comp_def, Method.foldl_inherit_foldl_inherit]
  simp only [shareErrors, List.map_map, Function.comp_def, again]

end Registry

/-- A method with own errors only has, after sharing, these and copies of what it lacks. -/
theorem Method.HasOwnErrors.errors_foldl_inherit {method : Method} (own : method.HasOwnErrors)
    (errors : List ErrorAnswer) :
    (errors.foldl Method.inherit method).errors =
      (errors.foldl Method.inherit method).ownErrors ++
        ErrorAnswer.copiesBeside ((errors.foldl Method.inherit method).ownErrors.map (·.name)) errors := by
  rw [Method.ownErrors_foldl_inherit, Method.ownErrors_eq own, Method.foldl_inherit]

/-- Sharing gives each method, behind its errors, one copy of the first error of each name that the service has and the
method lacks. It changes nothing else, and nothing the second time. In a model, each name of an error that a method
declares or its service has is that of exactly one error of the method. -/
theorem methods_share_errors_of_service :
    (∀ registry : Registry,
      registry.shareErrors =
          { registry with
            services := registry.services.map fun service =>
              { service with
                methods := service.methods.map fun method =>
                  { method with
                    errors := method.errors ++
                      ErrorAnswer.copiesBeside (method.errors.map (·.name)) service.errors } } } ∧
        registry.shareErrors.shareErrors = registry.shareErrors) ∧
      ∀ (settings : Settings) (declarations : List Declaration) (model : Model),
        evaluate settings declarations = .ok model →
          ∀ service ∈ model.services, ∀ method ∈ service.methods,
            method.errors =
                method.ownErrors ++ ErrorAnswer.copiesBeside (method.ownErrors.map (·.name)) service.errors ∧
              ∀ name, (method.errors.map (·.name)).count name =
                if name ∈ method.ownErrors.map (·.name) ∨ name ∈ service.errors.map (·.name) then 1 else 0 := by
  refine ⟨fun registry => ⟨registry.shareErrors_eq, registry.shareErrors_shareErrors⟩, ?inModel⟩
  intro settings declarations model evaluated service member method inService
  have distinct : (method.errors.map (·.name)).Nodup :=
    ((evaluate_hasDistinctNames evaluated).ofServices service member).methodErrors method inService
  obtain ⟨registry, declares, succeeds, rfl⟩ := evaluate_eq_ok_iff.mp evaluated
  have inDerived : service ∈ (registry.derived settings).services := by simpa [Model.ofRegistry] using member
  obtain ⟨before, isDeclared, rfl⟩ := List.mem_map.mp (declares.isDeclared.services_derived.mem_iff.mp inDerived)
  have own := (declares.isDeclared.services before isDeclared).mapShapes
    (Attribute.transform (registry.completing settings))
  obtain ⟨declared, inBefore, rfl⟩ := List.mem_map.mp inService
  have errors := (own.methods declared inBefore).errors_foldl_inherit
    (before.mapShapes (Attribute.transform (registry.completing settings))).errors
  refine ⟨errors, fun name => ?_⟩
  rw [distinct.count]
  congr 1
  rw [errors, List.map_append, List.mem_append, ErrorAnswer.mem_names_copiesBeside]
  exact propext (by tauto)

/-- A method that declares one of the two errors of its service. -/
theorem methods_share_errors_of_service_storage :
    ∃ model,
      evaluate {}
        [.service "storage"
          [.error "empty" [], .error "full" [.type (.primitive .string)], .block (.method "list") [.error "full" []]]] =
          .ok model ∧
        ∀ service ∈ model.services, ∀ method ∈ service.methods,
          method.errors =
              method.ownErrors ++ ErrorAnswer.copiesBeside (method.ownErrors.map (·.name)) service.errors ∧
            ∀ name, (method.errors.map (·.name)).count name =
              if name ∈ method.ownErrors.map (·.name) ∨ name ∈ service.errors.map (·.name) then 1 else 0 :=
  exists_model (fun _ => true) (by decide +kernel) fun model evaluated _ =>
    methods_share_errors_of_service.2 {} _ model evaluated

end ApiDesign
