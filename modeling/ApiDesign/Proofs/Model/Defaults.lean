import ApiDesign.Proofs.Model.Vocabulary

/-!
Contract: a model never offers a default that its own types refuse.

Defaults are checked before references are linked, against the prepared registry, and the errors that a method has from
its service are not checked again. Still every default anywhere in a model is accepted by the type it stands with, as
the model itself looks types up: inherited errors are copies, and linking changes no meaning.

Owns: the passage from findings to the attributes of a model.
Does not own: which walks cover which shapes (`Proofs.Evaluation.Coverage`).
-/

namespace ApiDesign

/-- Every default in a model, at any depth, is a value of its type. -/
theorem accepts_defaultValue {settings : Settings} {declarations : List Declaration} {model : Model}
    (evaluated : evaluate settings declarations = .ok model) {node : Attribute} (member : node ∈ model.nodes)
    {value : Value} (carries : node.details.defaultValue = some value) :
    model.vocabulary.accepts node.type value = true := by
  obtain ⟨registry, declares, succeeds, rfl⟩ := evaluate_eq_ok_iff.mp evaluated
  have declared := declares.isDeclared
  rw [succeeds.nodes_eq] at member
  obtain ⟨before, inPrepared, rfl⟩ := List.mem_map.mp member
  obtain ⟨trail, nothing⟩ :=
    Registry.exists_nodeFindings_eq_nil declared.sharesErrors_prepared succeeds.noFinding before inPrepared
  have carriedBefore : before.details.defaultValue = some value := by
    obtain ⟨type, details⟩ := before
    exact carries
  rw [Attribute.type_transform,
    (succeeds.relinks declared).accepts_transform (succeeds.hasNoShortcuts_prepared declared)]
  exact Vocabulary.accepts_of_nodeFindings nothing carriedBefore

/-- A method inherits an error whose default is a value of a recursive type. -/
theorem accepts_defaultValue_inherited :
    ∃ model,
      evaluate {}
        [.userType "Tree" [.type (.array (.ofType (.reference "Tree")))],
          .service "forest"
            [.error "felled" [.text "Tree", .clauses [.setting (.defaultValue (.array [.array [], .array []]))]],
              .block (.method "visit") []]] = .ok model ∧
        ∃ service ∈ model.services, ∃ method ∈ service.methods, ∃ error ∈ method.errors, ∃ value,
          error.inherited = true ∧ error.shape.type.name = "Tree" ∧ error.shape.details.defaultValue = some value ∧
            model.vocabulary.accepts error.shape.type value = true := by
  refine exists_model (fun model => model.services.any fun service => service.methods.any fun method =>
    method.errors.any fun error => error.inherited && error.shape.type.name == "Tree" &&
      error.shape.details.defaultValue.isSome) (by decide +kernel) fun model evaluated passes => ?_
  obtain ⟨service, inServices, inService⟩ := Array.any_eq_true'.mp passes
  obtain ⟨method, inMethods, inMethod⟩ := List.any_eq_true.mp inService
  obtain ⟨error, inErrors, facts⟩ := List.any_eq_true.mp inMethod
  simp only [Bool.and_eq_true, beq_iff_eq] at facts
  obtain ⟨⟨inherited, named⟩, hasDefault⟩ := facts
  obtain ⟨value, carries⟩ := Option.isSome_iff_exists.mp hasDefault
  have inOwn : error.shape ∈ service.ownShapes :=
    List.mem_append_right _ (List.mem_flatMap.mpr
      ⟨method, inMethods, List.mem_append_right _ (List.mem_map_of_mem inErrors)⟩)
  have inShapes : error.shape ∈ model.shapes := by
    simp only [Model.shapes, List.mem_append]
    exact .inl (.inl (.inr (List.mem_flatMap.mpr ⟨service, by simpa using inServices, inOwn⟩)))
  have inNodes : error.shape ∈ model.nodes :=
    List.mem_flatMap.mpr ⟨error.shape, inShapes, Model.self_mem_nodes error.shape⟩
  exact ⟨service, inServices, method, inMethods, error, inErrors, value, inherited, named, carries,
    accepts_defaultValue evaluated inNodes carries⟩

end ApiDesign
