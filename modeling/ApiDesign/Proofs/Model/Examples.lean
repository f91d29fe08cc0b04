import ApiDesign.Proofs.Evaluation.Completion
import ApiDesign.Proofs.Evaluation.Leftovers
import ApiDesign.Proofs.Model.Vocabulary

/-!
Contract: for which attributes of a model examples are generated.

Marking walks every shape that there is when result types have been generated. What follows copies marked shapes,
sorts declarations and links references, so each attribute of the model is one that was marked, with the same details.

Owns: the switch for examples, read from a model.
Does not own: that later stages keep the nodes (`Proofs.Evaluation.Leftovers`, `Proofs.Model.Vocabulary`).
-/

namespace ApiDesign

theorem Details.generateExamples_markExamples_iff {allowed : Bool} {details : Details} :
    (details.markExamples allowed).generateExamples = true ↔
      allowed = true ∧ (details.markExamples allowed).metadata.find? Metadata.exampleSwitch ≠ some "false" := by
  simp [markExamples, Metadata.disablesExamples]

namespace Registry

variable {settings : Settings} {registry : Registry}

theorem allowsExamples_iff :
    registry.allowsExamples settings = true ↔ settings.generateExamples = true ∧
      ∀ api ∈ registry.api, api.metadata.find? Metadata.exampleSwitch ≠ some "false" := by
  unfold allowsExamples Metadata.disablesExamples
  cases registry.api <;> simp

/-- Evaluation keeps what the API says about examples. -/
theorem IsDeclared.allowsExamples_derived (declared : registry.IsDeclared) :
    (registry.derived settings).allowsExamples settings = (registry.generated settings).allowsExamples settings := by
  unfold allowsExamples
  rw [declared.api_derived, declared.api_generated, Option.any_map, Option.any_map]
  rfl

/-- An attribute of the prepared registry carries the flag that its own details and the generated registry give. -/
theorem generateExamples_prepared_iff {node : Attribute} (member : node ∈ (registry.prepared settings).nodes) :
    node.details.generateExamples = true ↔
      (registry.generated settings).allowsExamples settings = true ∧
        node.details.metadata.find? Metadata.exampleSwitch ≠ some "false" := by
  obtain ⟨⟨type, details⟩, _, rfl⟩ := mem_nodes_prepared.mp member
  exact Details.generateExamples_markExamples_iff

end Registry

/-- In every model of an evaluation, examples are generated for exactly the attributes, at any depth and place, that do
not switch them off, provided that neither the settings nor the API do. -/
theorem generateExamples_iff {settings : Settings} {declarations : List Declaration} {model : Model}
    (evaluated : evaluate settings declarations = .ok model) {node : Attribute} (member : node ∈ model.nodes) :
    node.details.generateExamples = true ↔
      settings.generateExamples = true ∧
        (∀ api ∈ model.api, api.metadata.find? Metadata.exampleSwitch ≠ some "false") ∧
        node.details.metadata.find? Metadata.exampleSwitch ≠ some "false" := by
  obtain ⟨registry, declares, succeeds, rfl⟩ := evaluate_eq_ok_iff.mp evaluated
  rw [succeeds.nodes_eq] at member
  obtain ⟨⟨type, details⟩, inPrepared, rfl⟩ := List.mem_map.mp member
  have marked := Registry.generateExamples_prepared_iff inPrepared
  rw [← declares.isDeclared.allowsExamples_derived, Registry.allowsExamples_iff, and_assoc] at marked
  exact marked

/-- A host variable, a generated collection, and two attributes that switch examples off: a field and, copied to a
method, an error. The API has another switch, which does not count. -/
theorem generateExamples_iff_depot :
    ∃ model,
      evaluate {}
        [.api "depot"
          [.setting (.metadata "openapi:generate" "false"),
            .block (.server "front")
              [.block (.host "prod")
                [.setting (.uri "https://\x7bregion\x7d.example"),
                  .hostVariable "region" [.clauses [.setting (.defaultValue (.text "eu"))]]]]],
          .resultType "vnd.crate"
            [.child "id" [], .child "label" [.clauses [.setting (.metadata Metadata.exampleSwitch "false")]],
              .block (.view "default") [.child "id" []]],
          .service "storage"
            [.error "full" [.clauses [.setting (.metadata Metadata.exampleSwitch "false")]],
              .block (.method "list") [.result [.type (.collectionOf "vnd.crate")]]]] = .ok model ∧
        (model.nodes.countP fun node => !node.details.generateExamples) = 3 ∧
        ∀ node ∈ model.nodes, node.details.generateExamples = true ↔
          node.details.metadata.find? Metadata.exampleSwitch ≠ some "false" := by
  refine exists_model (fun model => (model.nodes.countP fun node => !node.details.generateExamples) == 3 &&
    model.api.all fun api => api.metadata.find? Metadata.exampleSwitch != some "false") (by decide +kernel)
    fun model evaluated passes => ?_
  simp only [Bool.and_eq_true, beq_iff_eq] at passes
  obtain ⟨marked, apiAllows⟩ := passes
  refine ⟨marked, fun node member => ?_⟩
  have allowed : ∀ api ∈ model.api, api.metadata.find? Metadata.exampleSwitch ≠ some "false" := by
    intro api isApi
    rw [isApi] at apiAllows
    simpa using apiAllows
  rw [generateExamples_iff evaluated member, and_iff_right rfl, and_iff_right allowed]

end ApiDesign
