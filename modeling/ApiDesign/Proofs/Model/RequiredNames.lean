import ApiDesign.Proofs.Model.Vocabulary
import ApiDesign.Proofs.Schema.Aliases

/-!
Contract: what an attribute of a model requires is there, where the attribute denotes anything.

An attribute denotes what its chain of aliases ends at. In a model every name is known and stands for no shortcut, so
the only chains that end nowhere are those that run into a cycle. The required names of all other attributes are names
of fields of the object they denote. An attribute on a cycle denotes nothing, and its required names are not looked at.

Owns: `Vocabulary.HasFieldsFor`, required names in the model.
Does not own: where chains of aliases end (`Proofs.Schema.Aliases`).
-/

namespace ApiDesign

/-- Every one of some names is the name of a field of a type; there are none unless the type is an object. -/
def DataType.HasFieldsFor (names : List String) (type : DataType) : Prop :=
  ∀ name ∈ names, ∃ fields, type = .object fields ∧ name ∈ fields.map Prod.fst

theorem DataType.HasFieldsFor.transform {names : List String} {type : DataType} (has : type.HasFieldsFor names)
    (change : Transformation) : (type.transform change).HasFieldsFor names := by
  intro name member
  obtain ⟨fields, rfl, named⟩ := has name member
  exact ⟨_, rfl, by rwa [DataType.map_fst_transformFields]⟩

/-- Where a node has no finding, the type that its aliases lead to has fields for its required names. -/
theorem Vocabulary.hasFieldsFor_of_nodeFindings {vocabulary : Vocabulary} {trail : List String} {node : Attribute}
    (nothing : vocabulary.nodeFindings trail node = []) {steps : Nat} {final : DataType}
    (leads : vocabulary.Leads steps node.type final) : final.HasFieldsFor node.required := by
  simp only [nodeFindings, List.append_eq_nil_iff] at nothing
  have noneMissing := nothing.1.2
  have isConcrete := leads.isConcrete
  unfold requiredFindings fieldsOf? at noneMissing
  rw [meaning_eq_concrete leads] at noneMissing
  intro name member
  cases final with
  | object fields =>
      refine ⟨fields, rfl, ?_⟩
      simpa using List.filter_eq_nil_iff.mp (List.map_eq_nil_iff.mp noneMissing) name member
  | named reference => simp [DataType.isReference, DataType.reference?] at isConcrete
  | collection reference => simp [DataType.isReference, DataType.reference?] at isConcrete
  | _ => simpa using List.filter_eq_nil_iff.mp (List.map_eq_nil_iff.mp noneMissing) name member

namespace Model

/-- The references of a consistent model have known names. -/
theorem IsConsistent.knows {model : Model} (consistent : model.IsConsistent) {node : Attribute}
    (member : node ∈ model.nodes) : model.vocabulary.Knows node.type := by
  intro reference isReference
  have inReferences : reference ∈ model.references :=
    List.mem_append_left _ (List.mem_filterMap.mpr ⟨node, member, by rw [isReference]; rfl⟩)
  obtain ⟨declaration, _, _, known⟩ := consistent.linked reference inReferences
  exact Option.isSome_iff_exists.mpr ⟨_, known⟩

theorem IsConsistent.isClosed {model : Model} (consistent : model.IsConsistent) : model.vocabulary.IsClosed := by
  intro name shape stands
  have found : model.shapeOf? name = some shape := stands
  rw [consistent.shapeOf] at found
  obtain ⟨declaration, denotes, rfl⟩ := Option.map_eq_some_iff.mp found
  exact consistent.knows (List.mem_flatMap.mpr ⟨_, mem_shapes_of_denoted? denotes, self_mem_nodes _⟩)

end Model

/-- Every attribute in a model, at any depth, denotes a type that has a field for each name it requires, or its aliases
run into a cycle. -/
theorem hasFieldsFor_required {settings : Settings} {declarations : List Declaration} {model : Model}
    (evaluated : evaluate settings declarations = .ok model) {node : Attribute} (member : node ∈ model.nodes) :
    (∃ steps final, model.vocabulary.Leads steps node.type final ∧ final.HasFieldsFor node.required) ∨
      model.vocabulary.RunsIntoCycle node.type := by
  obtain ⟨registry, declares, succeeds, rfl⟩ := evaluate_eq_ok_iff.mp evaluated
  have declared := declares.isDeclared
  have consistent := succeeds.isConsistent declared
  rcases Vocabulary.leads_or_runsIntoCycle consistent.hasNoShortcuts consistent.isClosed
    (consistent.noShortcut node member) (consistent.knows member) with ⟨steps, final, leads⟩ | cycle
  · -- Required names were looked for before linking, where the same chain led to the same type, not yet linked.
    rw [succeeds.nodes_eq] at member
    obtain ⟨before, inPrepared, rfl⟩ := List.mem_map.mp member
    obtain ⟨trail, nothing⟩ :=
      Registry.exists_nodeFindings_eq_nil declared.sharesErrors_prepared succeeds.noFinding before inPrepared
    obtain ⟨type, rfl, leadsBefore⟩ :=
      (succeeds.relinks declared).exists_leads leads (Attribute.type_transform _ before).symm
    have sameRequired : (before.transform (linking (registry.prepared settings).typeIndex)).required =
        before.required := by
      cases before
      rfl
    refine .inl ⟨steps, _, leads, ?_⟩
    rw [sameRequired]
    exact (Vocabulary.hasFieldsFor_of_nodeFindings nothing leadsBefore).transform _
  · exact .inr cycle

/-- Names required through two aliases. -/
theorem hasFieldsFor_required_vintage :
    ∃ model,
      evaluate {}
        [.userType "Bottle" [.clauses [.child "name" [], .child "year" []]], .userType "Wine" [.text "Bottle"],
          .userType "Vintage" [.text "Wine", .clauses [.setting (.required ["year"])]]] = .ok model ∧
        ∃ node ∈ model.nodes, node.required = ["year"] ∧ node.type.name = "Wine" ∧
          ((∃ steps final, model.vocabulary.Leads steps node.type final ∧ final.HasFieldsFor node.required) ∨
            model.vocabulary.RunsIntoCycle node.type) := by
  refine exists_model (fun model => model.nodes.any fun node =>
    node.required == ["year"] && node.type.name == "Wine") (by decide +kernel) fun model evaluated passes => ?_
  obtain ⟨node, member, facts⟩ := List.any_eq_true.mp passes
  simp only [Bool.and_eq_true, beq_iff_eq] at facts
  exact ⟨node, member, facts.1, facts.2, hasFieldsFor_required evaluated member⟩

/-- A type that is declared as itself denotes nothing, and may require any name. -/
theorem exists_required_of_cycle :
    ∃ model, evaluate {} [.userType "Ouroboros" [.text "Ouroboros", .clauses [.setting (.required ["tail"])]]] =
        .ok model ∧
      ∃ node ∈ model.nodes, node.required = ["tail"] ∧
        ¬ ∃ steps final, model.vocabulary.Leads steps node.type final := by
  refine exists_model (fun model => model.nodes.any fun node =>
    node.required == ["tail"] && (model.vocabulary.fieldsOf? node.type).isNone) (by decide +kernel)
    fun model _ passes => ?_
  obtain ⟨node, member, facts⟩ := List.any_eq_true.mp passes
  simp only [Bool.and_eq_true, beq_iff_eq, Option.isNone_iff_eq_none] at facts
  refine ⟨node, member, facts.1, ?_⟩
  rintro ⟨steps, final, leads⟩
  have denotesNothing := facts.2
  unfold Vocabulary.fieldsOf? at denotesNothing
  rw [Vocabulary.meaning_eq_concrete leads] at denotesNothing
  cases final <;> cases denotesNothing

end ApiDesign
