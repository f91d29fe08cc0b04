import ApiDesign.Proofs.Evaluation.DistinctNames
import ApiDesign.Proofs.Model.Vocabulary

/-!
Contract: whatever has a name in a model is the only one of that name in its scope.

Declarations of a kind are told apart by registration, and renamed or generated collections take free identifiers only.
Everything inside a declaration is compared while checking, and what comes later keeps names distinct.

Owns: `Model.HasDistinctNames`.
Does not own: how the stages keep names distinct (`Proofs.Evaluation.DistinctNames`).
-/

namespace ApiDesign

/-- Names are distinct at every scope of a model: within each kind of declarations, within servers, services, methods
and result types, and among the fields of every inline object at any depth. -/
structure Model.HasDistinctNames (model : Model) : Prop where
  services : (model.services.toList.map (·.name)).Nodup
  userTypes : (model.userTypes.toList.map (·.name)).Nodup
  resultTypes : (model.resultTypes.toList.map (·.identifier)).Nodup
  ofApi : ∀ api ∈ model.api, AreDistinctServers api.servers
  ofServices : ∀ service ∈ model.services, service.HasDistinctNames
  views : ∀ resultType ∈ model.resultTypes, (resultType.views.map (·.name)).Nodup
  fields : ∀ node ∈ model.nodes, (node.fields.map Prod.fst).Nodup

/-- A node without a finding has distinct fields. -/
theorem Vocabulary.nodup_fields_of_nodeFindings {vocabulary : Vocabulary} {trail : List String} {node : Attribute}
    (nothing : vocabulary.nodeFindings trail node = []) : (node.fields.map Prod.fst).Nodup := by
  simp only [nodeFindings, List.append_eq_nil_iff, duplicateFindings_eq_nil_iff] at nothing
  exact nothing.2

/-- Linking keeps the names of fields. -/
theorem Attribute.map_fst_fields_linking (index : TypeIndex) (node : Attribute) :
    (node.transform (linking index)).fields.map Prod.fst = node.fields.map Prod.fst := by
  unfold Attribute.fields
  rw [Attribute.type_transform]
  cases node.type with
  | object fields => exact DataType.map_fst_transformFields (linking index) fields
  | _ => rfl

/-- Names are distinct at every scope of the model of a registry that succeeds. -/
theorem Registry.Succeeds.hasDistinctNames {settings : Settings} {registry : Registry}
    (succeeds : registry.Succeeds settings) (declared : registry.IsDeclared) :
    (Model.ofRegistry (registry.derived settings)).HasDistinctNames := by
  have ofKind : ∀ kind : RootKind, ((registry.derived settings).names kind).Nodup := by
    intro kind
    rw [names_derived]
    exact declared.isIndexed_prepared.nodup kind
  have within : (registry.derived settings).HasDistinctNames := by
    unfold derived linked
    exact ((declared.hasDistinctNames_prepared succeeds.noFinding).link _).deriveViews
  refine ⟨ofKind .service, ofKind .userType, ofKind .resultType, within.api, ?ofServices, ?views, ?fields⟩
  case ofServices => exact fun service member => within.services service (by simpa [Model.ofRegistry] using member)
  case views => exact fun resultType member => within.views resultType (by simpa [Model.ofRegistry] using member)
  case fields =>
    intro node member
    rw [succeeds.nodes_eq] at member
    obtain ⟨before, inPrepared, rfl⟩ := List.mem_map.mp member
    obtain ⟨trail, nothing⟩ :=
      exists_nodeFindings_eq_nil declared.sharesErrors_prepared succeeds.noFinding before inPrepared
    rw [Attribute.map_fst_fields_linking]
    exact Vocabulary.nodup_fields_of_nodeFindings nothing

/-- In every model of an evaluation, names are distinct at every scope. -/
theorem evaluate_hasDistinctNames {settings : Settings} {declarations : List Declaration} {model : Model}
    (evaluated : evaluate settings declarations = .ok model) : model.HasDistinctNames := by
  obtain ⟨registry, declares, succeeds, rfl⟩ := evaluate_eq_ok_iff.mp evaluated
  exact succeeds.hasDistinctNames declares.isDeclared

/-- A method with an own and an inherited error, a collection with the views of its element, a view without a name, and
an object inside an array. -/
theorem hasDistinctNames_cellar :
    ∃ model,
      evaluate {}
        [.resultType "vnd.bottle"
          [.child "id" [],
            .child "vintages" [.type (.array (.ofType (.object [("year", .string), ("note", .string)])))],
            .block (.view "") [.child "id" []], .block (.view "tiny") []],
          .collectionOf "Bottle" [],
          .service "storage" [.error "empty" [], .error "full" [],
            .block (.method "list") [.error "full" [], .result [.type (.collectionOf "vnd.bottle")]]]] = .ok model ∧
        model.HasDistinctNames :=
  exists_model (fun _ => true) (by decide +kernel) fun _ evaluated _ => evaluate_hasDistinctNames evaluated

end ApiDesign
