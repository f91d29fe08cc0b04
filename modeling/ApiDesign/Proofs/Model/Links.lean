import ApiDesign.Proofs.Evaluation.Links
import ApiDesign.Proofs.Evaluation.Views

/-!
Contract: the references of a model lead to what their names denote.

`Model.IsConsistent` says what a user of a model relies on when following references and looking names up. Evaluation
only answers models that have it.

Owns: the shapes and references of a model, `Model.IsConsistent`, the passage from a derived registry to its model.
Does not own: views (`Proofs.Model.DefaultViews`), values (`Proofs.Model.Shortcuts`).
-/

namespace ApiDesign

/-! ## What a model contains -/

namespace Model

/-- All shapes of a model: the variables of hosts, the shapes of services, the user types, the result types. -/
def shapes (model : Model) : List Attribute :=
  (model.api.toList.flatMap (·.servers) ++ model.services.toList.flatMap (·.servers)).flatMap Server.shapes ++
    model.services.toList.flatMap Service.ownShapes ++ model.userTypes.toList.map (·.shape) ++
    model.resultTypes.toList.map (·.shape)

/-- All attributes of a model at any depth. -/
def nodes (model : Model) : List Attribute := model.shapes.flatMap Attribute.nodes

/-- The references of a model: those of its attributes and those of its collections to their elements. -/
def references (model : Model) : List TypeRef :=
  (model.nodes.filterMap fun node => node.type.reference?) ++
    model.resultTypes.toList.filterMap fun resultType => resultType.collection.map (·.element)

/-- No shortcut is left, every reference is linked to the declaration that its name denotes, the arenas are in
strictly ascending order, and looking a name up finds what a search through all declarations finds. -/
structure IsConsistent (model : Model) : Prop where
  noShortcut : ∀ node ∈ model.nodes, node.type.shortcut? = none
  linked : ∀ reference ∈ model.references, ∃ declaration, model.denoted? reference.name = some declaration ∧
    model.resolve? reference = some declaration ∧ model.shapeOf? reference.name = some declaration.shape
  elements : ∀ resultType ∈ model.resultTypes, ∀ facts, resultType.collection = some facts →
    ∃ element, model.denoted? facts.element.name = some (.result element)
  ascending : model.IsAscending
  service : ∀ name, model.service? name = model.services.find? (·.name == name)
  userType : ∀ name, model.userType? name = model.userTypes.find? (·.name == name)
  resultType : ∀ name, model.resultType? name =
    (model.resultTypes.find? (·.identifier == name)).or (model.resultTypes.find? (·.typeName == name))
  shapeOf : ∀ name, model.shapeOf? name = (model.denoted? name).map (·.shape)

@[simp] theorem mem_resultTypes_ofRegistry {registry : Registry} {resultType : ResultType} :
    resultType ∈ (Model.ofRegistry registry).resultTypes ↔ resultType ∈ registry.resultTypes := by
  rw [Model.ofRegistry, List.mem_toArray]

theorem nodes_ofRegistry (registry : Registry) : (Model.ofRegistry registry).nodes = registry.nodes := rfl

/-- Over ascending arenas every look-up finds what a search through all declarations finds. -/
theorem IsAscending.lookups {model : Model} (ascending : model.IsAscending) (name : String) :
    model.service? name = model.services.find? (·.name == name) ∧
      model.userType? name = model.userTypes.find? (·.name == name) ∧
      model.resultType? name =
        (model.resultTypes.find? (·.identifier == name)).or (model.resultTypes.find? (·.typeName == name)) := by
  unfold service? userType? resultType?
  rw [search?_eq_find? ascending.services, search?_eq_find? ascending.userTypes,
    search?_eq_find? ascending.resultTypes]
  exact ⟨rfl, rfl, rfl⟩

/-- Whether some collection of a model passes a check together with its element. -/
def anyCollection (check : ResultType → ResultType → Bool) (model : Model) : Bool :=
  model.resultTypes.any fun collection => collection.collection.any fun facts =>
    match model.resolve? facts.element with
    | some (.result element) => check collection element
    | _ => false

theorem exists_of_anyCollection {model : Model} {check : ResultType → ResultType → Bool}
    (passes : model.anyCollection check = true) :
    ∃ collection ∈ model.resultTypes, ∃ facts element, collection.collection = some facts ∧
      model.resolve? facts.element = some (.result element) ∧ check collection element = true := by
  obtain ⟨collection, member, inCollection⟩ := Array.any_eq_true'.mp passes
  obtain ⟨facts, collects, isElement⟩ := (Option.any_eq_true _ _).mp inCollection
  cases leads : model.resolve? facts.element with
  | none => simp [leads] at isElement
  | some declaration =>
      cases declaration with
      | user userType => simp [leads] at isElement
      | result element =>
          simp only [leads] at isElement
          exact ⟨collection, member, facts, element, collects, leads, isElement⟩

/-- The element of a collection is the result type that its name denotes. -/
theorem IsConsistent.exists_element {model : Model} (consistent : model.IsConsistent) {collection : ResultType}
    (member : collection ∈ model.resultTypes) {facts : Collection} (collects : collection.collection = some facts) :
    ∃ element, model.denoted? facts.element.name = some (.result element) ∧
      model.resolve? facts.element = some (.result element) := by
  obtain ⟨element, denotes⟩ := consistent.elements collection member facts collects
  have isReference : facts.element ∈ model.references := by
    refine List.mem_append_right _ (List.mem_filterMap.mpr ⟨collection, by simpa using member, ?_⟩)
    rw [collects, Option.map_some]
  obtain ⟨declaration, alsoDenotes, leads, _⟩ := consistent.linked _ isReference
  rw [denotes] at alsoDenotes
  cases alsoDenotes
  exact ⟨element, denotes, leads⟩

end Model

/-! ## The last two stages -/

namespace Registry

theorem names_link (kind : RootKind) (index : TypeIndex) (registry : Registry) :
    (registry.link index).names kind = registry.names kind := by
  cases kind with
  | resultType =>
      simp only [names, resultTypes_link, List.map_map]
      apply List.map_congr_left
      intro resultType _
      exact ResultType.identifier_link index resultType
  | api => exact names_mapShapes _ .api registry
  | service => exact names_mapShapes _ .service registry
  | userType => exact names_mapShapes _ .userType registry

theorem typeNames_link (index : TypeIndex) (registry : Registry) :
    (registry.link index).resultTypes.map (·.typeName) = registry.resultTypes.map (·.typeName) := by
  rw [resultTypes_link, List.map_map]
  apply List.map_congr_left
  intro resultType _
  exact ResultType.typeName_link index resultType

/-- Deriving views keeps whatever does not depend on views. -/
theorem map_resultTypes_deriveViews {α : Type} (part : ResultType → α)
    (blind : ∀ resultType, part resultType.withoutViews = part resultType) (registry : Registry) :
    registry.deriveViews.1.resultTypes.map part = registry.resultTypes.map part := by
  have perViews : ∀ resultTypes : List ResultType,
      (resultTypes.map (·.withoutViews)).map part = resultTypes.map part := by
    intro resultTypes
    rw [List.map_map]
    apply List.map_congr_left
    intro resultType _
    exact blind resultType
  unfold deriveViews
  simp only
  rw [← perViews, Derivation.map_withoutViews_run, perViews]

theorem names_deriveViews (kind : RootKind) (registry : Registry) :
    registry.deriveViews.1.names kind = registry.names kind := by
  cases kind with
  | resultType => exact map_resultTypes_deriveViews (·.identifier) (fun _ => rfl) registry
  | _ => rfl

theorem nodes_deriveViews (registry : Registry) : registry.deriveViews.1.nodes = registry.nodes := by
  have sameResults := map_resultTypes_deriveViews (·.shape) (fun _ => rfl) registry
  unfold nodes shapes
  rw [sameResults]
  rfl

/-! ## The derived registry -/

variable {settings : Settings} {registry : Registry}

/-- From the prepared registry on, names do not change. -/
theorem names_derived (kind : RootKind) :
    (registry.derived settings).names kind = (registry.prepared settings).names kind := by
  unfold derived linked
  rw [names_deriveViews, names_link]

theorem typeNames_derived :
    (registry.derived settings).resultTypes.map (·.typeName) =
      (registry.prepared settings).resultTypes.map (·.typeName) := by
  unfold derived linked
  rw [map_resultTypes_deriveViews (·.typeName) fun _ => rfl, typeNames_link]

theorem denoted?_derived (name : String) :
    (registry.derived settings).denoted? name = (registry.prepared settings).denoted? name := by
  unfold denoted?
  rw [names_derived, names_derived, typeNames_derived]

/-- Sealing puts distinct names in strictly ascending order. -/
theorem pairwise_lt_names_toSealed {kind : RootKind} (notApi : kind ≠ .api) {registry : Registry}
    (distinct : (registry.names kind).Nodup) :
    (registry.toSealed.names kind).Pairwise fun left right => left < right := by
  unfold toSealed
  rw [names_reindex]
  cases kind with
  | api => exact absurd rfl notApi
  | service => exact List.pairwise_map.mpr (pairwise_lt_sortByName _ _ distinct)
  | userType => exact List.pairwise_map.mpr (pairwise_lt_sortByName _ _ distinct)
  | resultType => exact List.pairwise_map.mpr (pairwise_lt_sortByName _ _ distinct)

/-- The arenas of a derived registry are those of a sealed one, in ascending order. -/
theorem IsDeclared.isAscending (declared : registry.IsDeclared) :
    (Model.ofRegistry (registry.derived settings)).IsAscending := by
  have ordered : ∀ kind : RootKind, kind ≠ .api →
      ((registry.derived settings).names kind).Pairwise fun left right => left < right := by
    intro kind notApi
    rw [names_derived]
    unfold prepared
    exact pairwise_lt_names_toSealed notApi (declared.isIndexed_completed.nodup kind)
  exact ⟨List.pairwise_map.mp (ordered .service (by decide)), List.pairwise_map.mp (ordered .userType (by decide)),
    List.pairwise_map.mp (ordered .resultType (by decide))⟩

/-- What the index of the prepared registry knows is what names denote in the model. -/
theorem IsDeclared.find?_typeIndex_eq (declared : registry.IsDeclared) (name : String) :
    (registry.prepared settings).typeIndex.find? name = (registry.derived settings).denoted? name := by
  rw [declared.isIndexed_prepared.find?_typeIndex, denoted?_derived]

/-- A reference that is linked to what the index says leads to the declaration that its name denotes. -/
theorem IsDeclared.exists_declaration (declared : registry.IsDeclared) {reference : TypeRef} {target : TypeId}
    (isLinked : reference.target = some target)
    (found : (registry.prepared settings).typeIndex.find? reference.name = some target) :
    ∃ declaration, (Model.ofRegistry (registry.derived settings)).declaration? target = some declaration ∧
      (Model.ofRegistry (registry.derived settings)).denoted? reference.name = some declaration ∧
      (Model.ofRegistry (registry.derived settings)).resolve? reference = some declaration ∧
      (Model.ofRegistry (registry.derived settings)).shapeOf? reference.name = some declaration.shape := by
  rw [declared.find?_typeIndex_eq] at found
  obtain ⟨declaration, there⟩ := Option.isSome_iff_exists.mp (Model.isSome_declaration?_of_denoted? found)
  have denotes : (Model.ofRegistry (registry.derived settings)).denoted? reference.name = some declaration := by
    rw [Model.denoted?_ofRegistry, found]
    exact there
  refine ⟨declaration, there, denotes, ?_, ?_⟩
  · rw [Model.resolve?_eq_bind, isLinked]
    exact there
  · rw [declared.isAscending.shapeOf?_eq, denotes]
    rfl

/-- Where nothing is unresolved, every attribute of the model is linked to what the index of the prepared registry
says. -/
theorem Succeeds.isLinked (succeeds : registry.Succeeds settings) (declared : registry.IsDeclared) :
    ∀ node ∈ (Model.ofRegistry (registry.derived settings)).nodes,
      node.type.IsLinked (registry.prepared settings).typeIndex := by
  rw [Model.nodes_ofRegistry]
  unfold derived linked
  rw [nodes_deriveViews]
  exact isLinked_of_mem_nodes_link declared.sharesErrors_prepared succeeds.noUnresolved

/-- Where nothing is unresolved, so is every collection, to a result type. -/
theorem Succeeds.isLinked_element (succeeds : registry.Succeeds settings) {resultType : ResultType}
    (member : resultType ∈ (registry.derived settings).resultTypes) {facts : Collection}
    (collects : resultType.collection = some facts) :
    ∃ position, facts.element.target = some (.result position) ∧
      (registry.prepared settings).typeIndex.find? facts.element.name = some (.result position) := by
  have inDerived : resultType.collection ∈ (registry.derived settings).resultTypes.map (·.collection) :=
    List.mem_map_of_mem member
  unfold derived at inDerived
  rw [map_resultTypes_deriveViews (·.collection) (fun _ => rfl) (registry.linked settings)] at inDerived
  obtain ⟨before, inLinked, same⟩ := List.mem_map.mp inDerived
  unfold linked at inLinked
  exact element_of_mem_resultTypes_link succeeds.noUnresolved inLinked (same.trans collects)

/-- Every reference of the model leads to the declaration that its name denotes. -/
theorem Succeeds.exists_declaration (succeeds : registry.Succeeds settings) (declared : registry.IsDeclared)
    {reference : TypeRef} (member : reference ∈ (Model.ofRegistry (registry.derived settings)).references) :
    ∃ declaration, (Model.ofRegistry (registry.derived settings)).denoted? reference.name = some declaration ∧
      (Model.ofRegistry (registry.derived settings)).resolve? reference = some declaration ∧
      (Model.ofRegistry (registry.derived settings)).shapeOf? reference.name = some declaration.shape := by
  have target : ∃ target, reference.target = some target ∧
      (registry.prepared settings).typeIndex.find? reference.name = some target := by
    rcases List.mem_append.mp member with ofNode | ofCollection
    · obtain ⟨node, inNodes, isReference⟩ := List.mem_filterMap.mp ofNode
      have linked := succeeds.isLinked declared node inNodes
      cases type : node.type with
      | named named =>
          rw [type] at linked isReference
          cases isReference
          exact linked
      | collection shortcut =>
          rw [type] at linked
          exact linked.elim
      | _ =>
          rw [type] at isReference
          cases isReference
    · obtain ⟨resultType, inResultTypes, isElement⟩ := List.mem_filterMap.mp ofCollection
      obtain ⟨facts, collects, rfl⟩ := Option.map_eq_some_iff.mp isElement
      obtain ⟨position, both⟩ := succeeds.isLinked_element inResultTypes collects
      exact ⟨_, both⟩
  obtain ⟨target, isLinked, found⟩ := target
  obtain ⟨declaration, _, leads⟩ := declared.exists_declaration isLinked found
  exact ⟨declaration, leads⟩

/-- A registry that succeeds becomes a consistent model. -/
theorem Succeeds.isConsistent (succeeds : registry.Succeeds settings) (declared : registry.IsDeclared) :
    (Model.ofRegistry (registry.derived settings)).IsConsistent := by
  have ascending : (Model.ofRegistry (registry.derived settings)).IsAscending := declared.isAscending
  refine ⟨?_, fun _ member => succeeds.exists_declaration declared member, ?_, ascending,
    fun name => (ascending.lookups name).1, fun name => (ascending.lookups name).2.1,
    fun name => (ascending.lookups name).2.2, ascending.shapeOf?_eq⟩
  · intro node member
    have linked := succeeds.isLinked declared node member
    cases type : node.type with
    | collection reference =>
        rw [type] at linked
        exact linked.elim
    | _ => rfl
  · intro resultType member facts collects
    obtain ⟨position, isLinked, found⟩ :=
      succeeds.isLinked_element (Model.mem_resultTypes_ofRegistry.mp member) collects
    obtain ⟨declaration, there, denotes, _⟩ := declared.exists_declaration isLinked found
    obtain ⟨element, _, rfl⟩ := Option.map_eq_some_iff.mp there
    exact ⟨element, denotes⟩

end Registry

/-! ## Models -/

/-- Every model of an evaluation is consistent. -/
theorem evaluate_isConsistent {settings : Settings} {declarations : List Declaration} {model : Model}
    (evaluated : evaluate settings declarations = .ok model) : model.IsConsistent := by
  obtain ⟨registry, declares, succeeds, rfl⟩ := evaluate_eq_ok_iff.mp evaluated
  exact succeeds.isConsistent declares.isDeclared

/-- Shortcuts in a user type and in the result of a method, by type name and by identifier, and an inherited error. -/
theorem isConsistent_cellar :
    ∃ model,
      evaluate {}
        [.resultType "vnd.bottle"
          [.child "year" [.type (.primitive .int32)], .block (.view "default") [.child "year" []]],
          .userType "Cellar" [.type (.array (.ofType (.collectionOf "Bottle")))],
          .service "storage" [.error "empty" [],
            .block (.method "list") [.payload [.text "Cellar"], .result [.type (.collectionOf "vnd.bottle")]]]] =
        .ok model ∧ model.IsConsistent :=
  exists_model (fun _ => true) (by decide +kernel) fun _ evaluated _ => evaluate_isConsistent evaluated

end ApiDesign
