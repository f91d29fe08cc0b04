import ApiDesign.Proofs.Model.Links
import ApiDesign.Proofs.Schema.Relinking

/-!
Contract: the types of a model accept what the types of the prepared registry accepted.

Checks look shapes up in the prepared registry, users of a model in the model. Between the two lie sealing, which puts
an index in place of a search, and linking, which changes every shape. Both vocabularies know the same names, each
with the shape before and after linking, so types keep their meaning.

Owns: the shapes at the places of types, `Registry.Succeeds.relinks`, the absence of shortcuts in both vocabularies.
Does not own: acceptance under linking (`Proofs.Schema.Relinking`).
-/

namespace ApiDesign

/-- Linking puts references in place of references of the same names. -/
theorem keepsNames_linking (index : TypeIndex) : (linking index).KeepsNames where
  named := by
    intro reference
    refine ⟨reference.link index, rfl, ?_⟩
    unfold TypeRef.link
    split <;> rfl
  collection := fun reference => ⟨reference, rfl, rfl⟩

theorem Attribute.type_link (index : TypeIndex) (shape : Attribute) :
    (shape.link index).type = shape.type.transform (linking index) :=
  Attribute.type_transform (linking index) shape

/-! ## Shapes by place -/

namespace Registry

variable {index : TypeIndex} {registry : Registry}

theorem shapeAt?_link (elements : ∀ resultType ∈ registry.resultTypes, ∀ facts, resultType.collection = some facts →
      ∃ position, facts.elementTarget? index = some (.result position)) (target : TypeId) :
    (registry.link index).shapeAt? target = (registry.shapeAt? target).map (Attribute.link index) := by
  cases target with
  | user position =>
      simp only [shapeAt?, link, mapShapes, List.getElem?_map, Option.map_map]
      rfl
  | result position =>
      simp only [shapeAt?, resultTypes_link, List.getElem?_map, Option.map_map]
      cases here : registry.resultTypes[position]? with
      | none => rfl
      | some resultType =>
          simp only [Option.map_some, Function.comp_apply,
            ResultType.link_eq (elements resultType (List.mem_of_getElem? here)), ResultType.mapShape]

theorem shapeAt?_deriveViews (target : TypeId) (registry : Registry) :
    registry.deriveViews.1.shapeAt? target = registry.shapeAt? target := by
  cases target with
  | user position => rfl
  | result position =>
      have sameShapes := map_resultTypes_deriveViews (·.shape) (fun _ => rfl) registry
      have atPosition := congrArg (fun shapes => shapes[position]?) sameShapes
      simpa only [shapeAt?, List.getElem?_map] using atPosition

end Registry

namespace Model

theorem map_shape_declaration? (target : TypeId) (registry : Registry) :
    ((Model.ofRegistry registry).declaration? target).map (·.shape) = registry.shapeAt? target := by
  cases target <;>
    simp only [declaration?, Registry.shapeAt?, ofRegistry, List.getElem?_toArray, Option.map_map] <;> rfl

theorem mem_shapes_of_denoted? {model : Model} {name : String} {declaration : TypeDeclaration}
    (found : model.denoted? name = some declaration) : declaration.shape ∈ model.shapes := by
  unfold denoted? at found
  unfold shapes
  rcases Option.or_eq_some_iff.mp found with isUser | ⟨_, isResult⟩
  · obtain ⟨userType, first, rfl⟩ := Option.map_eq_some_iff.mp isUser
    have member := Array.mem_of_find?_eq_some first
    exact List.mem_append_left _ (List.mem_append_right _ (List.mem_map.mpr ⟨userType, by simpa using member, rfl⟩))
  · obtain ⟨resultType, first, rfl⟩ := Option.map_eq_some_iff.mp isResult
    have member : resultType ∈ model.resultTypes := by
      rcases Option.or_eq_some_iff.mp first with byIdentifier | ⟨_, byTypeName⟩
      · exact Array.mem_of_find?_eq_some byIdentifier
      · exact Array.mem_of_find?_eq_some byTypeName
    exact List.mem_append_right _ (List.mem_map.mpr ⟨resultType, by simpa using member, rfl⟩)

theorem self_mem_nodes (shape : Attribute) : shape ∈ shape.nodes := by
  obtain ⟨type, details⟩ := shape
  simp [Attribute.nodes]

/-- The vocabulary of a consistent model has no shortcuts. -/
theorem IsConsistent.hasNoShortcuts {model : Model} (consistent : model.IsConsistent) :
    model.vocabulary.HasNoShortcuts := by
  intro name shape known
  have found : model.shapeOf? name = some shape := known
  rw [consistent.shapeOf] at found
  obtain ⟨declaration, denotes, rfl⟩ := Option.map_eq_some_iff.mp found
  exact consistent.noShortcut _ (List.mem_flatMap.mpr ⟨_, mem_shapes_of_denoted? denotes, self_mem_nodes _⟩)

end Model

/-! ## The two vocabularies -/

namespace Registry

variable {settings : Settings} {registry : Registry}

/-- The model knows the names of the prepared registry, each with its shape linked. -/
theorem Succeeds.relinks (succeeds : registry.Succeeds settings) (declared : registry.IsDeclared) :
    Vocabulary.Relinks (linking (registry.prepared settings).typeIndex) (registry.prepared settings).vocabulary
      (Model.ofRegistry (registry.derived settings)).vocabulary where
  keepsNames := keepsNames_linking _
  shapeOf := by
    intro name
    have inModel : (Model.ofRegistry (registry.derived settings)).shapeOf? name =
        ((registry.prepared settings).denoted? name).bind fun target =>
          ((registry.prepared settings).shapeAt? target).map
            (Attribute.link (registry.prepared settings).typeIndex) := by
      rw [declared.isAscending.shapeOf?_eq, Model.denoted?_ofRegistry, denoted?_derived, Option.map_bind]
      congr 1
      funext target
      rw [Function.comp_apply, Model.map_shape_declaration?]
      unfold derived linked
      rw [shapeAt?_deriveViews, shapeAt?_link (exists_elementTarget_of_unresolved succeeds.noUnresolved)]
    have before : (registry.prepared settings).shapeOf? name =
        ((registry.prepared settings).denoted? name).bind fun target =>
          (registry.prepared settings).shapeAt? target := by
      rw [shapeOf?, declared.isIndexed_prepared.resolve?_eq_denoted?]
    show (Model.ofRegistry (registry.derived settings)).shapeOf? name =
      ((registry.prepared settings).shapeOf? name).map (Attribute.transform (linking _))
    rw [inModel, before, Option.map_bind]
    rfl

theorem Succeeds.hasNoShortcuts_prepared (succeeds : registry.Succeeds settings) (declared : registry.IsDeclared) :
    (registry.prepared settings).vocabulary.HasNoShortcuts :=
  (succeeds.relinks declared).hasNoShortcuts_iff.mp (succeeds.isConsistent declared).hasNoShortcuts

/-- The model contains the nodes of the prepared registry, each linked. -/
theorem Succeeds.nodes_eq (succeeds : registry.Succeeds settings) :
    (Model.ofRegistry (registry.derived settings)).nodes =
      (registry.prepared settings).nodes.map
        (Attribute.transform (linking (registry.prepared settings).typeIndex)) := by
  rw [Model.nodes_ofRegistry]
  unfold derived linked
  rw [nodes_deriveViews, nodes_link (exists_elementTarget_of_unresolved succeeds.noUnresolved)]

end Registry

end ApiDesign
