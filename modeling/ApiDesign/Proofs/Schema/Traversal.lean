import ApiDesign.Schema.Traversal

/-!
Contract: what the walk over an attribute meets before and after a transformation.

A transformation that puts references in place of references keeps the form of an attribute, so the walk meets the
transformed nodes in the same order. A node is thereby named by its place in the walk, before and after.
-/

namespace ApiDesign

/-- A transformation that puts nothing with parts in place of a reference. -/
structure Transformation.KeepsForm (transformation : Transformation) : Prop where
  named : ∀ reference, (transformation.named reference).nodes = []
  collection : ∀ reference, (transformation.collection reference).nodes = []

section Nodes

variable {transformation : Transformation}

mutual

/-- The walk over a transformed attribute meets the transformed nodes. -/
theorem Attribute.nodes_transform (keepsForm : transformation.KeepsForm) :
    ∀ shape : Attribute,
      (shape.transform transformation).nodes = shape.nodes.map (Attribute.transform transformation)
  | ⟨type, details⟩ => by
      simp only [Attribute.transform, Attribute.nodes, List.map_cons]
      rw [DataType.nodes_transform keepsForm type]

theorem DataType.nodes_transform (keepsForm : transformation.KeepsForm) :
    ∀ type : DataType,
      (type.transform transformation).nodes = type.nodes.map (Attribute.transform transformation)
  | .primitive _ => rfl
  | .array element => by
      simp only [DataType.transform, DataType.nodes]
      exact Attribute.nodes_transform keepsForm element
  | .map key value => by
      simp only [DataType.transform, DataType.nodes, List.map_append]
      rw [Attribute.nodes_transform keepsForm key, Attribute.nodes_transform keepsForm value]
  | .object fields => by
      simp only [DataType.transform, DataType.nodes]
      exact DataType.fieldNodes_transform keepsForm fields
  | .named reference => by
      simp only [DataType.transform, DataType.nodes, List.map_nil]
      exact keepsForm.named reference
  | .collection reference => by
      simp only [DataType.transform, DataType.nodes, List.map_nil]
      exact keepsForm.collection reference

theorem DataType.fieldNodes_transform (keepsForm : transformation.KeepsForm) :
    ∀ fields : List (String × Attribute),
      DataType.fieldNodes (DataType.transformFields transformation fields) =
        (DataType.fieldNodes fields).map (Attribute.transform transformation)
  | [] => rfl
  | (_, child) :: rest => by
      simp only [DataType.transformFields, DataType.fieldNodes, List.map_append]
      rw [Attribute.nodes_transform keepsForm child, DataType.fieldNodes_transform keepsForm rest]

end

end Nodes

mutual

/-- The walk that keeps frames meets the same nodes in the same order. -/
theorem Attribute.map_snd_located (trail : List String) :
    ∀ shape : Attribute, (shape.located trail).map Prod.snd = shape.nodes
  | ⟨type, details⟩ => by
      simp only [Attribute.located, Attribute.nodes, List.map_cons]
      rw [DataType.map_snd_located trail type]

theorem DataType.map_snd_located (trail : List String) :
    ∀ type : DataType, (type.located trail).map Prod.snd = type.nodes
  | .primitive _ => rfl
  | .array element => by
      simp only [DataType.located, DataType.nodes]
      exact Attribute.map_snd_located _ element
  | .map key value => by
      simp only [DataType.located, DataType.nodes, List.map_append]
      rw [Attribute.map_snd_located _ key, Attribute.map_snd_located _ value]
  | .object fields => by
      simp only [DataType.located, DataType.nodes]
      exact DataType.map_snd_locatedFields trail fields
  | .named _ => rfl
  | .collection _ => rfl

theorem DataType.map_snd_locatedFields (trail : List String) :
    ∀ fields : List (String × Attribute),
      (DataType.locatedFields trail fields).map Prod.snd = DataType.fieldNodes fields
  | [] => rfl
  | (name, child) :: rest => by
      simp only [DataType.locatedFields, DataType.fieldNodes, List.map_append]
      rw [Attribute.map_snd_located _ child, DataType.map_snd_locatedFields trail rest]

end

mutual

/-- What is inside a node of an attribute is inside the attribute. -/
theorem Attribute.mem_nodes_of_mem {node inner : Attribute} (inNode : inner ∈ node.nodes) :
    ∀ shape : Attribute, node ∈ shape.nodes → inner ∈ shape.nodes
  | ⟨type, details⟩, member => by
      rw [Attribute.nodes, List.mem_cons] at member ⊢
      rcases member with rfl | inside
      · rwa [Attribute.nodes, List.mem_cons] at inNode
      · exact .inr (DataType.mem_nodes_of_mem inNode type inside)

theorem DataType.mem_nodes_of_mem {node inner : Attribute} (inNode : inner ∈ node.nodes) :
    ∀ type : DataType, node ∈ type.nodes → inner ∈ type.nodes
  | .primitive _, member => by simp [DataType.nodes] at member
  | .array element, member => by
      rw [DataType.nodes] at member ⊢
      exact Attribute.mem_nodes_of_mem inNode element member
  | .map key value, member => by
      rw [DataType.nodes, List.mem_append] at member ⊢
      exact member.imp (Attribute.mem_nodes_of_mem inNode key) (Attribute.mem_nodes_of_mem inNode value)
  | .object fields, member => by
      rw [DataType.nodes] at member ⊢
      exact DataType.mem_fieldNodes_of_mem inNode fields member
  | .named _, member => by simp [DataType.nodes] at member
  | .collection _, member => by simp [DataType.nodes] at member

theorem DataType.mem_fieldNodes_of_mem {node inner : Attribute} (inNode : inner ∈ node.nodes) :
    ∀ fields : List (String × Attribute), node ∈ DataType.fieldNodes fields → inner ∈ DataType.fieldNodes fields
  | [], member => by simp [DataType.fieldNodes] at member
  | (_, child) :: rest, member => by
      rw [DataType.fieldNodes, List.mem_append] at member ⊢
      exact member.imp (Attribute.mem_nodes_of_mem inNode child) (DataType.mem_fieldNodes_of_mem inNode rest)

end

/-- A located node is a node. -/
theorem Attribute.mem_nodes_of_located {trail nodeTrail : List String} {shape node : Attribute}
    (member : (nodeTrail, node) ∈ shape.located trail) : node ∈ shape.nodes := by
  rw [← Attribute.map_snd_located trail]
  exact List.mem_map.mpr ⟨_, member, rfl⟩

/-- Every node of an attribute is met under some frames. -/
theorem Attribute.exists_mem_located (trail : List String) {shape node : Attribute} (member : node ∈ shape.nodes) :
    ∃ nodeTrail, (nodeTrail, node) ∈ shape.located trail := by
  rw [← Attribute.map_snd_located trail shape] at member
  obtain ⟨⟨nodeTrail, _⟩, inLocated, rfl⟩ := List.mem_map.mp member
  exact ⟨nodeTrail, inLocated⟩

end ApiDesign
