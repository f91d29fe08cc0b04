import ApiDesign.Schema.Traversal

/-!
Contract: where a node stands inside an attribute.

`Attribute.HasAt` leads from an attribute to a node inside it part by part, with the frame of each part. The walk lists
exactly these nodes, each with the frames on the way behind those it was given.

Owns: `Attribute.HasAt`, and the list `located` in terms of it.
Does not own: the order of the list (`Proofs.Schema.Traversal`).
-/

namespace ApiDesign

/-- Inside an attribute, a node stands at the end of a path of frames. -/
inductive Attribute.HasAt : Attribute → List String → Attribute → Prop
  | self (shape : Attribute) : HasAt shape [] shape
  | element {element node : Attribute} {details : Details} {path : List String} (inside : HasAt element path node) :
      HasAt ⟨.array element, details⟩ (Frame.element :: path) node
  | key {key value node : Attribute} {details : Details} {path : List String} (inside : HasAt key path node) :
      HasAt ⟨.map key value, details⟩ (Frame.key :: path) node
  | value {key value node : Attribute} {details : Details} {path : List String} (inside : HasAt value path node) :
      HasAt ⟨.map key value, details⟩ (Frame.element :: path) node
  | field {fields : List (String × Attribute)} {name : String} {child node : Attribute} {details : Details}
      {path : List String} (isField : (name, child) ∈ fields) (inside : HasAt child path node) :
      HasAt ⟨.object fields, details⟩ (Kind.attr.frame name :: path) node

theorem DataType.mem_locatedFields {trail nodeTrail : List String} {node : Attribute}
    {fields : List (String × Attribute)} : (nodeTrail, node) ∈ DataType.locatedFields trail fields ↔
      ∃ name child, (name, child) ∈ fields ∧ (nodeTrail, node) ∈ child.located (trail ++ [Kind.attr.frame name]) := by
  induction fields with
  | nil => simp [DataType.locatedFields]
  | cons field rest inductionHypothesis =>
      rw [DataType.locatedFields, List.mem_append, inductionHypothesis]
      constructor
      · rintro (inChild | ⟨other, otherChild, inRest, inOther⟩)
        · exact ⟨field.1, field.2, List.mem_cons_self, inChild⟩
        · exact ⟨other, otherChild, List.mem_cons_of_mem _ inRest, inOther⟩
      · rintro ⟨other, otherChild, member, inOther⟩
        rcases List.mem_cons.mp member with isFirst | inRest
        · cases isFirst
          exact .inl inOther
        · exact .inr ⟨other, otherChild, inRest, inOther⟩

/-- The walk meets what stands inside the attribute. -/
theorem Attribute.HasAt.mem_located {shape node : Attribute} {path : List String} (has : shape.HasAt path node)
    (trail : List String) : (trail ++ path, node) ∈ shape.located trail := by
  induction has generalizing trail with
  | self shape =>
      obtain ⟨type, details⟩ := shape
      simp [Attribute.located]
  | element _ inductionHypothesis =>
      rw [List.append_cons]
      exact List.mem_cons_of_mem _ (inductionHypothesis _)
  | key _ inductionHypothesis =>
      rw [List.append_cons]
      exact List.mem_cons_of_mem _ (List.mem_append_left _ (inductionHypothesis _))
  | value _ inductionHypothesis =>
      rw [List.append_cons]
      exact List.mem_cons_of_mem _ (List.mem_append_right _ (inductionHypothesis _))
  | field isField _ inductionHypothesis =>
      rw [List.append_cons]
      exact List.mem_cons_of_mem _ (DataType.mem_locatedFields.mpr ⟨_, _, isField, inductionHypothesis _⟩)

mutual

/-- What the walk meets stands inside the attribute, at the end of the frames that the walk has added. -/
theorem Attribute.hasAt_of_mem_located {nodeTrail : List String} {node : Attribute} :
    ∀ {trail : List String} (shape : Attribute), (nodeTrail, node) ∈ shape.located trail →
      ∃ path, nodeTrail = trail ++ path ∧ shape.HasAt path node
  | trail, ⟨type, details⟩, member => by
      rw [Attribute.located, List.mem_cons] at member
      rcases member with same | inside
      · cases same
        exact ⟨[], by simp, .self _⟩
      · exact DataType.hasAt_of_mem_located details type inside

theorem DataType.hasAt_of_mem_located {nodeTrail : List String} {node : Attribute} (details : Details) :
    ∀ {trail : List String} (type : DataType), (nodeTrail, node) ∈ type.located trail →
      ∃ path, nodeTrail = trail ++ path ∧ (⟨type, details⟩ : Attribute).HasAt path node
  | _, .primitive _, member => nomatch member
  | trail, .array element, member => by
      obtain ⟨path, rfl, inside⟩ := Attribute.hasAt_of_mem_located element member
      exact ⟨_, List.append_assoc _ _ _, .element inside⟩
  | trail, .map key value, member => by
      rcases List.mem_append.mp member with inKey | inValue
      · obtain ⟨path, rfl, inside⟩ := Attribute.hasAt_of_mem_located key inKey
        exact ⟨_, List.append_assoc _ _ _, .key inside⟩
      · obtain ⟨path, rfl, inside⟩ := Attribute.hasAt_of_mem_located value inValue
        exact ⟨_, List.append_assoc _ _ _, .value inside⟩
  | trail, .object fields, member => by
      obtain ⟨name, child, path, isField, rfl, inside⟩ := DataType.hasAt_of_mem_locatedFields fields member
      exact ⟨_, rfl, .field isField inside⟩
  | _, .named _, member => nomatch member
  | _, .collection _, member => nomatch member

theorem DataType.hasAt_of_mem_locatedFields {nodeTrail : List String} {node : Attribute} :
    ∀ {trail : List String} (fields : List (String × Attribute)),
      (nodeTrail, node) ∈ DataType.locatedFields trail fields →
      ∃ name child path, (name, child) ∈ fields ∧ nodeTrail = trail ++ Kind.attr.frame name :: path ∧
        child.HasAt path node
  | _, [], member => nomatch member
  | trail, (name, child) :: rest, member => by
      rcases List.mem_append.mp member with inChild | inRest
      · obtain ⟨path, rfl, inside⟩ := Attribute.hasAt_of_mem_located child inChild
        exact ⟨name, child, path, List.mem_cons_self, List.append_assoc _ _ _, inside⟩
      · obtain ⟨other, otherChild, path, isField, rfl, inside⟩ := DataType.hasAt_of_mem_locatedFields rest inRest
        exact ⟨other, otherChild, path, List.mem_cons_of_mem _ isField, rfl, inside⟩

end

/-- The walk over an attribute lists exactly the nodes inside it, with the frames that lead to them. -/
theorem Attribute.mem_located_iff {trail nodeTrail : List String} {shape node : Attribute} :
    (nodeTrail, node) ∈ shape.located trail ↔ ∃ path, nodeTrail = trail ++ path ∧ shape.HasAt path node :=
  ⟨Attribute.hasAt_of_mem_located shape, fun ⟨_, isTrail, has⟩ => isTrail ▸ has.mem_located trail⟩

end ApiDesign
