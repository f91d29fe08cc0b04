import ApiDesign.Evaluation.Collections
import ApiDesign.Proofs.Design.FirstOfKey
import ApiDesign.Proofs.Kind

/-!
Contract: the attributes of a registry, root by root.

A registry that holds some roots has exactly their attributes. A root mentions no collection if it is none and no
attribute of it is a shortcut for one; then no element is ever asked for by name.

Owns: `Root.shapes`, `Root.frame`, `Registry.roots`, `Declaration.MentionsNoCollection`.
Does not own: what shortcuts are replaced by (`Proofs.Evaluation.Generation`).
-/

namespace ApiDesign

namespace Root

/-- The shapes of a root, as a registry of it alone has them. -/
def shapes : Root → List Attribute
  | .api declared => declared.servers.flatMap Server.shapes
  | .service declared => declared.servers.flatMap Server.shapes ++ declared.ownShapes
  | .userType declared => [declared.shape]
  | .resultType declared => [declared.shape]

def nodes (root : Root) : List Attribute := root.shapes.flatMap Attribute.nodes

/-- The frame under which a root is reported. -/
def frame : Root → String
  | .api declared => Kind.api.frame declared.name
  | .service declared => Kind.service.frame declared.name
  | .userType declared => Kind.userType.frame declared.name
  | .resultType declared => Kind.resultType.frame declared.identifier

/-- The frame of a user type is that of no other root. -/
theorem frame_eq_iff {root : Root} {name : String} :
    root.frame = Kind.userType.frame name ↔ root.key = .userType name := by
  cases root <;> simp [frame, Kind.frame_inj, key, kind, RootKind.key, Root.name]

/-- The root is no collection, and no attribute of it, at any depth, is a shortcut for one. -/
def MentionsNoCollection (root : Root) : Prop :=
  (∀ declared ∈ root.resultType?, declared.collection = none) ∧ ∀ node ∈ root.nodes, node.type.shortcut? = none

instance (root : Root) : Decidable root.MentionsNoCollection :=
  inferInstanceAs (Decidable (_ ∧ _))

end Root

/-- What the declaration builds mentions no collection. -/
def Declaration.MentionsNoCollection (declaration : Declaration) : Prop :=
  ∀ root ∈ declaration.built?, root.MentionsNoCollection

instance (declaration : Declaration) : Decidable declaration.MentionsNoCollection :=
  inferInstanceAs (Decidable (∀ root ∈ declaration.built?, root.MentionsNoCollection))

namespace Registry

/-- The declarations of a registry as roots, kind by kind. -/
def roots (registry : Registry) : List Root :=
  registry.api.toList.map .api ++ registry.services.map .service ++ registry.userTypes.map .userType ++
    registry.resultTypes.map .resultType

theorem holds_roots (registry : Registry) : registry.Holds registry.roots := by
  constructor <;> simp [roots, List.filterMap_map, Function.comp_def, Root.api?, Root.service?, Root.userType?,
    Root.resultType?]

variable {registry : Registry} {roots : List Root}

/-- The shapes of a registry are those of its roots. -/
theorem Holds.mem_shapes_iff (holds : registry.Holds roots) {shape : Attribute} :
    shape ∈ registry.shapes ↔ ∃ root ∈ roots, shape ∈ root.shapes := by
  simp only [shapes, servers, holds.api, holds.services, holds.userTypes, holds.resultTypes, List.mem_append,
    List.mem_flatMap, List.mem_map, List.mem_filterMap]
  constructor
  · rintro (((⟨server, inServers, inShapes⟩ | ⟨held, ⟨root, member, isHeld⟩, inOwn⟩) |
      ⟨held, ⟨root, member, isHeld⟩, rfl⟩) | ⟨held, ⟨root, member, isHeld⟩, rfl⟩)
    · rcases inServers with ⟨held, ⟨root, member, isHeld⟩, inServers⟩ | ⟨held, ⟨root, member, isHeld⟩, inServers⟩ <;>
        cases root <;> cases isHeld
      · exact ⟨_, member, List.mem_flatMap.mpr ⟨server, inServers, inShapes⟩⟩
      · exact ⟨_, member, List.mem_append_left _ (List.mem_flatMap.mpr ⟨server, inServers, inShapes⟩)⟩
    all_goals
      cases root <;> cases isHeld
    · exact ⟨_, member, List.mem_append_right _ inOwn⟩
    · exact ⟨_, member, List.mem_singleton_self _⟩
    · exact ⟨_, member, List.mem_singleton_self _⟩
  · rintro ⟨root, member, inShapes⟩
    cases root with
    | api held =>
        obtain ⟨server, inServers, inShapes⟩ := List.mem_flatMap.mp inShapes
        exact .inl (.inl (.inl ⟨server, .inl ⟨held, ⟨_, member, rfl⟩, inServers⟩, inShapes⟩))
    | service held =>
        rcases List.mem_append.mp inShapes with inServers | inOwn
        · obtain ⟨server, inServers, inShapes⟩ := List.mem_flatMap.mp inServers
          exact .inl (.inl (.inl ⟨server, .inr ⟨held, ⟨_, member, rfl⟩, inServers⟩, inShapes⟩))
        · exact .inl (.inl (.inr ⟨held, ⟨_, member, rfl⟩, inOwn⟩))
    | userType held => exact .inl (.inr ⟨held, ⟨_, member, rfl⟩, (List.mem_singleton.mp inShapes).symm⟩)
    | resultType held => exact .inr ⟨held, ⟨_, member, rfl⟩, (List.mem_singleton.mp inShapes).symm⟩

/-- The attributes of a registry are those of its roots. -/
theorem Holds.mem_nodes_iff (holds : registry.Holds roots) {node : Attribute} :
    node ∈ registry.nodes ↔ ∃ root ∈ roots, node ∈ root.nodes := by
  simp only [nodes, Root.nodes, List.mem_flatMap, holds.mem_shapes_iff]
  grind

end Registry

end ApiDesign
