import ApiDesign.Proofs.Registry.TypeIndex
import ApiDesign.Proofs.Schema.Traversal
import ApiDesign.Registry.Shapes

/-!
Contract: what the walk over all shapes of a registry meets after every shape has been changed.

Owns: `shapes` and `nodes` after `mapShapes`, and the names, which no change of shapes touches.
-/

namespace ApiDesign

/-! ## Parts -/

@[simp] theorem Server.shapes_mapShapes (change : Attribute → Attribute) (server : Server) :
    (server.mapShapes change).shapes = server.shapes.map change := by
  simp [Server.mapShapes, Server.shapes, Host.mapShapes, Function.comp_def]

@[simp] theorem Method.shapes_mapShapes (change : Attribute → Attribute) (method : Method) :
    (method.mapShapes change).shapes = method.shapes.map change := by
  simp only [Method.mapShapes, Method.shapes, List.map_append, Option.toList_map, List.map_map]
  rfl

@[simp] theorem Service.ownShapes_mapShapes (change : Attribute → Attribute) (service : Service) :
    (service.mapShapes change).ownShapes = service.ownShapes.map change := by
  simp only [Service.mapShapes, Service.ownShapes, List.map_append, List.map_map, List.flatMap_map,
    Method.shapes_mapShapes, List.map_flatMap]
  rfl

namespace Registry

variable (change : Attribute → Attribute)

@[simp] theorem servers_mapShapes (registry : Registry) :
    (registry.mapShapes change).servers = registry.servers.map (Server.mapShapes change) := by
  simp only [mapShapes, servers, List.map_append, List.flatMap_map, Option.toList_map, List.map_flatMap]
  rfl

/-- The walk meets the changed shapes in the same order. -/
@[simp] theorem shapes_mapShapes (registry : Registry) :
    (registry.mapShapes change).shapes = registry.shapes.map change := by
  unfold shapes
  rw [servers_mapShapes]
  simp only [mapShapes, List.map_append, List.flatMap_map, List.map_flatMap, List.map_map,
    Server.shapes_mapShapes, Service.ownShapes_mapShapes]
  rfl

/-- A transformation that keeps the form of shapes is met node by node. -/
theorem nodes_mapShapes {transformation : Transformation} (keepsForm : transformation.KeepsForm)
    (registry : Registry) :
    (registry.mapShapes (Attribute.transform transformation)).nodes =
      registry.nodes.map (Attribute.transform transformation) := by
  unfold nodes
  rw [shapes_mapShapes, List.flatMap_map, List.map_flatMap]
  congr 1
  funext shape
  exact Attribute.nodes_transform keepsForm shape

/-! ## Names -/

@[simp] theorem names_mapShapes (kind : RootKind) (registry : Registry) :
    (registry.mapShapes change).names kind = registry.names kind := by
  cases kind <;> simp only [names, mapShapes, List.map_map, Option.toList_map] <;> rfl

@[simp] theorem index_mapShapes (registry : Registry) : (registry.mapShapes change).index = registry.index := rfl

theorem IsIndexed.mapShapes {registry : Registry} (indexed : registry.IsIndexed) :
    (registry.mapShapes change).IsIndexed := by
  intro kind name position
  rw [index_mapShapes, names_mapShapes]
  exact indexed kind name position

end Registry

/-! ## Members -/

namespace Registry

variable {registry : Registry} {shape : Attribute}

theorem mem_shapes_of_server {server : Server} (member : server ∈ registry.servers) (inServer : shape ∈ server.shapes) :
    shape ∈ registry.shapes :=
  List.mem_append_left _ (List.mem_append_left _ (List.mem_append_left _
    (List.mem_flatMap.mpr ⟨server, member, inServer⟩)))

theorem mem_shapes_of_service {service : Service} (member : service ∈ registry.services)
    (inService : shape ∈ service.ownShapes) : shape ∈ registry.shapes :=
  List.mem_append_left _ (List.mem_append_left _ (List.mem_append_right _
    (List.mem_flatMap.mpr ⟨service, member, inService⟩)))

theorem mem_shapes_of_userType {userType : UserType} (member : userType ∈ registry.userTypes) :
    userType.shape ∈ registry.shapes :=
  List.mem_append_left _ (List.mem_append_right _ (List.mem_map_of_mem member))

theorem mem_shapes_of_resultType {resultType : ResultType} (member : resultType ∈ registry.resultTypes) :
    resultType.shape ∈ registry.shapes :=
  List.mem_append_right _ (List.mem_map_of_mem member)

end Registry

end ApiDesign
