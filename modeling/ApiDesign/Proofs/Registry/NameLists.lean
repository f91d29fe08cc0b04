import ApiDesign.Design
import ApiDesign.Proofs.Evaluation.Shortcuts
import ApiDesign.Proofs.Schema.Relinking

/-!
Contract: the name lists of a registry, and what it means to change each of them.

There are three: the required children of an attribute, at any depth; the attributes that a view selects; the services
that a server offers. `mapNames` changes each name list and nothing else. Of names that are added one by one, each
unless it is there, the first mentions remain.

Owns: `mapNames` for whatever has name lists, first mentions as `List.eraseDups`.
Does not own: how declarations extend name lists (`Proofs.Clause.Mentions`).
-/

namespace ApiDesign

/-! ## First mentions -/

theorem eraseDups_append_singleton (known : List String) (name : String) :
    (known ++ [name]).eraseDups = if known.contains name then known.eraseDups else known.eraseDups ++ [name] := by
  rw [List.eraseDups_append]
  by_cases there : known.contains name = true
  · have nothing : [name].removeAll known = [] := by simp_all [List.removeAll]
    rw [if_pos there, nothing, List.eraseDups_nil, List.append_nil]
  · have new : [name].removeAll known = [name] := by simp_all [List.removeAll]
    rw [if_neg there, new]
    rfl

/-- Names that are added to the first mentions of others, each unless it is there, are the first mentions of all. -/
theorem addNames_eraseDups : ∀ names known : List String, addNames names known.eraseDups = (known ++ names).eraseDups
  | [], known => by rw [List.append_nil]; rfl
  | name :: rest, known => by
      have step : addNames (name :: rest) known.eraseDups = addNames rest (known ++ [name]).eraseDups := by
        rw [eraseDups_append_singleton]
        simp only [addNames, List.foldl_cons, List.contains_eq_mem, List.mem_eraseDups]
      rw [step, addNames_eraseDups rest, List.append_assoc]
      rfl

/-- First mentions have no repetition. -/
theorem nodup_eraseDups (names : List String) : names.eraseDups.Nodup := by
  have added := addNames_eraseDups names []
  rw [List.nil_append] at added
  exact added ▸ nodup_addNames List.nodup_nil

/-- Names without repetition are their first mentions. -/
theorem eraseDups_eq_self : ∀ {names : List String}, names.Nodup → names.eraseDups = names
  | [], _ => rfl
  | name :: rest, distinct => by
      obtain ⟨notInRest, restDistinct⟩ := List.nodup_cons.mp distinct
      have kept : (rest.filter fun other => !other == name) = rest := by
        refine List.filter_eq_self.mpr fun other member => ?_
        simpa using fun same : other = name => notInRest (same ▸ member)
      rw [List.eraseDups_cons, kept, eraseDups_eq_self restDistinct]

/-! ## Attributes -/

section Changing

variable (change : List String → List String)

/-- The details with the names of required children changed. -/
def Details.mapRequired (details : Details) : Details :=
  { details with validation := { details.validation with required := change details.validation.required } }

/-- The transformation that changes the names of required children at every node. -/
def requiring : Transformation := { details := Details.mapRequired change }

def Attribute.mapRequired (shape : Attribute) : Attribute := shape.transform (requiring change)

def DataType.mapRequired (type : DataType) : DataType := type.transform (requiring change)

theorem keepsForm_requiring : (requiring change).KeepsForm := ⟨fun _ => rfl, fun _ => rfl⟩

@[simp] theorem Attribute.mapRequired_mk (type : DataType) (details : Details) :
    (⟨type, details⟩ : Attribute).mapRequired change =
      ⟨type.mapRequired change, details.mapRequired change⟩ := by
  rw [mapRequired, transform]
  rfl

@[simp] theorem DataType.mapRequired_primitive (builtIn : Primitive) :
    (DataType.primitive builtIn).mapRequired change = .primitive builtIn := rfl

@[simp] theorem DataType.mapRequired_array (element : Attribute) :
    (DataType.array element).mapRequired change = .array (element.mapRequired change) := by
  rw [mapRequired, transform]
  rfl

@[simp] theorem DataType.mapRequired_map (key value : Attribute) :
    (DataType.map key value).mapRequired change = .map (key.mapRequired change) (value.mapRequired change) := by
  rw [mapRequired, transform]
  rfl

@[simp] theorem DataType.mapRequired_object (fields : List (String × Attribute)) :
    (DataType.object fields).mapRequired change =
      .object (fields.map fun field => (field.1, field.2.mapRequired change)) := by
  rw [mapRequired, transform, transformFields_eq_map]
  rfl

@[simp] theorem DataType.mapRequired_emptyObject : emptyObject.mapRequired change = emptyObject := by
  rw [emptyObject, mapRequired_object, List.map_nil]

@[simp] theorem DataType.mapRequired_named (reference : TypeRef) :
    (DataType.named reference).mapRequired change = .named reference := rfl

@[simp] theorem DataType.mapRequired_collection (reference : TypeRef) :
    (DataType.collection reference).mapRequired change = .collection reference := rfl

@[simp] theorem Attribute.required_mapRequired (shape : Attribute) :
    (shape.mapRequired change).required = change shape.required := by
  cases shape
  rw [mapRequired_mk]
  rfl

theorem Attribute.nodes_mapRequired (shape : Attribute) :
    (shape.mapRequired change).nodes = shape.nodes.map (Attribute.mapRequired change) :=
  Attribute.nodes_transform (keepsForm_requiring change) shape

/-! ## Declarations -/

def View.mapNames (view : View) : View := { view with attributes := change view.attributes }

def Server.mapNames (server : Server) : Server :=
  { server.mapShapes (Attribute.mapRequired change) with services := change server.services }

def Api.mapNames (api : Api) : Api := { api with servers := api.servers.map (Server.mapNames change) }

def Service.mapNames (service : Service) : Service :=
  { service.mapShapes (Attribute.mapRequired change) with servers := service.servers.map (Server.mapNames change) }

def ResultType.mapNames (resultType : ResultType) : ResultType :=
  { resultType.mapShape (Attribute.mapRequired change) with views := resultType.views.map (View.mapNames change) }

def Root.mapNames : Root → Root
  | .api held => .api (held.mapNames change)
  | .service held => .service (held.mapNames change)
  | .userType held => .userType (held.mapShape (Attribute.mapRequired change))
  | .resultType held => .resultType (held.mapNames change)

/-- The registry with every name list changed. -/
def Registry.mapNames (registry : Registry) : Registry :=
  { registry with
    api := registry.api.map (Api.mapNames change)
    services := registry.services.map (Service.mapNames change)
    userTypes := registry.userTypes.map (UserType.mapShape (Attribute.mapRequired change))
    resultTypes := registry.resultTypes.map (ResultType.mapNames change) }

namespace Registry

theorem servers_mapNames (registry : Registry) :
    (registry.mapNames change).servers = registry.servers.map (Server.mapNames change) := by
  have ofApi : (registry.mapNames change).api.toList.flatMap (·.servers) =
      (registry.api.toList.flatMap (·.servers)).map (Server.mapNames change) := by
    cases registry with
    | mk phase api => cases api <;> simp [mapNames, Api.mapNames]
  rw [servers, servers, List.map_append, ofApi]
  simp [mapNames, List.flatMap_map, List.map_flatMap, Service.mapNames]

theorem shapes_mapNames (registry : Registry) :
    (registry.mapNames change).shapes = registry.shapes.map (Attribute.mapRequired change) := by
  have ofServers : (registry.mapNames change).servers.flatMap Server.shapes =
      (registry.servers.flatMap Server.shapes).map (Attribute.mapRequired change) := by
    rw [servers_mapNames, List.flatMap_map, List.map_flatMap]
    exact congrArg (registry.servers.flatMap ·) (funext fun server => Server.shapes_mapShapes _ server)
  have ofServices : (registry.mapNames change).services.flatMap Service.ownShapes =
      (registry.services.flatMap Service.ownShapes).map (Attribute.mapRequired change) := by
    simp only [mapNames, List.flatMap_map, List.map_flatMap]
    exact congrArg (registry.services.flatMap ·) (funext fun service => Service.ownShapes_mapShapes _ service)
  simp only [shapes, ofServers, ofServices, List.map_append]
  simp only [mapNames, List.map_map]
  rfl

theorem nodes_mapNames (registry : Registry) :
    (registry.mapNames change).nodes = registry.nodes.map (Attribute.mapRequired change) := by
  rw [nodes, nodes, shapes_mapNames, List.flatMap_map, List.map_flatMap]
  exact congrArg (registry.shapes.flatMap ·) (funext (Attribute.nodes_mapRequired change))

end Registry

end Changing

end ApiDesign
