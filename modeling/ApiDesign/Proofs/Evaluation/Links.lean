import ApiDesign.Evaluation.Links
import ApiDesign.Proofs.Evaluation.Coverage

/-!
Contract: where nothing is unresolved, everything is linked.

The walk that reports and the walk that links leave out different things: the one leaves out inherited errors, which
are copies of errors it reports at their service, and both leave out the shape of a collection without an element,
which is reported by itself. So a registry without unresolved references has no node that stays unlinked.

Owns: `DataType.IsLinkable`, `DataType.IsLinked`, the passage from the one to the other.
-/

namespace ApiDesign

/-- A type that linking leaves nothing to do for: a reference whose name the index knows, or no reference. -/
def DataType.IsLinkable (index : TypeIndex) : DataType → Prop
  | .named reference => (index.find? reference.name).isSome = true
  | .collection _ => False
  | _ => True

/-- A type whose reference, if it is one, is linked to what the index says. -/
def DataType.IsLinked (index : TypeIndex) : DataType → Prop
  | .named reference => ∃ target, reference.target = some target ∧ index.find? reference.name = some target
  | .collection _ => False
  | _ => True

section Attributes

variable {index : TypeIndex}

/-- The transformation that links. -/
def linking (index : TypeIndex) : Transformation := { named := fun reference => .named (reference.link index) }

theorem keepsForm_linking (index : TypeIndex) : (linking index).KeepsForm :=
  ⟨fun _ => rfl, fun _ => rfl⟩

theorem DataType.isLinked_transform {type : DataType} (linkable : type.IsLinkable index) :
    (type.transform (linking index)).IsLinked index := by
  cases type with
  | named reference =>
      obtain ⟨target, found⟩ := Option.isSome_iff_exists.mp linkable
      simp only [DataType.transform, linking, TypeRef.link, found, TypeRef.resolve]
      exact ⟨target, rfl, found⟩
  | collection reference => exact linkable
  | _ => trivial

theorem Attribute.unresolvedHere_eq_nil_iff {trail : List String} {node : Attribute} :
    node.unresolvedHere index trail = [] ↔ node.type.IsLinkable index := by
  obtain ⟨type, details⟩ := node
  unfold Attribute.unresolvedHere
  cases type with
  | named reference =>
      simp only [DataType.IsLinkable]
      cases index.find? reference.name <;> simp
  | collection reference => simp [DataType.IsLinkable]
  | _ => simp [DataType.IsLinkable]

theorem Attribute.unresolved_eq_nil_iff {trail : List String} {shape : Attribute} :
    shape.unresolved index trail = [] ↔ ∀ node ∈ shape.nodes, node.type.IsLinkable index := by
  unfold Attribute.unresolved
  rw [List.flatMap_eq_nil_iff]
  constructor
  · intro nothing node member
    obtain ⟨nodeTrail, located⟩ := shape.exists_mem_located trail member
    exact Attribute.unresolvedHere_eq_nil_iff.mp (nothing (nodeTrail, node) located)
  · rintro linkable ⟨nodeTrail, node⟩ located
    have member : node ∈ shape.nodes := by
      rw [← Attribute.map_snd_located trail shape]
      exact List.mem_map_of_mem located
    exact Attribute.unresolvedHere_eq_nil_iff.mpr (linkable node member)

/-! ## The parts of a registry -/

/-- No node of a shape is left unlinked. -/
def Attribute.IsLinkable (index : TypeIndex) (shape : Attribute) : Prop :=
  ∀ node ∈ shape.nodes, node.type.IsLinkable index

theorem linkable_of_serversUnresolved {trail : List String} {servers : List Server}
    (nothing : serversUnresolved index trail servers = []) :
    ∀ server ∈ servers, ∀ shape ∈ server.shapes, shape.IsLinkable index := by
  simp only [serversUnresolved, List.flatMap_eq_nil_iff] at nothing
  intro server inServers shape inServer
  obtain ⟨host, inHosts, rfl⟩ := List.mem_map.mp inServer
  exact Attribute.unresolved_eq_nil_iff.mp (nothing server inServers host inHosts)

theorem linkable_of_errorsUnresolved {trail : List String} {errors : List ErrorAnswer}
    (nothing : errorsUnresolved index trail errors = []) :
    ∀ error ∈ errors, error.inherited = false → error.shape.IsLinkable index := by
  simp only [errorsUnresolved, List.flatMap_eq_nil_iff] at nothing
  intro error member own
  exact Attribute.unresolved_eq_nil_iff.mp (nothing error (List.mem_filter.mpr ⟨member, by simp [own]⟩))

/-- Where nothing is reported, every collection has an element. -/
theorem linkable_of_resultTypeUnresolved {resultType : ResultType} (nothing : resultType.unresolved index = []) :
    (∀ node ∈ resultType.shape.nodes, node.type.IsLinkable index) ∧
      ∀ facts, resultType.collection = some facts → ∃ position, facts.elementTarget? index = some (.result position) ∧
        index.find? facts.element.name = some (.result position) := by
  unfold ResultType.unresolved at nothing
  cases collects : resultType.collection with
  | none =>
      simp only [collects] at nothing
      exact ⟨Attribute.unresolved_eq_nil_iff.mp nothing, by simp⟩
  | some facts =>
      simp only [collects] at nothing
      cases element : facts.elementTarget? index with
      | none => simp [element] at nothing
      | some target =>
          simp only [element] at nothing
          refine ⟨Attribute.unresolved_eq_nil_iff.mp nothing, ?_⟩
          intro same sameFacts
          cases sameFacts
          unfold Collection.elementTarget? at element ⊢
          cases found : index.find? facts.element.name with
          | none => simp [found] at element
          | some known =>
              cases known with
              | user position => simp [found] at element
              | result position => exact ⟨position, rfl, rfl⟩

end Attributes

namespace Registry

variable {index : TypeIndex} {registry : Registry}

/-- Where nothing is unresolved, every declared shape is linkable. -/
theorem allDeclared_of_unresolved (shares : ∀ service ∈ registry.services, service.SharesErrors)
    (nothing : registry.unresolved index = []) : registry.AllDeclared (Attribute.IsLinkable index) := by
  simp only [unresolved, Service.unresolved, Method.unresolved, List.append_eq_nil_iff, List.flatMap_eq_nil_iff]
    at nothing
  obtain ⟨⟨⟨ofApi, ofServices⟩, ofUserTypes⟩, ofResultTypes⟩ := nothing
  refine ⟨?apiServers, ?servers, ?errors, ?payload, ?result, ?ownErrors, ?userTypes, ?resultTypes⟩
  case apiServers =>
    exact fun api isApi => linkable_of_serversUnresolved (ofApi api (Option.mem_toList.mpr isApi))
  case servers =>
    exact fun service inServices => linkable_of_serversUnresolved (ofServices service inServices).1.1
  case errors =>
    intro service inServices error inErrors
    exact linkable_of_errorsUnresolved (ofServices service inServices).1.2 error inErrors
      ((shares service inServices).errors error inErrors)
  case payload =>
    intro service inServices method inMethods shape isPayload
    exact Attribute.unresolved_eq_nil_iff.mp
      (((ofServices service inServices).2 method inMethods).1.1 shape (Option.mem_toList.mpr isPayload))
  case result =>
    intro service inServices method inMethods shape isResult
    exact Attribute.unresolved_eq_nil_iff.mp
      (((ofServices service inServices).2 method inMethods).1.2 shape (Option.mem_toList.mpr isResult))
  case ownErrors =>
    intro service inServices method inMethods
    exact linkable_of_errorsUnresolved ((ofServices service inServices).2 method inMethods).2
  case userTypes =>
    exact fun userType member => Attribute.unresolved_eq_nil_iff.mp (ofUserTypes userType member)
  case resultTypes =>
    exact fun resultType member => (linkable_of_resultTypeUnresolved (ofResultTypes resultType member)).1

/-- Where nothing is unresolved, every node of every shape is linkable. -/
theorem linkable_of_unresolved (shares : ∀ service ∈ registry.services, service.SharesErrors)
    (nothing : registry.unresolved index = []) : ∀ node ∈ registry.nodes, node.type.IsLinkable index := by
  intro node member
  obtain ⟨shape, inShapes, inShape⟩ := List.mem_flatMap.mp member
  exact (allDeclared_of_unresolved shares nothing).forall_mem_shapes shares shape inShapes node inShape

/-- Where nothing is unresolved, the name of the element of every collection denotes a result type. -/
theorem elementTarget_of_unresolved (nothing : registry.unresolved index = []) {resultType : ResultType}
    (member : resultType ∈ registry.resultTypes) {facts : Collection} (collects : resultType.collection = some facts) :
    ∃ position, facts.elementTarget? index = some (.result position) ∧
      index.find? facts.element.name = some (.result position) := by
  simp only [unresolved, List.append_eq_nil_iff, List.flatMap_eq_nil_iff] at nothing
  exact (linkable_of_resultTypeUnresolved (nothing.2 resultType member)).2 facts collects

theorem exists_elementTarget_of_unresolved (nothing : registry.unresolved index = []) :
    ∀ resultType ∈ registry.resultTypes, ∀ facts, resultType.collection = some facts →
      ∃ position, facts.elementTarget? index = some (.result position) := by
  intro resultType member facts collects
  obtain ⟨position, target, _⟩ := elementTarget_of_unresolved nothing member collects
  exact ⟨position, target⟩

/-! ## The linked registry -/

theorem resultTypes_link (index : TypeIndex) (registry : Registry) :
    (registry.link index).resultTypes = registry.resultTypes.map (ResultType.link index) := rfl

end Registry

/-- A collection with an element is linked as a whole. -/
theorem ResultType.link_eq {index : TypeIndex} {resultType : ResultType}
    (elements : ∀ facts, resultType.collection = some facts →
      ∃ position, facts.elementTarget? index = some (.result position)) :
    resultType.link index =
      { resultType.mapShape (Attribute.link index) with
        collection := resultType.collection.map fun facts =>
          { facts with element := { facts.element with target := facts.elementTarget? index } } } := by
  unfold ResultType.link
  cases collects : resultType.collection with
  | none =>
      obtain ⟨identifier, typeName, shape, views, collection⟩ := resultType
      simp only at collects
      simp [ResultType.mapShape, collects]
  | some facts =>
      obtain ⟨position, element⟩ := elements facts collects
      simp [element, TypeRef.resolve]

@[simp] theorem ResultType.identifier_link (index : TypeIndex) (resultType : ResultType) :
    (resultType.link index).identifier = resultType.identifier := by
  unfold ResultType.link
  split
  · rfl
  · split <;> rfl

@[simp] theorem ResultType.typeName_link (index : TypeIndex) (resultType : ResultType) :
    (resultType.link index).typeName = resultType.typeName := by
  unfold ResultType.link
  split
  · rfl
  · split <;> rfl

@[simp] theorem ResultType.map_generated_link (index : TypeIndex) (resultType : ResultType) :
    (resultType.link index).collection.map (·.generated) = resultType.collection.map (·.generated) := by
  unfold ResultType.link
  split
  · rfl
  · rename_i facts collects
    split
    · simp [collects]
    · rfl

@[simp] theorem ResultType.views_link (index : TypeIndex) (resultType : ResultType) :
    (resultType.link index).views = resultType.views := by
  unfold ResultType.link
  split
  · rfl
  · split <;> rfl

@[simp] theorem ResultType.inheritsViews_link (index : TypeIndex) (resultType : ResultType) :
    (resultType.link index).inheritsViews = resultType.inheritsViews := by
  unfold ResultType.link
  cases collects : resultType.collection with
  | none => rfl
  | some facts =>
      simp only
      split
      · simp [ResultType.inheritsViews, collects]
      · rfl

@[simp] theorem ResultType.isCollection_link (index : TypeIndex) (resultType : ResultType) :
    (resultType.link index).isCollection = resultType.isCollection := by
  have sameGenerated := ResultType.map_generated_link index resultType
  unfold ResultType.isCollection
  rw [← Option.isSome_map (f := fun facts : Collection => facts.generated), sameGenerated, Option.isSome_map]

/-- Linking keeps the name of an element. -/
theorem ResultType.exists_collection_of_link {index : TypeIndex} {resultType : ResultType} {facts : Collection}
    (collects : (resultType.link index).collection = some facts) :
    ∃ given, resultType.collection = some given ∧ given.element.name = facts.element.name := by
  unfold ResultType.link at collects
  split at collects
  · rename_i none
    simp [ResultType.mapShape, none] at collects
  · rename_i given has
    split at collects
    · cases collects
      exact ⟨given, has, rfl⟩
    · exact ⟨facts, collects, rfl⟩

namespace Registry

variable {index : TypeIndex} {registry : Registry}

/-- Where every collection has an element, linking changes every shape in the same way. -/
theorem shapes_link (elements : ∀ resultType ∈ registry.resultTypes, ∀ facts, resultType.collection = some facts →
      ∃ position, facts.elementTarget? index = some (.result position)) :
    (registry.link index).shapes = registry.shapes.map (Attribute.link index) := by
  rw [← shapes_mapShapes]
  have sameResults : (registry.link index).resultTypes.map (·.shape) =
      (registry.mapShapes (Attribute.link index)).resultTypes.map (·.shape) := by
    simp only [resultTypes_link, mapShapes, List.map_map]
    apply List.map_congr_left
    intro resultType member
    simp only [Function.comp_apply, ResultType.link_eq (elements resultType member), ResultType.mapShape]
  unfold shapes
  rw [sameResults]
  rfl

/-- Where every collection has an element, linking changes every node in the same way. -/
theorem nodes_link (elements : ∀ resultType ∈ registry.resultTypes, ∀ facts, resultType.collection = some facts →
      ∃ position, facts.elementTarget? index = some (.result position)) :
    (registry.link index).nodes = registry.nodes.map (Attribute.transform (linking index)) := by
  rw [← nodes_mapShapes (keepsForm_linking index)]
  unfold nodes
  rw [shapes_link elements, shapes_mapShapes]
  rfl

/-- Where nothing is unresolved, linking leaves every node linked. -/
theorem isLinked_of_mem_nodes_link (shares : ∀ service ∈ registry.services, service.SharesErrors)
    (nothing : registry.unresolved index = []) : ∀ node ∈ (registry.link index).nodes, node.type.IsLinked index := by
  intro node member
  rw [nodes_link (exists_elementTarget_of_unresolved nothing)] at member
  obtain ⟨before, inNodes, rfl⟩ := List.mem_map.mp member
  obtain ⟨type, details⟩ := before
  exact DataType.isLinked_transform (linkable_of_unresolved shares nothing _ inNodes)

/-- Where nothing is unresolved, linking leaves every collection linked to a result type. -/
theorem element_of_mem_resultTypes_link (nothing : registry.unresolved index = []) {resultType : ResultType}
    (member : resultType ∈ (registry.link index).resultTypes) {facts : Collection}
    (collects : resultType.collection = some facts) :
    ∃ position, facts.element.target = some (.result position) ∧
      index.find? facts.element.name = some (.result position) := by
  rw [resultTypes_link] at member
  obtain ⟨before, inRegistry, rfl⟩ := List.mem_map.mp member
  rw [ResultType.link_eq (exists_elementTarget_of_unresolved nothing before inRegistry)] at collects
  obtain ⟨given, has, rfl⟩ := Option.map_eq_some_iff.mp collects
  exact elementTarget_of_unresolved nothing inRegistry has

end Registry

end ApiDesign
