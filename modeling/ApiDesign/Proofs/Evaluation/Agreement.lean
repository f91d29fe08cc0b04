import ApiDesign.Evaluation.Findings
import ApiDesign.Evaluation.Links
import ApiDesign.Proofs.Registry.Roots
import ApiDesign.Proofs.Schema.Agreement
import ApiDesign.Proofs.Schema.Traversal

/-!
Contract: what is found in a declaration depends on the names that its shapes refer to, and on no others.

Findings and unresolved references of a declaration are collected from its shapes. A shape that refers to some names
only has the same findings under two vocabularies that agree on these names, and the same unresolved references under
two indices that do.

Owns: `TypeIndex.AgreeOn`, `Root.RefersWithin`, findings and unresolved references of declarations under agreement.
Does not own: agreement of vocabularies (`Proofs.Schema.Agreement`).
-/

namespace ApiDesign

variable {names : String → Prop}

/-- Everything inside a shape refers to names that the shape refers to. -/
theorem DataType.RefersWithin.of_located {shape node : Attribute} (within : shape.type.RefersWithin names)
    {trail nodeTrail : List String} (member : (nodeTrail, node) ∈ shape.located trail) :
    node.type.RefersWithin names :=
  Attribute.refersWithin_iff.mpr fun inner inNode =>
    Attribute.refersWithin_iff.mp within inner
      (Attribute.mem_nodes_of_mem inNode shape (Attribute.mem_nodes_of_located member))

/-- All shapes of a root refer to some names only. -/
def Root.RefersWithin (names : String → Prop) (root : Root) : Prop :=
  ∀ shape ∈ root.shapes, shape.type.RefersWithin names

/-! ## Findings -/

namespace Vocabulary.AgreeOn

variable {left right : Vocabulary} (agree : AgreeOn names left right)

include agree

theorem nodeFindings_eq {node : Attribute} (within : node.type.RefersWithin names) (trail : List String) :
    left.nodeFindings trail node = right.nodeFindings trail node := by
  have sameDefault : left.defaultFindings trail node = right.defaultFindings trail node := by
    unfold defaultFindings
    cases node.details.defaultValue with
    | none => rfl
    | some value =>
        dsimp only
        rw [agree.accepts_eq value within]
  rw [nodeFindings, nodeFindings, sameDefault, requiredFindings, requiredFindings, agree.fieldsOf?_eq within]

theorem shapeFindings_eq {shape : Attribute} (within : shape.type.RefersWithin names) (trail : List String) :
    left.shapeFindings trail shape = right.shapeFindings trail shape :=
  List.flatMap_congr fun ⟨_, _⟩ member => agree.nodeFindings_eq (within.of_located member) _

theorem serverFindings_eq {servers : List Server}
    (within : ∀ shape ∈ servers.flatMap Server.shapes, shape.type.RefersWithin names) (trail : List String) :
    serverFindings left trail servers = serverFindings right trail servers := by
  unfold serverFindings
  congr 1
  refine List.flatMap_congr fun server inServers => ?_
  unfold Server.findings
  congr 1
  refine List.flatMap_congr fun host inHosts => ?_
  have inShapes : host.uriVariables ∈ servers.flatMap Server.shapes :=
    List.mem_flatMap.mpr ⟨server, inServers, List.mem_map_of_mem inHosts⟩
  rw [Host.findings, Host.findings, agree.shapeFindings_eq (within _ inShapes)]

theorem errorFindings_eq {errors : List ErrorAnswer} (within : ∀ error ∈ errors, error.shape.type.RefersWithin names)
    (trail : List String) : errorFindings left trail errors = errorFindings right trail errors :=
  List.flatMap_congr fun error member => agree.shapeFindings_eq (within error member) _

theorem partFindings_eq {part : Option Attribute} (within : ∀ shape ∈ part.toList, shape.type.RefersWithin names)
    (trail : List String) : left.partFindings trail part = right.partFindings trail part :=
  List.flatMap_congr fun shape member => agree.shapeFindings_eq (within shape member) _

theorem methodFindings_eq {method : Method} (within : ∀ shape ∈ method.shapes, shape.type.RefersWithin names)
    (trail : List String) : method.findings left trail = method.findings right trail := by
  simp only [Method.shapes, List.mem_append, List.mem_map] at within
  have ownWithin : ∀ error ∈ method.ownErrors, error.shape.type.RefersWithin names :=
    fun error member => within _ (.inr ⟨error, List.mem_of_mem_filter member, rfl⟩)
  unfold Method.findings
  rw [agree.partFindings_eq fun shape member => within shape (.inl (.inl member)),
    agree.partFindings_eq fun shape member => within shape (.inl (.inr member)), agree.errorFindings_eq ownWithin]

theorem serviceFindings_eq {service : Service} (within : (Root.service service).RefersWithin names)
    (trail : List String) : service.findings left trail = service.findings right trail := by
  simp only [Root.RefersWithin, Root.shapes, Service.ownShapes, List.mem_append, List.mem_map,
    List.mem_flatMap (b := _) (l := service.methods)] at within
  unfold Service.findings
  rw [agree.errorFindings_eq fun error member => within _ (.inr (.inl ⟨error, member, rfl⟩)),
    agree.serverFindings_eq fun shape member => within shape (.inl member)]
  congr 1
  exact List.flatMap_congr fun method member =>
    agree.methodFindings_eq (fun shape inShapes => within shape (.inr (.inr ⟨method, member, inShapes⟩))) _

end Vocabulary.AgreeOn

/-! ## Unresolved references -/

theorem Collection.elementTarget?_eq_some_iff {facts : Collection} {index : TypeIndex} {target : TypeId} :
    facts.elementTarget? index = some target ↔
      ∃ position, .result position = target ∧ index.find? facts.element.name = some (.result position) := by
  unfold elementTarget?
  split
  next position found => simp [found]
  next others => simpa using fun position _ found => others position found

/-- Two indices resolve the same of some names, and to the same result types. -/
structure TypeIndex.AgreeOn (names : String → Prop) (left right : TypeIndex) : Prop where
  resolved : ∀ name, names name → ((left.find? name).isSome ↔ (right.find? name).isSome)
  result : ∀ name, names name → ∀ position,
    left.find? name = some (.result position) ↔ right.find? name = some (.result position)

namespace TypeIndex.AgreeOn

variable {left right : TypeIndex} (agree : AgreeOn names left right)

include agree

theorem unresolvedHere_eq {node : Attribute} (within : node.type.RefersWithin names) (trail : List String) :
    node.unresolvedHere left trail = node.unresolvedHere right trail := by
  unfold Attribute.unresolvedHere
  cases type : node.type with
  | named reference =>
      have same := agree.resolved reference.name (within.1 reference (by rw [type]; rfl))
      cases inLeft : left.find? reference.name <;> cases inRight : right.find? reference.name <;>
        simp [inLeft, inRight] at same ⊢
  | _ => rfl

theorem unresolved_eq {shape : Attribute} (within : shape.type.RefersWithin names) (trail : List String) :
    shape.unresolved left trail = shape.unresolved right trail :=
  List.flatMap_congr fun ⟨_, _⟩ member => agree.unresolvedHere_eq (within.of_located member) _

theorem serversUnresolved_eq {servers : List Server}
    (within : ∀ shape ∈ servers.flatMap Server.shapes, shape.type.RefersWithin names) (trail : List String) :
    serversUnresolved left trail servers = serversUnresolved right trail servers :=
  List.flatMap_congr fun server inServers => List.flatMap_congr fun _ inHosts =>
    agree.unresolved_eq
      (within _ (List.mem_flatMap.mpr ⟨server, inServers, List.mem_map_of_mem inHosts⟩)) _

theorem errorsUnresolved_eq {errors : List ErrorAnswer}
    (within : ∀ error ∈ errors, error.shape.type.RefersWithin names) (trail : List String) :
    errorsUnresolved left trail errors = errorsUnresolved right trail errors :=
  List.flatMap_congr fun error member => agree.unresolved_eq (within error (List.mem_of_mem_filter member)) _

theorem methodUnresolved_eq {method : Method} (within : ∀ shape ∈ method.shapes, shape.type.RefersWithin names)
    (trail : List String) : method.unresolved left trail = method.unresolved right trail := by
  simp only [Method.shapes, List.mem_append, List.mem_map] at within
  unfold Method.unresolved
  rw [agree.errorsUnresolved_eq fun error member => within _ (.inr ⟨error, member, rfl⟩),
    List.flatMap_congr fun shape member => agree.unresolved_eq (within shape (.inl (.inl member))) _,
    List.flatMap_congr fun shape member => agree.unresolved_eq (within shape (.inl (.inr member))) _]

theorem serviceUnresolved_eq {service : Service} (within : (Root.service service).RefersWithin names)
    (trail : List String) : service.unresolved left trail = service.unresolved right trail := by
  simp only [Root.RefersWithin, Root.shapes, Service.ownShapes, List.mem_append, List.mem_map,
    List.mem_flatMap (b := _) (l := service.methods)] at within
  unfold Service.unresolved
  rw [agree.serversUnresolved_eq fun shape member => within shape (.inl member),
    agree.errorsUnresolved_eq fun error member => within _ (.inr (.inl ⟨error, member, rfl⟩))]
  congr 1
  exact List.flatMap_congr fun method member =>
    agree.methodUnresolved_eq (fun shape inShapes => within shape (.inr (.inr ⟨method, member, inShapes⟩))) _

/-- An element is found in both or in neither, and at the same place. -/
theorem elementTarget?_eq {facts : Collection} (isName : names facts.element.name) :
    facts.elementTarget? left = facts.elementTarget? right := by
  refine Option.ext fun target => ?_
  rw [Collection.elementTarget?_eq_some_iff, Collection.elementTarget?_eq_some_iff]
  exact exists_congr fun position => and_congr_right fun _ => agree.result _ isName position

theorem resultTypeUnresolved_eq {resultType : ResultType} (within : resultType.shape.type.RefersWithin names)
    (isName : ∀ facts ∈ resultType.collection, names facts.element.name) :
    resultType.unresolved left = resultType.unresolved right := by
  unfold ResultType.unresolved
  cases collects : resultType.collection with
  | none => exact agree.unresolved_eq within _
  | some facts =>
      simp only
      rw [agree.elementTarget?_eq (isName facts collects), agree.unresolved_eq within]

end TypeIndex.AgreeOn

end ApiDesign
