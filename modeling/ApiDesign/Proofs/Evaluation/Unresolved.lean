import ApiDesign.Proofs.Design.FirstOfKey
import ApiDesign.Proofs.Evaluation.DeclaredShapes
import ApiDesign.Proofs.Evaluation.Linking
import ApiDesign.Proofs.Evaluation.Stages
import ApiDesign.Proofs.Schema.Traversal
import Mathlib.Data.List.Perm.Basic

/-!
Contract: linking reports exactly the references that lead to no type.

What refers to types is listed once, in the order of linking: the nodes of shapes, and before the shape of a collection
its element. Left out is what would be reported twice, the errors that methods have from their services and the shape
of a collection whose element is no result type. A report is made for each of the listed that dangles.

Owns: `Registry.referrers`, when a referrer dangles, what linking leaves out.
Does not own: the scan (`Proofs.Evaluation.Linking`), what linked references lead to (`Proofs.Evaluation.Links`).
-/

namespace ApiDesign

/-- The element of a collection has no target exactly if its name refers to no result type. -/
theorem Registry.elementTarget?_eq_none_iff {registry : Registry} {facts : Collection} :
    facts.elementTarget? registry.typeIndex = none ↔ ¬registry.NamesResultType facts.element.name := by
  have namesType := registry.find?_typeIndex_eq_none_iff facts.element.name
  have isUser := registry.find?_typeIndex_eq_user_iff facts.element.name
  unfold NamesType at namesType
  unfold Collection.elementTarget? NamesResultType
  cases found : registry.typeIndex.find? facts.element.name with
  | none =>
      rw [found] at namesType
      simp only [true_iff] at namesType ⊢
      exact fun named => namesType (.inr named.2)
  | some target =>
      rw [found] at namesType isUser
      cases target with
      | user position =>
          simp only [true_iff]
          exact fun named => named.1 (isUser.mp ⟨position, rfl⟩)
      | result position =>
          simp only [reduceCtorEq, false_iff, not_not, Option.some.injEq, exists_false] at namesType isUser ⊢
          exact ⟨isUser, namesType.resolve_left isUser⟩

/-! ## Referrers -/

/-- What refers to a type by its name: an attribute, or a collection by its element. -/
inductive Referrer where
  | node (node : Attribute)
  | element (name : String)

namespace Referrer

def node? : Referrer → Option Attribute
  | .node held => some held
  | .element _ => none

def element? : Referrer → Option String
  | .node _ => none
  | .element name => some name

/-- The name that leads to no type: one that no type has, that of a shortcut, or that of an element that is no result
type. -/
def dangling? (registry : Registry) : Referrer → Option String
  | .node held =>
      match held.type with
      | .named reference => if registry.NamesType reference.name then none else some reference.name
      | .collection reference => some reference.name
      | _ => none
  | .element name => if registry.NamesResultType name then none else some name

end Referrer

/-- The nodes of shapes, each at its path. -/
def referrersIn (shapes : List (List String × Attribute)) : List (List String × Referrer) :=
  shapes.flatMap fun (trail, shape) => (shape.located trail).map fun (path, node) => (path, .node node)

/-- The shapes of a service in the order of linking. -/
def Service.linkedShapes (trail : List String) (service : Service) : List (List String × Attribute) :=
  hostShapes trail service.servers ++ errorShapes trail (service.errors.filter fun error => !error.inherited) ++
    service.methods.flatMap fun method => method.declaredShapes (trail ++ [Kind.method.frame method.name])

/-- A collection whose element is no result type. -/
def ResultType.isStranded (registry : Registry) (resultType : ResultType) : Bool :=
  resultType.collection.any fun facts => !decide (registry.NamesResultType facts.element.name)

/-- What refers in a result type: the element of a collection comes before its shape, which only wraps the element. -/
def ResultType.referrers (registry : Registry) (resultType : ResultType) : List (List String × Referrer) :=
  (resultType.collection.toList.map fun facts =>
    ([Kind.resultType.frame resultType.identifier], .element facts.element.name)) ++
    if resultType.isStranded registry then []
    else referrersIn [([Kind.resultType.frame resultType.identifier], resultType.shape)]

namespace Registry

/-- The shapes outside result types in the order of linking. -/
def linkedShapes (registry : Registry) : List (List String × Attribute) :=
  (registry.api.toList.flatMap fun api => hostShapes [Kind.api.frame api.name] api.servers) ++
    (registry.services.flatMap fun service => service.linkedShapes [Kind.service.frame service.name]) ++
    registry.userTypes.map fun userType => ([Kind.userType.frame userType.name], userType.shape)

/-- All that refers to types, each at its path, in the order of linking. -/
def referrers (registry : Registry) : List (List String × Referrer) :=
  referrersIn registry.linkedShapes ++ registry.resultTypes.flatMap (ResultType.referrers registry)

end Registry

/-! ## Reports -/

section Shapes

variable {index : TypeIndex}

theorem serversUnresolved_eq (trail : List String) (servers : List Server) :
    serversUnresolved index trail servers =
      (hostShapes trail servers).flatMap fun (path, shape) => shape.unresolved index path := by
  simp [serversUnresolved, hostShapes, List.flatMap_assoc, List.flatMap_map]

theorem errorsUnresolved_eq (trail : List String) (errors : List ErrorAnswer) :
    errorsUnresolved index trail errors =
      (errorShapes trail (errors.filter fun error => !error.inherited)).flatMap fun (path, shape) =>
        shape.unresolved index path := by
  simp only [errorsUnresolved, errorShapes, List.flatMap_map]

theorem Method.unresolved_eq (trail : List String) (method : Method) :
    method.unresolved index trail =
      (method.declaredShapes trail).flatMap fun (path, shape) => shape.unresolved index path := by
  simp only [Method.unresolved, Method.declaredShapes, Method.ownErrors, errorsUnresolved_eq, List.flatMap_append,
    List.flatMap_map]

theorem Service.unresolved_eq (trail : List String) (service : Service) :
    service.unresolved index trail =
      (service.linkedShapes trail).flatMap fun (path, shape) => shape.unresolved index path := by
  simp only [Service.unresolved, Service.linkedShapes, serversUnresolved_eq, errorsUnresolved_eq,
    Method.unresolved_eq, List.flatMap_append, List.flatMap_assoc]

/-- What is unresolved in a registry is so in the shapes outside result types, and in result types. -/
theorem Registry.unresolved_eq (registry : Registry) :
    registry.unresolved index =
      (registry.linkedShapes.flatMap fun (path, shape) => shape.unresolved index path) ++
        registry.resultTypes.flatMap (ResultType.unresolved index) := by
  simp only [Registry.unresolved, Registry.linkedShapes, serversUnresolved_eq, Service.unresolved_eq,
    List.flatMap_append, List.flatMap_assoc, List.flatMap_map]

end Shapes

section Reports

variable {registry : Registry}

/-- The reports on referrers whose names lead to no type. -/
def Registry.danglingAmong (registry : Registry) (referrers : List (List String × Referrer)) : List Diagnostic :=
  referrers.filterMap fun (path, referrer) => (referrer.dangling? registry).map (ApiDesign.unresolvedAt path)

theorem Registry.mem_danglingAmong {referrers : List (List String × Referrer)} {diagnostic : Diagnostic} :
    diagnostic ∈ registry.danglingAmong referrers ↔ ∃ path referrer name, (path, referrer) ∈ referrers ∧
      referrer.dangling? registry = some name ∧ diagnostic = ApiDesign.unresolvedAt path name := by
  simp only [Registry.danglingAmong, List.mem_filterMap, Option.map_eq_some_iff, Prod.exists]
  constructor
  · rintro ⟨path, referrer, member, name, dangles, rfl⟩
    exact ⟨path, referrer, name, member, dangles, rfl⟩
  · rintro ⟨path, referrer, name, member, dangles, rfl⟩
    exact ⟨path, referrer, member, name, dangles, rfl⟩

theorem danglingAmong_nil : registry.danglingAmong [] = [] := rfl

theorem danglingAmong_append (referrers others : List (List String × Referrer)) :
    registry.danglingAmong (referrers ++ others) = registry.danglingAmong referrers ++ registry.danglingAmong others :=
  List.filterMap_append

theorem Attribute.unresolvedHere_eq (path : List String) (node : Attribute) :
    node.unresolvedHere registry.typeIndex path =
      (((Referrer.node node).dangling? registry).map (unresolvedAt path)).toList := by
  obtain ⟨type, details⟩ := node
  cases type with
  | named reference =>
      have namesType := registry.find?_typeIndex_eq_none_iff reference.name
      simp only [Attribute.unresolvedHere, Referrer.dangling?]
      cases found : registry.typeIndex.find? reference.name with
      | none => rw [if_neg (namesType.mp found)]; rfl
      | some target =>
          rw [found] at namesType
          rw [if_pos (by simpa using namesType)]
          rfl
  | _ => rfl

theorem danglingAmong_referrersIn (shapes : List (List String × Attribute)) :
    registry.danglingAmong (referrersIn shapes) =
      shapes.flatMap fun (path, shape) => shape.unresolved registry.typeIndex path := by
  unfold Registry.danglingAmong referrersIn Attribute.unresolved
  rw [List.filterMap_flatMap]
  congr 1
  funext ⟨trail, shape⟩
  rw [List.filterMap_map, List.filterMap_eq_flatMap_toList]
  simp only [Attribute.unresolvedHere_eq]
  rfl

theorem danglingAmong_element (path : List String) (name : String) :
    registry.danglingAmong [(path, .element name)] =
      if registry.NamesResultType name then [] else [unresolvedAt path name] := by
  by_cases isResult : registry.NamesResultType name <;>
    simp [Registry.danglingAmong, Referrer.dangling?, isResult]

theorem ResultType.unresolved_eq (resultType : ResultType) :
    resultType.unresolved registry.typeIndex = registry.danglingAmong (resultType.referrers registry) := by
  have inShape : registry.danglingAmong
      (referrersIn [([Kind.resultType.frame resultType.identifier], resultType.shape)]) =
      resultType.shape.unresolved registry.typeIndex [Kind.resultType.frame resultType.identifier] := by
    rw [danglingAmong_referrersIn]
    exact List.append_nil _
  unfold ResultType.unresolved ResultType.referrers ResultType.isStranded
  rw [danglingAmong_append]
  cases resultType.collection with
  | none => exact inShape.symm
  | some facts =>
      by_cases isResult : registry.NamesResultType facts.element.name
      · have hasTarget := Registry.elementTarget?_eq_none_iff.not.mpr (not_not.mpr isResult)
        obtain ⟨target, leads⟩ := Option.ne_none_iff_exists'.mp hasTarget
        simp [leads, isResult, inShape, danglingAmong_element]
      · simp [Registry.elementTarget?_eq_none_iff.mpr isResult, isResult, danglingAmong_element, danglingAmong_nil]

/-- What linking finds are the reports on all referrers, in order. -/
theorem Registry.unresolved_eq_danglingAmong (registry : Registry) :
    registry.unresolved registry.typeIndex = registry.danglingAmong registry.referrers := by
  have inResultTypes : registry.danglingAmong (registry.resultTypes.flatMap (ResultType.referrers registry)) =
      registry.resultTypes.flatMap fun resultType => registry.danglingAmong (resultType.referrers registry) :=
    List.filterMap_flatMap
  rw [Registry.unresolved_eq, Registry.referrers, danglingAmong_append, danglingAmong_referrersIn, inResultTypes]
  congr 2
  funext resultType
  exact resultType.unresolved_eq

end Reports

/-! ## What linking leaves out -/

/-- The method without errors that are marked as inherited. -/
def Method.heard (method : Method) : Method := { method with errors := method.ownErrors }

/-- The service without errors that are marked as inherited. -/
def Service.heard (service : Service) : Service :=
  { service with
    errors := service.errors.filter fun error => !error.inherited
    methods := service.methods.map Method.heard }

/-- The registry without errors that are marked as inherited and without stranded collections. -/
def Registry.heard (registry : Registry) : Registry :=
  { registry with
    services := registry.services.map Service.heard
    resultTypes := registry.resultTypes.filter fun resultType => !resultType.isStranded registry }

/-- The shapes of errors that are marked as inherited. -/
def Service.unheardShapes (service : Service) : List Attribute :=
  ((service.errors ++ service.methods.flatMap (·.errors)).filter (·.inherited)).map (·.shape)

/-- The shapes of errors that are marked as inherited and of stranded collections. -/
def Registry.unheardShapes (registry : Registry) : List Attribute :=
  registry.services.flatMap Service.unheardShapes ++
    (registry.resultTypes.filter (ResultType.isStranded registry)).map (·.shape)

/-! ## Paths of referrers -/

section Paths

variable {registry : Registry}

theorem Method.declaredShapes_heard (trail : List String) (method : Method) :
    method.heard.declaredShapes trail = method.declaredShapes trail := by
  have again : method.heard.ownErrors = method.ownErrors := by
    simp [Method.heard, Method.ownErrors]
  unfold Method.declaredShapes
  rw [again]
  rfl

theorem Service.mem_declaredShapes_heard {trail path : List String} {service : Service} {shape : Attribute} :
    (path, shape) ∈ service.heard.declaredShapes trail ↔ (path, shape) ∈ service.linkedShapes trail := by
  simp only [Service.declaredShapes, Service.linkedShapes, Service.heard, List.flatMap_map,
    Method.declaredShapes_heard, List.mem_append]
  exact or_congr_left or_comm

/-- The shapes that linking goes through are the declared ones of what is heard. -/
theorem Registry.mem_declaredShapes_heard {path : List String} {shape : Attribute} :
    (path, shape) ∈ registry.heard.declaredShapes ↔
      (path, shape) ∈ registry.linkedShapes ∨
        ∃ resultType ∈ registry.resultTypes, resultType.isStranded registry = false ∧
          path = [Kind.resultType.frame resultType.identifier] ∧ shape = resultType.shape := by
  simp only [Registry.declaredShapes, Registry.linkedShapes, Registry.heard, List.flatMap_map, List.mem_append,
    List.mem_flatMap, List.mem_map, List.mem_filter, Service.mem_declaredShapes_heard]
  grind [Service.heard]

theorem mem_referrersIn {path : List String} {node : Attribute} {shapes : List (List String × Attribute)} :
    (path, .node node) ∈ referrersIn shapes ↔
      ∃ trail shape inner, (trail, shape) ∈ shapes ∧ shape.HasAt inner node ∧ path = trail ++ inner := by
  simp only [referrersIn, List.mem_flatMap, List.mem_map, Prod.exists, Attribute.mem_located_iff, Prod.mk.injEq,
    Referrer.node.injEq]
  constructor
  · rintro ⟨trail, shape, inShapes, _, _, ⟨inner, rfl, has⟩, rfl, rfl⟩
    exact ⟨trail, shape, inner, inShapes, has, rfl⟩
  · rintro ⟨trail, shape, inner, inShapes, has, rfl⟩
    exact ⟨trail, shape, inShapes, _, _, ⟨inner, rfl, has⟩, rfl, rfl⟩

theorem ResultType.mem_referrers_iff {path : List String} {node : Attribute} {resultType : ResultType} :
    (path, .node node) ∈ resultType.referrers registry ↔
      resultType.isStranded registry = false ∧ ∃ inner, resultType.shape.HasAt inner node ∧
        path = [Kind.resultType.frame resultType.identifier] ++ inner := by
  unfold ResultType.referrers
  rw [List.mem_append]
  cases resultType.isStranded registry <;> simp [mem_referrersIn]

/-- The nodes among the referrers are those of what is heard, each at its path. -/
theorem Registry.mem_referrers_iff {path : List String} {node : Attribute} :
    (path, .node node) ∈ registry.referrers ↔ registry.heard.HasAt path node := by
  unfold Registry.referrers Registry.HasAt
  simp only [List.mem_append, mem_referrersIn, List.mem_flatMap, ResultType.mem_referrers_iff,
    ← Registry.mem_declaredShapes_iff, Registry.mem_declaredShapes_heard]
  constructor
  · rintro (⟨trail, shape, inner, inShapes, has, rfl⟩ | ⟨resultType, member, grounded, inner, has, rfl⟩)
    · exact ⟨trail, shape, inner, .inl inShapes, has, rfl⟩
    · exact ⟨_, _, inner, .inr ⟨resultType, member, grounded, rfl, rfl⟩, has, rfl⟩
  · rintro ⟨trail, shape, inner, inShapes | ⟨resultType, member, grounded, rfl, rfl⟩, has, rfl⟩
    · exact .inl ⟨trail, shape, inner, inShapes, has, rfl⟩
    · exact .inr ⟨resultType, member, grounded, inner, has, rfl⟩

end Paths

/-! ## Every referrer once -/

section Once

variable {registry : Registry}

/-- The referrers in shapes are their nodes. -/
theorem filterMap_node?_referrersIn (shapes : List (List String × Attribute)) :
    (referrersIn shapes).filterMap (fun (_, referrer) => referrer.node?) =
      (shapes.map Prod.snd).flatMap Attribute.nodes := by
  unfold referrersIn
  rw [List.filterMap_flatMap, List.flatMap_map]
  congr 1
  funext ⟨trail, shape⟩
  rw [List.filterMap_map, ← Attribute.map_snd_located trail shape, ← List.filterMap_eq_map]
  rfl

theorem filterMap_element?_referrersIn (shapes : List (List String × Attribute)) :
    (referrersIn shapes).filterMap (fun (path, referrer) => referrer.element?.map (path, ·)) = [] := by
  rw [List.filterMap_eq_nil_iff]
  intro placed member
  simp only [referrersIn, List.mem_flatMap, List.mem_map] at member
  obtain ⟨_, _, _, _, rfl⟩ := member
  rfl

/-- The elements among the referrers are those of all collections, each at the frame of its collection. -/
theorem Registry.filterMap_element?_referrers (registry : Registry) :
    registry.referrers.filterMap (fun (path, referrer) => referrer.element?.map (path, ·)) =
      registry.resultTypes.filterMap fun resultType => resultType.collection.map fun facts =>
        ([Kind.resultType.frame resultType.identifier], facts.element.name) := by
  unfold Registry.referrers
  rw [List.filterMap_append, filterMap_element?_referrersIn, List.nil_append, List.filterMap_flatMap,
    List.filterMap_eq_flatMap_toList]
  congr 1
  funext resultType
  unfold ResultType.referrers
  rw [List.filterMap_append]
  cases resultType.isStranded registry with
  | true => cases resultType.collection <;> rfl
  | false =>
      rw [if_neg Bool.false_ne_true, filterMap_element?_referrersIn, List.append_nil]
      cases resultType.collection <;> rfl

/-- Errors are heard or marked as inherited. -/
theorem perm_shapes_of_errors (errors : List ErrorAnswer) :
    (errors.map (·.shape)).Perm
      ((errors.filter fun error => !error.inherited).map (·.shape) ++ (errors.filter (·.inherited)).map (·.shape)) := by
  rw [← List.map_append]
  exact ((List.filter_append_perm (fun error : ErrorAnswer => error.inherited) errors).symm.trans
    List.perm_append_comm).map _

theorem map_snd_hostShapes (trail : List String) (servers : List Server) :
    (hostShapes trail servers).map Prod.snd = servers.flatMap Server.shapes := by
  simp only [hostShapes, List.map_flatMap, List.map_map]
  rfl

theorem map_snd_errorShapes (trail : List String) (errors : List ErrorAnswer) :
    (errorShapes trail errors).map Prod.snd = errors.map (·.shape) := by
  simp [errorShapes, Function.comp_def]

theorem Method.perm_shapes (trail : List String) (method : Method) :
    method.shapes.Perm
      ((method.declaredShapes trail).map Prod.snd ++ (method.errors.filter (·.inherited)).map (·.shape)) := by
  have declared : (method.declaredShapes trail).map Prod.snd =
      method.payload.toList ++ method.result.toList ++ method.ownErrors.map (·.shape) := by
    simp [Method.declaredShapes, map_snd_errorShapes, Function.comp_def]
  rw [declared, List.append_assoc]
  exact (perm_shapes_of_errors method.errors).append_left _

/-- Lists side by side may be regrouped. -/
theorem perm_append_regroup {α : Type} (first second third fourth : List α) :
    ((first ++ second) ++ (third ++ fourth)).Perm ((first ++ third) ++ (second ++ fourth)) := by
  rw [List.append_assoc, List.append_assoc]
  exact (List.perm_append_comm_assoc second third fourth).append_left first

/-- Each shape of a service is linked aloud or not heard. -/
theorem Service.perm_shapes (trail : List String) (service : Service) :
    (service.servers.flatMap Server.shapes ++ service.ownShapes).Perm
      ((service.linkedShapes trail).map Prod.snd ++ service.unheardShapes) := by
  have linked : (service.linkedShapes trail).map Prod.snd =
      service.servers.flatMap Server.shapes ++
        ((service.errors.filter fun error => !error.inherited).map (·.shape) ++
          service.methods.flatMap fun method =>
            (method.declaredShapes (trail ++ [Kind.method.frame method.name])).map Prod.snd) := by
    simp only [Service.linkedShapes, List.map_append, map_snd_hostShapes, map_snd_errorShapes, List.map_flatMap,
      List.append_assoc]
  have unheard : service.unheardShapes =
      (service.errors.filter (·.inherited)).map (·.shape) ++
        service.methods.flatMap fun method => (method.errors.filter (·.inherited)).map (·.shape) := by
    simp only [Service.unheardShapes, List.filter_append, List.map_append, List.filter_flatMap, List.map_flatMap]
  have ofMethods := (List.Perm.flatMap_left service.methods fun method _ =>
    method.perm_shapes (trail ++ [Kind.method.frame method.name])).trans (List.flatMap_append_perm ..).symm
  rw [linked, unheard, List.append_assoc]
  refine List.Perm.append_left _ ?_
  exact ((perm_shapes_of_errors service.errors).append ofMethods).trans (perm_append_regroup ..)

/-- Each shape of a registry is linked aloud or not heard. -/
theorem Registry.perm_shapes (registry : Registry) :
    registry.shapes.Perm
      ((registry.linkedShapes.map Prod.snd ++
        (registry.resultTypes.filter fun resultType => !resultType.isStranded registry).map (·.shape)) ++
          registry.unheardShapes) := by
  have all : registry.shapes =
      (registry.api.toList.flatMap fun api => api.servers.flatMap Server.shapes) ++
        ((registry.services.flatMap (fun service => service.servers.flatMap Server.shapes) ++
          registry.services.flatMap Service.ownShapes) ++
          (registry.userTypes.map (·.shape) ++ registry.resultTypes.map (·.shape))) := by
    simp only [Registry.shapes, Registry.servers, List.flatMap_append, List.flatMap_assoc, List.append_assoc]
  have linked : registry.linkedShapes.map Prod.snd =
      (registry.api.toList.flatMap fun api => api.servers.flatMap Server.shapes) ++
        (registry.services.flatMap (fun service =>
          (service.linkedShapes [Kind.service.frame service.name]).map Prod.snd) ++
            registry.userTypes.map (·.shape)) := by
    simp only [Registry.linkedShapes, List.map_append, List.map_flatMap, map_snd_hostShapes, List.map_map,
      List.append_assoc]
    rfl
  have ofServices := (List.flatMap_append_perm registry.services
    (fun service => service.servers.flatMap Server.shapes) Service.ownShapes).trans
      ((List.Perm.flatMap_left registry.services fun service _ =>
        service.perm_shapes [Kind.service.frame service.name]).trans (List.flatMap_append_perm ..).symm)
  have ofResultTypes : (registry.resultTypes.map (·.shape)).Perm
      ((registry.resultTypes.filter fun resultType => !resultType.isStranded registry).map (·.shape) ++
        (registry.resultTypes.filter (ResultType.isStranded registry)).map (·.shape)) := by
    rw [← List.map_append]
    exact ((List.filter_append_perm (ResultType.isStranded registry) registry.resultTypes).symm.trans
      List.perm_append_comm).map _
  have others := ofResultTypes.append_left (registry.userTypes.map (·.shape))
  rw [← List.append_assoc] at others
  rw [all, linked, Registry.unheardShapes]
  simp only [List.append_assoc]
  refine List.Perm.append_left _ ?_
  have regrouped := (ofServices.append others).trans (perm_append_regroup ..)
  simpa only [List.append_assoc] using regrouped

theorem flatMap_ite_nil {α β : Type} (keeps : α → Bool) (part : α → List β) : ∀ items : List α,
    items.flatMap (fun item => if keeps item then part item else []) = (items.filter keeps).flatMap part
  | [] => rfl
  | head :: rest => by
      rw [List.flatMap_cons, flatMap_ite_nil keeps part rest, List.filter_cons]
      split <;> rfl

/-- Each node of a registry is a referrer once, or not heard. -/
theorem Registry.perm_nodes (registry : Registry) :
    registry.nodes.Perm
      (registry.referrers.filterMap (fun (_, referrer) => referrer.node?) ++
        registry.unheardShapes.flatMap Attribute.nodes) := by
  have ofResultType : ∀ resultType : ResultType,
      (resultType.referrers registry).filterMap (fun (_, referrer) => referrer.node?) =
        if !resultType.isStranded registry then resultType.shape.nodes else [] := by
    intro resultType
    have noElement : (resultType.collection.toList.map fun facts =>
        (([Kind.resultType.frame resultType.identifier], .element facts.element.name) :
          List String × Referrer)).filterMap (fun (_, referrer) => referrer.node?) = [] := by
      cases resultType.collection <;> rfl
    unfold ResultType.referrers
    rw [List.filterMap_append, noElement, List.nil_append]
    cases resultType.isStranded registry with
    | true => rfl
    | false => simp [filterMap_node?_referrersIn]
  have grounded : registry.resultTypes.flatMap (fun resultType =>
      if !resultType.isStranded registry then resultType.shape.nodes else []) =
      ((registry.resultTypes.filter fun resultType => !resultType.isStranded registry).map (·.shape)).flatMap
        Attribute.nodes := by
    rw [List.flatMap_map]
    exact flatMap_ite_nil _ _ _
  have visited : registry.referrers.filterMap (fun (_, referrer) => referrer.node?) =
      (registry.linkedShapes.map Prod.snd ++
        (registry.resultTypes.filter fun resultType => !resultType.isStranded registry).map (·.shape)).flatMap
          Attribute.nodes := by
    rw [Registry.referrers, List.filterMap_append, filterMap_node?_referrersIn, List.filterMap_flatMap,
      List.flatMap_append, ← grounded]
    simp only [ofResultType]
  rw [visited, ← List.flatMap_append]
  exact registry.perm_shapes.flatMap_right _

end Once

/-! ## Reports of linking -/

/-- A list goes through all that refers to types in a registry. -/
structure Registry.Covers (registry : Registry) (referrers : List (List String × Referrer)) : Prop where
  /-- Nodes are met at their paths, in all that is heard. -/
  nodes : ∀ path node, (path, .node node) ∈ referrers ↔ registry.heard.HasAt path node
  /-- Every node of the registry is met once, but for those of shapes that are not heard. -/
  once : registry.nodes.Perm
    (referrers.filterMap (fun (_, referrer) => referrer.node?) ++ registry.unheardShapes.flatMap Attribute.nodes)
  /-- Every collection is met once, by the name of its element and at its own frame. -/
  elements : referrers.filterMap (fun (path, referrer) => referrer.element?.map (path, ·)) =
    registry.resultTypes.filterMap fun resultType => resultType.collection.map fun facts =>
      ([Kind.resultType.frame resultType.identifier], facts.element.name)

theorem Registry.covers_referrers (registry : Registry) : registry.Covers registry.referrers where
  nodes _ _ := Registry.mem_referrers_iff
  once := registry.perm_nodes
  elements := registry.filterMap_element?_referrers

/-- A node of an error that is not inherited is met below the frames of its service and of the error. -/
theorem Registry.mem_referrers_of_error {registry : Registry} {service : Service} (member : service ∈ registry.services)
    {error : ErrorAnswer} (inService : error ∈ service.errors) (own : error.inherited = false) {inner : List String}
    {node : Attribute} (has : error.shape.HasAt inner node) :
    ([Kind.service.frame service.name, Kind.error.frame error.name] ++ inner, .node node) ∈ registry.referrers := by
  have heard : service.heard ∈ registry.heard.services := List.mem_map_of_mem member
  have inHeard : error ∈ service.heard.errors := List.mem_filter.mpr ⟨inService, by simp [own]⟩
  exact Registry.mem_referrers_iff.mpr ⟨_, _, inner, .serviceError heard inHeard, has, rfl⟩

/-- Linking a registry outside all frames records, behind what was recorded before, one report for each referrer whose
name leads to no type, in the order of the referrers and at their paths. The referrers are all collections and all
nodes but those of inherited errors and of stranded collections. After preparation an inherited error is a copy of one
of the service, and what leads to no type inside it is reported there. -/
theorem link_reports_unresolved :
    (∀ (registry : Registry) (earlier : List Diagnostic),
      (registry.connect registry.typeIndex).run ⟨[], earlier⟩ =
          (registry.link registry.typeIndex, ⟨[], earlier ++ registry.danglingAmong registry.referrers⟩) ∧
        registry.Covers registry.referrers) ∧
      ∀ (settings : Settings) (declarations : List Declaration),
        let prepared := ((Design.empty.declareEach declarations).registry.prepare settings).1
        ∀ service ∈ prepared.services, (∀ error ∈ service.errors, error.inherited = false) ∧
          ∀ method ∈ service.methods, ∀ error ∈ method.errors, error.inherited = true →
            (∃ own ∈ service.errors, error = { own with inherited := true }) ∧
              ∀ inner node name, error.shape.HasAt inner node →
                (Referrer.node node).dangling? prepared = some name →
                  unresolvedAt ([Kind.service.frame service.name, Kind.error.frame error.name] ++ inner) name ∈
                    prepared.danglingAmong prepared.referrers := by
  refine ⟨fun registry earlier => ⟨?recorded, registry.covers_referrers⟩, ?inherited⟩
  case recorded =>
    rw [registry.yields_connect, Registry.unresolvedAt_nil, Registry.unresolved_eq_danglingAmong]
    rfl
  case inherited =>
    intro settings declarations prepared service member
    have declared := Design.isDeclared_declareEach declarations
    have inPrepared : service ∈ ((Design.empty.declareEach declarations).registry.prepared settings).services := by
      simpa only [prepared, declared.prepare_eq] using member
    obtain ⟨before, own, rfl⟩ := declared.exists_shared inPrepared
    refine ⟨own.errors, fun method inService error inMethod isInherited => ?_⟩
    obtain ⟨declaredMethod, inBefore, rfl⟩ := List.mem_map.mp inService
    rw [Method.foldl_inherit] at inMethod
    rcases List.mem_append.mp inMethod with isOwn | isCopy
    · rw [own.methods declaredMethod inBefore error isOwn] at isInherited
      cases isInherited
    · obtain ⟨original, inErrors, _, rfl⟩ := ErrorAnswer.exists_of_mem_copiesBeside isCopy
      refine ⟨⟨original, inErrors, rfl⟩, fun inner node name has dangles => ?_⟩
      exact Registry.mem_danglingAmong.mpr
        ⟨_, _, name, Registry.mem_referrers_of_error member inErrors (own.errors original inErrors) has, dangles, rfl⟩

/-- A collection without its element, an error that a method inherits, and a shortcut to nothing. -/
def strandedDepot : List Declaration :=
  [.collectionOf "Ghost" [],
    .service "depot"
      [.error "jammed" [.type (.array (.ofType (.reference "Ghost")))],
        .block (.method "list") [.result [.type (.collectionOf "lost")]]]]

/-- The inherited error and the shape of the collection refer to nothing as well, without a report of their own. -/
theorem link_reports_unresolved_strandedDepot :
    let prepared := ((Design.empty.declareEach strandedDepot).registry.prepare {}).1
    (prepared.connect prepared.typeIndex).run ⟨[], []⟩ =
        (prepared.link prepared.typeIndex,
          ⟨[], [unresolvedAt ["service \"depot\"", "error \"jammed\"", "elem"] "Ghost",
            unresolvedAt ["service \"depot\"", "method \"list\"", "result"] "lost",
            unresolvedAt ["result type \"Ghost; type=collection\""] "Ghost"]⟩) ∧
      ∃ service ∈ prepared.services, ∃ method ∈ service.methods, ∃ error ∈ method.errors, error.inherited = true ∧
        ∃ own ∈ service.errors, error = { own with inherited := true } := by
  have reports :
      let prepared := ((Design.empty.declareEach strandedDepot).registry.prepare {}).1
      prepared.danglingAmong prepared.referrers =
          [unresolvedAt ["service \"depot\"", "error \"jammed\"", "elem"] "Ghost",
            unresolvedAt ["service \"depot\"", "method \"list\"", "result"] "lost",
            unresolvedAt ["result type \"Ghost; type=collection\""] "Ghost"] ∧
        (prepared.services.any fun service => service.methods.any fun method =>
          method.errors.any fun error => error.inherited) = true := by
    decide +kernel
  intro prepared
  obtain ⟨dangling, someInherited⟩ := reports
  obtain ⟨service, inPrepared, inService⟩ := List.any_eq_true.mp someInherited
  obtain ⟨method, isMethod, inMethod⟩ := List.any_eq_true.mp inService
  obtain ⟨error, isError, inherited⟩ := List.any_eq_true.mp inMethod
  have copied :=
    (link_reports_unresolved.2 {} strandedDepot service inPrepared).2 method isMethod error isError inherited
  refine ⟨?_, service, inPrepared, method, isMethod, error, isError, inherited, copied.1⟩
  rw [(link_reports_unresolved.1 prepared []).1, dangling]
  rfl

end ApiDesign
