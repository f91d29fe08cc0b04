import ApiDesign.Evaluation.Linking
import ApiDesign.Proofs.Scan

/-!
Contract: linking under a reporter links what the index knows and finds what it does not know.

The scan answers the linked registry and finds the unresolved references where they stand. What it finds in errors
that a method has from its service goes unheard; these are linked like the others.

Owns: the answer and the findings of the scan.
Does not own: what linked references mean (`Proofs.Evaluation.Links`).
-/

namespace ApiDesign

open Scan

variable {index : TypeIndex}

theorem TypeRef.yields_connect (reference : TypeRef) :
    Yields (reference.connect index) (reference.link index) fun trail =>
      match index.find? reference.name with
      | some _ => []
      | none => [unresolvedAt trail reference.name] := by
  unfold connect link
  cases index.find? reference.name with
  | some target => exact .pure _
  | none => exact (Yields.report _).bind (.pure reference)

/-! ## Attributes -/

/-- The references that stand unresolved at nodes that are listed with their trails. -/
def TypeIndex.unresolvedAmong (index : TypeIndex) (located : List (List String × Attribute)) : List Diagnostic :=
  located.flatMap fun (nodeTrail, node) => node.unresolvedHere index nodeTrail

theorem unresolvedAmong_append (located others : List (List String × Attribute)) :
    index.unresolvedAmong (located ++ others) = index.unresolvedAmong located ++ index.unresolvedAmong others :=
  List.flatMap_append

mutual

/-- Linking an attribute finds the unresolved reference of each node inside it. -/
theorem Attribute.yields_connect :
    ∀ shape : Attribute, Yields (shape.connect index) (shape.link index) fun trail => shape.unresolved index trail
  | ⟨type, details⟩ => by
      rw [Attribute.connect]
      refine .congr (type.yields_connect.bind (.pure _)) fun trail => ?_
      rw [Attribute.unresolved, Attribute.located, List.flatMap_cons, List.append_nil]
      rfl

theorem DataType.yields_connect :
    ∀ type : DataType, Yields (type.connect index)
      (type.transform { named := fun reference => .named (reference.link index) }) fun trail =>
        (⟨type, {}⟩ : Attribute).unresolvedHere index trail ++ index.unresolvedAmong (type.located trail)
  | .primitive _ => .pure _
  | .array element => by
      rw [DataType.connect]
      exact .congr ((element.yields_connect.within _).bind (.pure _)) fun trail => List.append_nil _
  | .map key value => by
      rw [DataType.connect]
      refine .congr ((key.yields_connect.within _).bind ((value.yields_connect.within _).bind (.pure _)))
        fun trail => ?_
      rw [DataType.located, unresolvedAmong_append, List.append_nil]
      rfl
  | .object fields => by
      rw [DataType.connect]
      exact .congr ((DataType.yields_connectFields fields).bind (.pure _)) fun trail => List.append_nil _
  | .named reference => by
      rw [DataType.connect]
      exact reference.yields_connect.bind (.pure _)
  | .collection reference => by
      rw [DataType.connect]
      exact (Yields.report _).bind (.pure _)

theorem DataType.yields_connectFields :
    ∀ fields : List (String × Attribute), Yields (DataType.connectFields index fields)
      (DataType.transformFields { named := fun reference => .named (reference.link index) } fields) fun trail =>
        index.unresolvedAmong (DataType.locatedFields trail fields)
  | [] => .pure _
  | (name, child) :: rest => by
      rw [DataType.connectFields]
      refine .congr ((child.yields_connect.within _).bind ((DataType.yields_connectFields rest).bind (.pure _)))
        fun trail => ?_
      rw [DataType.locatedFields, unresolvedAmong_append, List.append_nil]
      rfl

end

/-! ## Declarations -/

theorem Host.yields_connect (host : Host) :
    Yields (host.connect index) (host.mapShapes (Attribute.link index)) fun trail =>
      host.uriVariables.unresolved index trail :=
  .congr (host.uriVariables.yields_connect.bind (.pure _)) fun _ => List.append_nil _

theorem Server.yields_connect (server : Server) :
    Yields (server.connect index) (server.mapShapes (Attribute.link index)) fun trail =>
      server.hosts.flatMap fun host => host.uriVariables.unresolved index (trail ++ [Kind.host.frame host.name]) := by
  unfold connect
  refine .congr (Yields.bind (.mapM fun host _ => host.yields_connect.within _) (.pure _)) fun _ => List.append_nil _

theorem yields_connectServers (servers : List Server) :
    Yields (connectServers index servers) (servers.map (Server.mapShapes (Attribute.link index))) fun trail =>
      serversUnresolved index trail servers := by
  refine .congr (.mapM fun server _ => server.yields_connect.within _) fun trail => ?_
  simp [serversUnresolved]

theorem ErrorAnswer.yields_connect (error : ErrorAnswer) :
    Yields (error.connect index) (error.mapShape (Attribute.link index)) fun trail =>
      errorsUnresolved index trail [error] := by
  have shape : Yields (error.connectShape index) (error.shape.link index) fun trail =>
      errorsUnresolved index trail [error] := by
    unfold connectShape
    cases inherited : error.inherited with
    | true => exact error.shape.yields_connect.unheard.congr fun _ => by simp [errorsUnresolved, inherited]
    | false => exact (error.shape.yields_connect.within _).congr fun _ => by simp [errorsUnresolved, inherited]
  exact .congr (shape.bind (.pure _)) fun _ => List.append_nil _

theorem yields_connectErrors (errors : List ErrorAnswer) :
    Yields (errors.mapM (ErrorAnswer.connect index)) (errors.map (ErrorAnswer.mapShape (Attribute.link index)))
      fun trail => errorsUnresolved index trail errors := by
  refine .congr (.mapM fun error _ => error.yields_connect) fun trail => ?_
  induction errors with
  | nil => rfl
  | cons error rest inductionHypothesis =>
      rw [List.flatMap_cons, inductionHypothesis]
      cases inherited : error.inherited <;> simp [errorsUnresolved, inherited]

theorem Method.yields_connect (method : Method) :
    Yields (method.connect index) (method.mapShapes (Attribute.link index)) fun trail =>
      method.unresolved index trail := by
  unfold connect
  refine .congr (Yields.bind (.optionMapM fun payload _ => payload.yields_connect.within _)
    (.bind (.optionMapM fun result _ => result.yields_connect.within _)
      ((yields_connectErrors method.errors).bind (.pure _)))) fun trail => ?_
  simp [Method.unresolved]

theorem Service.yields_connect (service : Service) :
    Yields (service.connect index) (service.mapShapes (Attribute.link index)) fun trail =>
      service.unresolved index trail := by
  unfold connect
  refine .congr ((yields_connectServers _).bind ((yields_connectErrors _).bind
    (.bind (.mapM fun method _ => method.yields_connect.within _) (.pure _)))) fun trail => ?_
  simp [Service.unresolved]

theorem Api.yields_connect (api : Api) :
    Yields (api.connect index) (api.mapShapes (Attribute.link index)) fun trail =>
      serversUnresolved index trail api.servers :=
  .congr ((yields_connectServers api.servers).bind (.pure _)) fun _ => List.append_nil _

theorem UserType.yields_connect (userType : UserType) :
    Yields (userType.connect index) (userType.mapShape (Attribute.link index)) fun trail =>
      userType.shape.unresolved index trail :=
  .congr (userType.shape.yields_connect.bind (.pure _)) fun _ => List.append_nil _

/-- The unresolved references of a result type that is reached by a trail. -/
def ResultType.unresolvedAt (index : TypeIndex) (trail : List String) (resultType : ResultType) : List Diagnostic :=
  match resultType.collection with
  | none => resultType.shape.unresolved index trail
  | some facts =>
      match facts.elementTarget? index with
      | some _ => resultType.shape.unresolved index trail
      | none => [ApiDesign.unresolvedAt trail facts.element.name]

theorem ResultType.yields_connect (resultType : ResultType) :
    Yields (resultType.connect index) (resultType.link index) fun trail => resultType.unresolvedAt index trail := by
  obtain ⟨identifier, typeName, shape, views, collection⟩ := resultType
  cases collection with
  | none => exact .congr (shape.yields_connect.bind (.pure _)) fun _ => List.append_nil _
  | some facts =>
      unfold connect link unresolvedAt
      dsimp only
      cases facts.elementTarget? index with
      | none => exact (Yields.report _).bind (.pure _)
      | some target => exact .congr (shape.yields_connect.bind (.pure _)) fun _ => List.append_nil _

namespace Registry

variable (registry : Registry)

/-- The unresolved references of a registry that is reached by a trail. -/
def unresolvedAt (index : TypeIndex) (trail : List String) : List Diagnostic :=
  (registry.api.toList.flatMap fun api =>
    serversUnresolved index (trail ++ [Kind.api.frame api.name]) api.servers) ++
  (registry.services.flatMap fun service =>
    service.unresolved index (trail ++ [Kind.service.frame service.name])) ++
  (registry.userTypes.flatMap fun userType =>
    userType.shape.unresolved index (trail ++ [Kind.userType.frame userType.name])) ++
  registry.resultTypes.flatMap fun resultType =>
    resultType.unresolvedAt index (trail ++ [Kind.resultType.frame resultType.identifier])

theorem unresolvedAt_nil : registry.unresolvedAt index [] = registry.unresolved index := rfl

/-- Linking a registry finds its unresolved references. -/
theorem yields_connect : Yields (registry.connect index) (registry.link index) (registry.unresolvedAt index) := by
  unfold connect
  refine .congr (Yields.bind (.optionMapM fun api _ => api.yields_connect.within _)
    (Yields.bind (.mapM fun service _ => service.yields_connect.within _)
      (Yields.bind (.mapM fun userType _ => userType.yields_connect.within _)
        (Yields.bind (.mapM fun resultType _ => resultType.yields_connect.within _) (.pure _))))) fun trail => ?_
  simp [unresolvedAt]

end Registry

end ApiDesign
