import ApiDesign.Registry.Shapes

/-!
Contract: references by name are linked to places.

`link` links every reference whose name the index knows, `unresolved` lists the others where they stand. Both leave
out the shape of a collection whose element is no result type: that collection is reported by itself. A shortcut that
is still there has no element and is unresolved. Errors that a method has from its service are linked, but not listed
again.
-/

namespace ApiDesign

/-! ## Linking -/

/-- The reference linked to the type its name refers to, if there is one. -/
def TypeRef.link (index : TypeIndex) (reference : TypeRef) : TypeRef :=
  match index.find? reference.name with
  | some target => reference.resolve target
  | none => reference

/-- The shape with every reference inside it linked. -/
def Attribute.link (index : TypeIndex) (shape : Attribute) : Attribute :=
  shape.transform { named := fun reference => .named (reference.link index) }

/-- The result type that the element of a collection refers to. -/
def Collection.elementTarget? (index : TypeIndex) (facts : Collection) : Option TypeId :=
  match index.find? facts.element.name with
  | some (.result position) => some (.result position)
  | _ => none

def ResultType.link (index : TypeIndex) (resultType : ResultType) : ResultType :=
  match resultType.collection with
  | none => resultType.mapShape (Attribute.link index)
  | some facts =>
      match facts.elementTarget? index with
      | some target =>
          { resultType.mapShape (Attribute.link index) with
            collection := some { facts with element := facts.element.resolve target } }
      | none => resultType

def Registry.link (index : TypeIndex) (registry : Registry) : Registry :=
  { registry.mapShapes (Attribute.link index) with
    resultTypes := registry.resultTypes.map (ResultType.link index) }

/-! ## What cannot be linked -/

/-- The finding that a name refers to nothing. -/
def unresolvedAt (trail : List String) (name : String) : Diagnostic :=
  .located trail (.unresolvedReference name)

def Attribute.unresolvedHere (index : TypeIndex) (trail : List String) (node : Attribute) : List Diagnostic :=
  match node.type with
  | .named reference =>
      match index.find? reference.name with
      | some _ => []
      | none => [unresolvedAt trail reference.name]
  | .collection reference => [unresolvedAt trail reference.name]
  | _ => []

def Attribute.unresolved (index : TypeIndex) (trail : List String) (shape : Attribute) : List Diagnostic :=
  (shape.located trail).flatMap fun (nodeTrail, node) => node.unresolvedHere index nodeTrail

def serversUnresolved (index : TypeIndex) (trail : List String) (servers : List Server) : List Diagnostic :=
  servers.flatMap fun server => server.hosts.flatMap fun host =>
    host.uriVariables.unresolved index (trail ++ [Kind.server.frame server.name, Kind.host.frame host.name])

def errorsUnresolved (index : TypeIndex) (trail : List String) (errors : List ErrorAnswer) : List Diagnostic :=
  (errors.filter fun error => !error.inherited).flatMap fun error =>
    error.shape.unresolved index (trail ++ [Kind.error.frame error.name])

def Method.unresolved (index : TypeIndex) (trail : List String) (method : Method) : List Diagnostic :=
  method.payload.toList.flatMap (Attribute.unresolved index (trail ++ [Frame.payload])) ++
    method.result.toList.flatMap (Attribute.unresolved index (trail ++ [Frame.result])) ++
    errorsUnresolved index trail method.errors

def Service.unresolved (index : TypeIndex) (trail : List String) (service : Service) : List Diagnostic :=
  serversUnresolved index trail service.servers ++ errorsUnresolved index trail service.errors ++
    service.methods.flatMap fun method => method.unresolved index (trail ++ [Kind.method.frame method.name])

/-- The findings of a result type. A collection without an element stands for its shape. -/
def ResultType.unresolved (index : TypeIndex) (resultType : ResultType) : List Diagnostic :=
  let trail := [Kind.resultType.frame resultType.identifier]
  match resultType.collection with
  | none => resultType.shape.unresolved index trail
  | some facts =>
      match facts.elementTarget? index with
      | some _ => resultType.shape.unresolved index trail
      | none => [unresolvedAt trail facts.element.name]

/-- The references of a registry that the index cannot link. -/
def Registry.unresolved (index : TypeIndex) (registry : Registry) : List Diagnostic :=
  (registry.api.toList.flatMap fun api => serversUnresolved index [Kind.api.frame api.name] api.servers) ++
  (registry.services.flatMap fun service => service.unresolved index [Kind.service.frame service.name]) ++
  (registry.userTypes.flatMap fun userType =>
    userType.shape.unresolved index [Kind.userType.frame userType.name]) ++
  registry.resultTypes.flatMap (ResultType.unresolved index)

end ApiDesign
