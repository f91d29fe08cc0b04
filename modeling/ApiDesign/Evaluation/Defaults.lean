import ApiDesign.Evaluation.Settings
import ApiDesign.Registry.Shapes

/-!
Contract: what a design leaves unsaid.

Examples are generated for an attribute unless the settings, the API or the attribute itself switch them off. A view
without a name is the default view. A collection without views takes them from its element. A method has the errors
of its service, unless it declares an error of the same name.
-/

namespace ApiDesign

/-! ## Examples -/

/-- Whether examples are generated in a design at all. -/
def Registry.allowsExamples (settings : Settings) (registry : Registry) : Bool :=
  settings.generateExamples && !registry.api.any (·.metadata.disablesExamples)

/-- The details with the flag that tells whether examples are generated. -/
def Details.markExamples (allowed : Bool) (details : Details) : Details :=
  { details with generateExamples := allowed && !details.metadata.disablesExamples }

/-- The registry with that flag set in every attribute. -/
def Registry.markExamples (settings : Settings) (registry : Registry) : Registry :=
  registry.mapShapes
    (Attribute.transform { details := Details.markExamples (registry.allowsExamples settings) })

/-! ## Views -/

/-- The view under its full name. -/
def View.canonical (view : View) : View :=
  if view.name = "" then { view with name := View.defaultName } else view

/-- The result type with fully named views; a collection without any is to inherit them. -/
def ResultType.canonicalViews (resultType : ResultType) : ResultType :=
  { resultType with
    views := resultType.views.map View.canonical
    collection := resultType.collection.map fun facts => { facts with inheritViews := resultType.views.isEmpty } }

/-- The registry with fully named views. -/
def Registry.canonicalViews (registry : Registry) : Registry :=
  { registry with resultTypes := registry.resultTypes.map ResultType.canonicalViews }

/-! ## Errors -/

/-- The method with one error of its service, unless it has an error of that name. -/
def Method.inherit (method : Method) (error : ErrorAnswer) : Method :=
  if (method.error? error.name).isSome then method
  else { method with errors := method.errors ++ [{ error with inherited := true }] }

/-- The service with its errors handed to its methods. -/
def Service.shareErrors (service : Service) : Service :=
  { service with methods := service.methods.map fun method => service.errors.foldl Method.inherit method }

/-- The registry with the errors of services handed to their methods. -/
def Registry.shareErrors (registry : Registry) : Registry :=
  { registry with services := registry.services.map Service.shareErrors }

end ApiDesign
