import ApiDesign.Proofs.Evaluation.Staging
import ApiDesign.Proofs.Schema.Completion
import Mathlib.Data.List.Forall2

/-!
Contract: what evaluation makes of declared services, user types and of the API.

All stages of evaluation that change shapes amount to one completing transformation, the same everywhere in a design.
Besides, methods get the errors of their service, behind their own. Nothing else changes, so each declaration is
completed field by field.

Owns: `CompletesTo` for whatever has shapes, `Registry.completing`, the completed parts of a linked registry.
Does not own: collections (`Proofs.Model.Preservation`).
-/

namespace ApiDesign

/-! ## Completed declarations -/

/-- A host and what it may have been completed to. -/
structure Host.CompletesTo (declared final : Host) : Prop where
  same : { final with uriVariables := declared.uriVariables } = declared
  uriVariables : declared.uriVariables.CompletesTo final.uriVariables

structure Server.CompletesTo (declared final : Server) : Prop where
  same : { final with hosts := declared.hosts } = declared
  hosts : List.Forall₂ Host.CompletesTo declared.hosts final.hosts

structure Api.CompletesTo (declared final : Api) : Prop where
  same : { final with servers := declared.servers } = declared
  servers : List.Forall₂ Server.CompletesTo declared.servers final.servers

structure ErrorAnswer.CompletesTo (declared final : ErrorAnswer) : Prop where
  same : { final with shape := declared.shape } = declared
  shape : declared.shape.CompletesTo final.shape

/-- A method and what it may have been completed to in a service with some errors: behind its own errors there may be
copies of those, marked as inherited. -/
structure Method.CompletesTo (shared : List ErrorAnswer) (declared final : Method) : Prop where
  same : { final with payload := declared.payload, result := declared.result, errors := declared.errors } = declared
  payload : Option.Rel Attribute.CompletesTo declared.payload final.payload
  result : Option.Rel Attribute.CompletesTo declared.result final.result
  errors : ∃ own inherited, final.errors = own ++ inherited ∧
    List.Forall₂ ErrorAnswer.CompletesTo declared.errors own ∧
    ∀ error ∈ inherited, ∃ original ∈ shared, error = { original with inherited := true }

structure Service.CompletesTo (declared final : Service) : Prop where
  same : { final with methods := declared.methods, errors := declared.errors, servers := declared.servers } = declared
  methods : List.Forall₂ (Method.CompletesTo final.errors) declared.methods final.methods
  errors : List.Forall₂ ErrorAnswer.CompletesTo declared.errors final.errors
  servers : List.Forall₂ Server.CompletesTo declared.servers final.servers

structure UserType.CompletesTo (declared final : UserType) : Prop where
  same : { final with shape := declared.shape } = declared
  shape : declared.shape.CompletesTo final.shape

/-- A view and what it may have been completed to: one without a name is the default view. -/
structure View.CompletesTo (declared final : View) : Prop where
  same : { final with name := declared.name } = declared
  name : final.name = if declared.name = "" then View.defaultName else declared.name

structure ResultType.CompletesTo (declared final : ResultType) : Prop where
  same : { final with shape := declared.shape, views := declared.views } = declared
  shape : declared.shape.CompletesTo final.shape
  views : List.Forall₂ View.CompletesTo declared.views final.views

/-! ## Completing transformations -/

theorem forall₂_map_of_forall {α β : Type} {relation : α → β → Prop} {change : α → β}
    (related : ∀ item, relation item (change item)) (items : List α) :
    List.Forall₂ relation items (items.map change) := by
  rw [List.forall₂_map_right_iff, List.forall₂_same]
  exact fun item _ => related item

theorem optionRel_map_of_forall {α β : Type} {relation : α → β → Prop} {change : α → β}
    (related : ∀ item, relation item (change item)) : ∀ item : Option α, Option.Rel relation item (item.map change)
  | none => .none
  | some item => .some (related item)

section Completing

variable {change : Transformation} (completing : change.IsCompleting)

include completing

theorem Host.completesTo_mapShapes (host : Host) : host.CompletesTo (host.mapShapes (Attribute.transform change)) :=
  ⟨rfl, Attribute.completesTo_transform completing host.uriVariables⟩

theorem Server.completesTo_mapShapes (server : Server) :
    server.CompletesTo (server.mapShapes (Attribute.transform change)) :=
  ⟨rfl, forall₂_map_of_forall (Host.completesTo_mapShapes completing) server.hosts⟩

theorem Api.completesTo_mapShapes (api : Api) : api.CompletesTo (api.mapShapes (Attribute.transform change)) :=
  ⟨rfl, forall₂_map_of_forall (Server.completesTo_mapShapes completing) api.servers⟩

theorem ErrorAnswer.completesTo_mapShape (error : ErrorAnswer) :
    error.CompletesTo (error.mapShape (Attribute.transform change)) :=
  ⟨rfl, Attribute.completesTo_transform completing error.shape⟩

theorem UserType.completesTo_mapShape (userType : UserType) :
    userType.CompletesTo (userType.mapShape (Attribute.transform change)) :=
  ⟨rfl, Attribute.completesTo_transform completing userType.shape⟩

end Completing

theorem View.completesTo_canonical (view : View) : view.CompletesTo view.canonical := by
  unfold View.canonical
  split
  · exact ⟨rfl, by simp [*]⟩
  · exact ⟨rfl, by simp [*]⟩

/-! ## Shared errors -/

theorem Method.completesTo_inherit {change : Transformation} (completing : change.IsCompleting)
    (shared : List ErrorAnswer) (method : Method) :
    method.CompletesTo shared (shared.foldl Method.inherit (method.mapShapes (Attribute.transform change))) := by
  rw [Method.foldl_inherit]
  refine ⟨rfl, ?_, ?_, _, _, rfl, ?_, ?_⟩
  · exact optionRel_map_of_forall (Attribute.completesTo_transform completing) method.payload
  · exact optionRel_map_of_forall (Attribute.completesTo_transform completing) method.result
  · exact forall₂_map_of_forall (ErrorAnswer.completesTo_mapShape completing) method.errors
  · intro error isCopy
    obtain ⟨original, inShared, _, copied⟩ := ErrorAnswer.exists_of_mem_copiesBeside isCopy
    exact ⟨original, inShared, copied⟩

/-- A service whose shapes are completed and whose errors are shared is completed. -/
theorem Service.completesTo_shareErrors {change : Transformation} (completing : change.IsCompleting)
    (service : Service) :
    service.CompletesTo (service.mapShapes (Attribute.transform change)).shareErrors where
  same := rfl
  methods := by
    simp only [Service.shareErrors, Service.mapShapes, List.map_map]
    exact forall₂_map_of_forall (Method.completesTo_inherit completing _) service.methods
  errors := forall₂_map_of_forall (ErrorAnswer.completesTo_mapShape completing) service.errors
  servers := forall₂_map_of_forall (Server.completesTo_mapShapes completing) service.servers

/-! ## Changes of all shapes -/

section Changing

variable (change next : Attribute → Attribute)

theorem Method.error?_mapShapes (name : String) (method : Method) :
    (method.mapShapes change).error? name = (method.error? name).map (ErrorAnswer.mapShape change) := by
  unfold Method.error? Method.mapShapes
  rw [List.find?_map]
  rfl

theorem Method.inherit_mapShapes (method : Method) (error : ErrorAnswer) :
    (method.mapShapes change).inherit (error.mapShape change) = (method.inherit error).mapShapes change := by
  have sameName : (error.mapShape change).name = error.name := rfl
  unfold Method.inherit
  rw [sameName, Method.error?_mapShapes, Option.isSome_map, apply_ite (Method.mapShapes change)]
  simp [Method.mapShapes, ErrorAnswer.mapShape]

theorem Method.foldl_inherit_mapShapes : ∀ (errors : List ErrorAnswer) (method : Method),
    (errors.map (ErrorAnswer.mapShape change)).foldl Method.inherit (method.mapShapes change) =
      (errors.foldl Method.inherit method).mapShapes change
  | [], _ => rfl
  | head :: rest, method => by
      rw [List.map_cons, List.foldl_cons, List.foldl_cons, Method.inherit_mapShapes]
      exact Method.foldl_inherit_mapShapes rest (method.inherit head)

/-- It does not matter whether shapes are changed before errors are shared or afterwards. -/
theorem Service.shareErrors_mapShapes (service : Service) :
    (service.mapShapes change).shareErrors = service.shareErrors.mapShapes change := by
  simp only [Service.shareErrors, Service.mapShapes, List.map_map, Service.mk.injEq, true_and, and_true]
  apply List.map_congr_left
  intro method _
  exact Method.foldl_inherit_mapShapes change service.errors method

theorem Server.mapShapes_mapShapes (server : Server) :
    (server.mapShapes change).mapShapes next = server.mapShapes (next ∘ change) := by
  simp [Server.mapShapes, Host.mapShapes, Function.comp_def]

theorem Api.mapShapes_mapShapes (api : Api) :
    (api.mapShapes change).mapShapes next = api.mapShapes (next ∘ change) := by
  simp [Api.mapShapes, Server.mapShapes_mapShapes]

theorem Method.mapShapes_mapShapes (method : Method) :
    (method.mapShapes change).mapShapes next = method.mapShapes (next ∘ change) := by
  simp [Method.mapShapes, ErrorAnswer.mapShape, Function.comp_def]

theorem Service.mapShapes_mapShapes (service : Service) :
    (service.mapShapes change).mapShapes next = service.mapShapes (next ∘ change) := by
  simp [Service.mapShapes, ErrorAnswer.mapShape, Method.mapShapes_mapShapes, Server.mapShapes_mapShapes,
    Function.comp_def]

end Changing

/-! ## The completed registry -/

theorem Generation.isCompleting_resolution (targets : List (String × String)) :
    (Generation.resolution targets).IsCompleting where
  named reference := ⟨reference.target, rfl⟩
  collection shortcut := by
    unfold Generation.resolution
    simp only
    split
    · exact .inr ⟨_, rfl⟩
    · exact .inl rfl
  details details := ⟨details.generateExamples, rfl⟩

theorem isCompleting_linking (index : TypeIndex) : (linking index).IsCompleting where
  named reference := by
    simp only [linking, TypeRef.link]
    split
    · exact ⟨_, rfl⟩
    · exact ⟨reference.target, rfl⟩
  collection _ := .inl rfl
  details details := ⟨details.generateExamples, rfl⟩

namespace Registry

variable {settings : Settings} {registry : Registry}

theorem isCompleting_marking (settings : Settings) (registry : Registry) :
    (registry.marking settings).IsCompleting where
  named reference := ⟨reference.target, rfl⟩
  collection _ := .inl rfl
  details _ := ⟨_, rfl⟩

/-- All that evaluation does to the shapes of a registry. -/
def completing (settings : Settings) (registry : Registry) : Transformation :=
  (Generation.resolution (registry.generation settings).targets).andThen
    ((registry.marking settings).andThen (linking (registry.prepared settings).typeIndex))

theorem isCompleting_completing (settings : Settings) (registry : Registry) :
    (registry.completing settings).IsCompleting :=
  (Generation.isCompleting_resolution _).andThen
    ((isCompleting_marking settings registry).andThen (isCompleting_linking _))

/-- The three walks of evaluation over a shape are one. -/
theorem transform_completing (settings : Settings) (registry : Registry) :
    Attribute.link (registry.prepared settings).typeIndex ∘ Attribute.transform (registry.marking settings) ∘
        Attribute.transform (Generation.resolution (registry.generation settings).targets) =
      Attribute.transform (registry.completing settings) := by
  funext shape
  simp only [Function.comp_apply, Attribute.link]
  rw [← linking, Attribute.transform_transform, Attribute.transform_transform]
  rfl

/-- Generation adds result types only. -/
theorem IsDeclared.services_generated (declared : registry.IsDeclared) :
    (registry.generated settings).services = registry.services.map
      (Service.mapShapes (Attribute.transform (Generation.resolution (registry.generation settings).targets))) := by
  rw [declared.generated_eq, services_mapShapes, declared.isSound_generation.extended.services, declared.named_eq]
  rfl

theorem IsDeclared.userTypes_generated (declared : registry.IsDeclared) :
    (registry.generated settings).userTypes = registry.userTypes.map
      (UserType.mapShape (Attribute.transform (Generation.resolution (registry.generation settings).targets))) := by
  rw [declared.generated_eq, mapShapes, declared.isSound_generation.extended.userTypes, declared.named_eq]
  rfl

theorem IsDeclared.api_generated (declared : registry.IsDeclared) :
    (registry.generated settings).api = registry.api.map
      (Api.mapShapes (Attribute.transform (Generation.resolution (registry.generation settings).targets))) := by
  rw [declared.generated_eq, mapShapes, declared.isSound_generation.extended.api, declared.named_eq]
  rfl

/-- The API of a model is the declared one, completed. -/
theorem IsDeclared.api_derived (declared : registry.IsDeclared) :
    (registry.derived settings).api =
      registry.api.map (Api.mapShapes (Attribute.transform (registry.completing settings))) := by
  have fromGenerated : (registry.derived settings).api =
      ((registry.generated settings).api.map (Api.mapShapes (Attribute.transform (registry.marking settings)))).map
        (Api.mapShapes (Attribute.link (registry.prepared settings).typeIndex)) := by
    unfold derived linked prepared completed
    rfl
  rw [fromGenerated, declared.api_generated, Option.map_map, Option.map_map]
  congr 1
  funext api
  simp only [Function.comp_apply, Api.mapShapes_mapShapes]
  rw [transform_completing]

/-- The services of a model are the declared ones, completed. -/
theorem IsDeclared.services_derived (declared : registry.IsDeclared) :
    (registry.derived settings).services.Perm (registry.services.map fun service =>
      (service.mapShapes (Attribute.transform (registry.completing settings))).shareErrors) := by
  have fromCompleted : (registry.derived settings).services =
      (sortByName (·.name) (registry.completed settings).services).map
        (Service.mapShapes (Attribute.link (registry.prepared settings).typeIndex)) := by
    unfold derived linked prepared
    rfl
  have fromGenerated : (registry.completed settings).services =
      ((registry.generated settings).services.map
        (Service.mapShapes (Attribute.transform (registry.marking settings)))).map Service.shareErrors := by
    unfold completed
    rfl
  rw [fromCompleted]
  refine ((sortByName_perm _ _).map _).trans (List.Perm.of_eq ?_)
  rw [fromGenerated, declared.services_generated, List.map_map, List.map_map, List.map_map]
  apply List.map_congr_left
  intro service _
  simp only [Function.comp_apply]
  rw [← Service.shareErrors_mapShapes, Service.mapShapes_mapShapes, Service.mapShapes_mapShapes, Function.comp_assoc,
    transform_completing]

/-- The user types of a model are the declared ones, completed. -/
theorem IsDeclared.userTypes_derived (declared : registry.IsDeclared) :
    (registry.derived settings).userTypes.Perm
      (registry.userTypes.map (UserType.mapShape (Attribute.transform (registry.completing settings)))) := by
  have fromCompleted : (registry.derived settings).userTypes =
      (sortByName (·.name) ((registry.generated settings).userTypes.map
        (UserType.mapShape (Attribute.transform (registry.marking settings))))).map
        (UserType.mapShape (Attribute.link (registry.prepared settings).typeIndex)) := by
    unfold derived linked prepared completed
    rfl
  rw [fromCompleted]
  refine ((sortByName_perm _ _).map _).trans (List.Perm.of_eq ?_)
  rw [declared.userTypes_generated, List.map_map, List.map_map, ← transform_completing]
  rfl

end Registry

end ApiDesign
