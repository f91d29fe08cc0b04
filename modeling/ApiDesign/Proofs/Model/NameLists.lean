import ApiDesign.Proofs.Design.Mentions
import ApiDesign.Proofs.Evaluation.Leftovers
import ApiDesign.Proofs.Evaluation.Persistence
import ApiDesign.Proofs.Model.Links

/-!
Contract: a model has the name lists that were declared.

What evaluation does to shapes leaves their form and their required names alone: a reference may be linked, a shortcut
may become a reference, an example may be switched on. A view that a collection derives selects what a declared view of
its name selects. Nothing touches the services of a server. So each name list of a model is a declared one, or belongs
to a generated collection, which requires nothing.

Owns: `Attribute.requirements`, `Model.KeepsNameLists`.
Does not own: which names declarations put into name lists (`Proofs.Design.Mentions`), which views a collection derives
(`Proofs.Model.Views`).
-/

namespace ApiDesign

/-! ## Required names by themselves -/

/-- The transformation that forgets everything but the form and the names of required children. -/
def requirementsOnly : Transformation where
  named _ := .reference ""
  collection _ := .reference ""
  details details := { validation := { required := details.validation.required } }

/-- What an attribute requires, at any depth. -/
def Attribute.requirements (shape : Attribute) : Attribute := shape.transform requirementsOnly

theorem Attribute.required_requirements (shape : Attribute) : shape.requirements.required = shape.required := by
  cases shape
  rfl

theorem Attribute.nodes_requirements (shape : Attribute) :
    shape.requirements.nodes = shape.nodes.map Attribute.requirements :=
  Attribute.nodes_transform ⟨fun _ => rfl, fun _ => rfl⟩ shape

/-- Shapes with the same requirements have the same name lists. -/
theorem Attribute.exists_node_of_requirements {left right : Attribute} (same : left.requirements = right.requirements)
    {node : Attribute} (member : node ∈ left.nodes) : ∃ other ∈ right.nodes, other.required = node.required := by
  have inRequirements : node.requirements ∈ right.nodes.map Attribute.requirements := by
    rw [← nodes_requirements, ← same, nodes_requirements]
    exact List.mem_map_of_mem member
  obtain ⟨other, inRight, equal⟩ := List.mem_map.mp inRequirements
  exact ⟨other, inRight, by rw [← required_requirements other, equal, required_requirements]⟩

/-- Completing an attribute changes nothing in what it requires. -/
theorem Transformation.IsCompleting.requirements_transform {change : Transformation}
    (completing : change.IsCompleting) :
    Attribute.requirements ∘ Attribute.transform change = Attribute.requirements := by
  have absorbed : change.andThen requirementsOnly = requirementsOnly := by
    simp only [Transformation.andThen, requirementsOnly, Transformation.mk.injEq]
    refine ⟨funext fun reference => ?_, funext fun shortcut => ?_, funext fun details => ?_⟩
    · obtain ⟨target, linked⟩ := completing.named reference
      rw [linked]
      rfl
    · rcases completing.collection shortcut with kept | ⟨reference, replaced⟩
      · rw [kept]
        rfl
      · rw [replaced]
        rfl
    · obtain ⟨flag, flagged⟩ := completing.details details
      rw [Function.comp_apply, flagged]
  funext shape
  rw [Function.comp_apply, Attribute.requirements, Attribute.transform_transform, absorbed]
  rfl

theorem Attribute.requirements_renameElement (name : String) (shape : Attribute) :
    (ResultType.renameElement name shape).requirements = shape.requirements := by
  unfold ResultType.renameElement
  split <;> rfl

theorem ResultType.required_generatedCollection (suffix : String) (element : ResultType) :
    ∀ node ∈ (element.generatedCollection suffix).shape.nodes, node.required = [] := by
  intro node member
  have isNode : node ∈ [(element.generatedCollection suffix).shape, ⟨.reference element.identifier, {}⟩] := member
  simp only [List.mem_cons, List.not_mem_nil, or_false] at isNode
  rcases isNode with rfl | rfl <;> rfl

/-! ## Models -/

/-- A declared result type and what it became: its requirements stay, and of its own views those that select
something. -/
structure ResultType.KeepsNameLists (declared final : ResultType) : Prop where
  shape : final.shape.requirements = declared.shape.requirements
  views : declared.views ≠ [] → List.Forall₂ View.FillsTo declared.views final.views

namespace Model

/-- All servers of a model, those of the API first. -/
def servers (model : Model) : List Server :=
  model.api.toList.flatMap (·.servers) ++ model.services.toList.flatMap (·.servers)

/-- All views of the result types of a model. -/
def views (model : Model) : List View := model.resultTypes.toList.flatMap (·.views)

/-- The name lists of a model are those of a registry. Reduced to what they require, the API, the services and the user
types are the declared ones, but for the order and for errors that methods have from their service. Declared result
types keep their name lists; generated ones require nothing. Whatever view a result type has in the end selects what a
declared view of its name selects. -/
structure KeepsNameLists (registry : Registry) (model : Model) : Prop where
  api : model.api.map (Api.mapShapes Attribute.requirements) = registry.api.map (Api.mapShapes Attribute.requirements)
  services : (model.services.toList.map (Service.mapShapes Attribute.requirements)).Perm
    (registry.services.map fun service => (service.mapShapes Attribute.requirements).shareErrors)
  userTypes : (model.userTypes.toList.map (UserType.mapShape Attribute.requirements)).Perm
    (registry.userTypes.map (UserType.mapShape Attribute.requirements))
  resultTypes : Corresponds ResultType.KeepsNameLists registry.resultTypes
    (model.resultTypes.toList.filter fun resultType => !resultType.isGeneratedCollection)
  generated : ∀ resultType ∈ model.resultTypes, resultType.isGeneratedCollection = true →
    ∀ node ∈ resultType.shape.nodes, node.required = []
  views : ∀ resultType ∈ model.resultTypes, ∀ view ∈ resultType.views, ∃ source ∈ registry.resultTypes,
    ∃ declared ∈ source.views, view.name = declared.canonical.name ∧ view.attributes = declared.attributes

section Keeping

variable {registry : Registry} {model : Model} (keeps : model.KeepsNameLists registry)

include keeps

theorem KeepsNameLists.exists_service {service : Service} (member : service ∈ model.services) :
    ∃ declared ∈ registry.services, service.mapShapes Attribute.requirements =
      (declared.mapShapes Attribute.requirements).shareErrors := by
  have inRegistry := keeps.services.mem_iff.mp
    (List.mem_map_of_mem (f := Service.mapShapes Attribute.requirements) (Array.mem_toList_iff.mpr member))
  obtain ⟨declared, isDeclared, same⟩ := List.mem_map.mp inRegistry
  exact ⟨declared, isDeclared, same.symm⟩

/-- Each server of the model requires and offers what a declared one does. -/
theorem KeepsNameLists.exists_server {server : Server} (member : server ∈ model.servers) :
    ∃ declared ∈ registry.servers,
      server.mapShapes Attribute.requirements = declared.mapShapes Attribute.requirements := by
  rcases List.mem_append.mp member with ofApi | ofService
  · obtain ⟨api, isApi, inApi⟩ := List.mem_flatMap.mp ofApi
    have both := keeps.api
    rw [Option.mem_toList.mp isApi, Option.map_some] at both
    obtain ⟨declared, isDeclared, same⟩ := Option.map_eq_some_iff.mp both.symm
    have sameServers : declared.servers.map (Server.mapShapes Attribute.requirements) =
        api.servers.map (Server.mapShapes Attribute.requirements) := congrArg Api.servers same
    obtain ⟨other, inDeclared, equal⟩ := List.mem_map.mp (sameServers ▸ List.mem_map_of_mem inApi)
    have inApis : declared ∈ registry.api.toList := Option.mem_toList.mpr isDeclared
    exact ⟨other, List.mem_append_left _ (List.mem_flatMap.mpr ⟨declared, inApis, inDeclared⟩), equal.symm⟩
  · obtain ⟨service, inModel, inService⟩ := List.mem_flatMap.mp ofService
    obtain ⟨declared, isDeclared, same⟩ := keeps.exists_service (Array.mem_toList_iff.mp inModel)
    have sameServers : service.servers.map (Server.mapShapes Attribute.requirements) =
        declared.servers.map (Server.mapShapes Attribute.requirements) := congrArg Service.servers same
    obtain ⟨other, inDeclared, equal⟩ := List.mem_map.mp (sameServers ▸ List.mem_map_of_mem inService)
    exact ⟨other, List.mem_append_right _ (List.mem_flatMap.mpr ⟨declared, isDeclared, inDeclared⟩), equal.symm⟩

/-- Each shape of the model requires what a declared one does, or nothing. -/
theorem KeepsNameLists.exists_shape {shape : Attribute} (member : shape ∈ model.shapes) :
    (∃ declared ∈ registry.shapes, shape.requirements = declared.requirements) ∨
      ∀ node ∈ shape.nodes, node.required = [] := by
  unfold shapes at member
  rcases List.mem_append.mp member with earlier | ofResultType
  · refine .inl ?_
    rcases List.mem_append.mp earlier with earlier | ofUserType
    · rcases List.mem_append.mp earlier with ofServer | ofService
      · obtain ⟨server, inModel, inServer⟩ := List.mem_flatMap.mp ofServer
        obtain ⟨declared, isDeclared, same⟩ := keeps.exists_server inModel
        have inDeclared : shape.requirements ∈ declared.shapes.map Attribute.requirements := by
          rw [← Server.shapes_mapShapes, ← same, Server.shapes_mapShapes]
          exact List.mem_map_of_mem inServer
        obtain ⟨other, inShapes, equal⟩ := List.mem_map.mp inDeclared
        exact ⟨other, Registry.mem_shapes_of_server isDeclared inShapes, equal.symm⟩
      · obtain ⟨service, inModel, inService⟩ := List.mem_flatMap.mp ofService
        obtain ⟨declared, isDeclared, same⟩ := keeps.exists_service (Array.mem_toList_iff.mp inModel)
        have inDeclared : shape.requirements ∈ declared.ownShapes.map Attribute.requirements := by
          rw [← Service.ownShapes_mapShapes, ← Service.mem_ownShapes_shareErrors, ← same, Service.ownShapes_mapShapes]
          exact List.mem_map_of_mem inService
        obtain ⟨other, inShapes, equal⟩ := List.mem_map.mp inDeclared
        exact ⟨other, Registry.mem_shapes_of_service isDeclared inShapes, equal.symm⟩
    · obtain ⟨userType, inModel, rfl⟩ := List.mem_map.mp ofUserType
      have inRegistry := keeps.userTypes.mem_iff.mp (List.mem_map_of_mem inModel)
      obtain ⟨declared, isDeclared, same⟩ := List.mem_map.mp inRegistry
      exact ⟨declared.shape, Registry.mem_shapes_of_userType isDeclared, congrArg UserType.shape same.symm⟩
  · obtain ⟨resultType, inModel, rfl⟩ := List.mem_map.mp ofResultType
    by_cases generated : resultType.isGeneratedCollection = true
    · exact .inr (keeps.generated resultType (Array.mem_toList_iff.mp inModel) generated)
    · obtain ⟨declared, isDeclared, kept⟩ :=
        keeps.resultTypes.exists_item (List.mem_filter.mpr ⟨inModel, by simpa using generated⟩)
      exact .inl ⟨declared.shape, Registry.mem_shapes_of_resultType isDeclared, kept.shape⟩

/-- A model that keeps the name lists of a registry names nothing twice if the registry does not. -/
theorem KeepsNameLists.listsNamesOnce (once : ListsNamesOnce registry.nodes registry.views registry.servers) :
    ListsNamesOnce model.nodes model.views model.servers where
  required node member := by
    obtain ⟨shape, inModel, inShape⟩ := List.mem_flatMap.mp member
    rcases keeps.exists_shape inModel with ⟨declared, isDeclared, same⟩ | nothing
    · obtain ⟨other, inDeclared, equal⟩ := Attribute.exists_node_of_requirements same inShape
      rw [← equal]
      exact once.required other (List.mem_flatMap.mpr ⟨declared, isDeclared, inDeclared⟩)
    · rw [nothing node inShape]
      exact List.nodup_nil
  selected view member := by
    obtain ⟨resultType, inModel, inViews⟩ := List.mem_flatMap.mp member
    obtain ⟨source, isSource, declared, isDeclared, _, same⟩ :=
      keeps.views resultType (Array.mem_toList_iff.mp inModel) view inViews
    rw [same]
    exact once.selected declared (List.mem_flatMap.mpr ⟨source, isSource, isDeclared⟩)
  offered server member := by
    obtain ⟨declared, isDeclared, same⟩ := keeps.exists_server member
    have sameServices : (server.mapShapes Attribute.requirements).services =
        (declared.mapShapes Attribute.requirements).services := congrArg Server.services same
    rw [show server.services = declared.services from sameServices]
    exact once.offered declared isDeclared

end Keeping

end Model

/-! ## Derived views -/

/-- A view selects what a view of its name among some result types selects. -/
def View.SelectsLike (given : List ResultType) (view : View) : Prop :=
  ∃ source ∈ given, ∃ other ∈ source.views, view.name = other.name ∧ view.attributes = other.attributes

section Derived

variable {given : List ResultType}

theorem View.SelectsLike.completed {elementViews : List View}
    (ofElement : ∀ view ∈ elementViews, view.SelectsLike given) {view : View} (own : view.SelectsLike given) :
    (view.completed elementViews).SelectsLike given := by
  unfold View.completed
  split
  · split
    · rename_i elementView found
      obtain ⟨source, isGiven, other, inViews, sameName, sameAttributes⟩ :=
        ofElement elementView (List.mem_of_find?_eq_some found)
      have named : elementView.name = view.name := by simpa using List.find?_some found
      exact ⟨source, isGiven, other, inViews, named.symm.trans sameName, sameAttributes⟩
    · exact own
  · exact own

namespace Derivation

/-- A step gives views that select like others. -/
theorem selectsLike_derive {derivation : Derivation} (entry : Nat × Nat)
    (likeGiven : ∀ resultType ∈ derivation.resultTypes, ∀ view ∈ resultType.views, view.SelectsLike given) :
    ∀ resultType ∈ (derivation.derive entry).resultTypes, ∀ view ∈ resultType.views, view.SelectsLike given := by
  obtain ⟨position, element⟩ := entry
  cases here : derivation.resultTypes[position]? with
  | none => simpa [derive, here] using likeGiven
  | some collection =>
      cases there : derivation.resultTypes[element]? with
      | none => simpa [derive, here, there] using likeGiven
      | some source =>
          have ofElement := likeGiven source (List.mem_of_getElem? there)
          have ofCollection := likeGiven collection (List.mem_of_getElem? here)
          rw [resultTypes_derive here there]
          intro resultType member view inViews
          rcases List.mem_or_eq_of_mem_set member with before | rfl
          · exact likeGiven resultType before view inViews
          · simp only [ResultType.viewsFrom] at inViews
            split at inViews
            · exact ofElement view inViews
            · obtain ⟨own, isOwn, rfl⟩ := List.mem_map.mp inViews
              exact (ofCollection own isOwn).completed ofElement

theorem Reaches.selectsLike {derivation reached : Derivation} (reaches : Reaches derivation reached)
    (likeGiven : ∀ resultType ∈ derivation.resultTypes, ∀ view ∈ resultType.views, view.SelectsLike given) :
    ∀ resultType ∈ reached.resultTypes, ∀ view ∈ resultType.views, view.SelectsLike given := by
  induction reaches with
  | refl => exact likeGiven
  | @step before entry _ _ _ inductionHypothesis => exact selectsLike_derive entry inductionHypothesis

/-- In the end, every view selects what a view of its name selected in the beginning. -/
theorem selectsLike_run (given : List ResultType) :
    ∀ resultType ∈ (run given).resultTypes, ∀ view ∈ resultType.views, view.SelectsLike given :=
  (reaches_run given).selectsLike fun resultType isGiven view inViews => ⟨resultType, isGiven, view, inViews, rfl, rfl⟩

end Derivation

end Derived

/-! ## Evaluation -/

namespace Registry

variable {settings : Settings} {registry : Registry}

/-- Naming keeps name lists. -/
theorem NamesAs.requirements_and_views {before named : ResultType} (names : registry.NamesAs settings before named)
    (declared : registry.IsDeclared) :
    named.shape.requirements = before.shape.requirements ∧ named.views = before.views := by
  obtain ⟨position, declaredHere, here⟩ := names
  rw [declared.resultTypes_named] at here
  have atStart : (Naming.start settings.collectionSuffix registry.resultTypes).resultTypes[position]? =
      some (before.nameProvisionally settings.collectionSuffix) := by
    simp [Naming.start, declaredHere]
  have sameRequirements := (Naming.reaches_run settings.collectionSuffix registry.resultTypes).related
    (fun before after => after.shape.requirements = before.shape.requirements) (fun _ => rfl)
    (fun _ collection element same =>
      (Attribute.requirements_renameElement element.identifier collection.shape).trans same)
    atStart here
  rw [shape_nameProvisionally] at sameRequirements
  exact ⟨sameRequirements, Naming.views_run declaredHere here⟩

/-- Whatever view a result type of a derived registry has selects what a declared view of its name selects. -/
theorem IsDeclared.selected_derived (declared : registry.IsDeclared) :
    ∀ resultType ∈ (registry.derived settings).resultTypes, ∀ view ∈ resultType.views,
      ∃ source ∈ registry.resultTypes, ∃ given ∈ source.views,
        view.name = given.canonical.name ∧ view.attributes = given.attributes := by
  intro resultType member view inViews
  rw [resultTypes_derived] at member
  obtain ⟨linkedSource, inLinked, staged, inStaged, sameName, sameAttributes⟩ :=
    Derivation.selectsLike_run _ resultType member view inViews
  obtain ⟨before, inGeneration, rfl⟩ := declared.mem_resultTypes_linked.mp inLinked
  rw [views_staged] at inStaged
  obtain ⟨given, isGiven, rfl⟩ := List.mem_map.mp inStaged
  have keepsAttributes : given.canonical.attributes = given.attributes := by
    unfold View.canonical
    split <;> rfl
  rcases declared.mem_resultTypes_generation inGeneration with fromNaming | ⟨_, element, _, rfl⟩
  · obtain ⟨position, here⟩ := List.mem_iff_getElem?.mp fromNaming
    obtain ⟨source, declaredHere⟩ := declared.exists_declared here
    have sameViews := (NamesAs.requirements_and_views ⟨position, declaredHere, here⟩ declared).2
    exact ⟨source, List.mem_of_getElem? declaredHere, given, sameViews ▸ isGiven, sameName,
      sameAttributes.trans keepsAttributes⟩
  · -- A generated collection has no view of its own.
    cases isGiven

/-- A declared result type keeps its name lists through naming, staging and derivation. -/
theorem Succeeds.keepsNameLists_resultType (succeeds : registry.Succeeds settings) (declared : registry.IsDeclared)
    {before named final : ResultType} (names : registry.NamesAs settings before named)
    (finishes : registry.FinishesAs settings named final) : before.KeepsNameLists final := by
  obtain ⟨sameRequirements, sameViews⟩ := names.requirements_and_views declared
  obtain ⟨position, _, here⟩ := names
  obtain ⟨views, rfl, filled⟩ := finishes.exists_views
  rw [succeeds.staged_eq declared (declared.mem_generation (List.mem_of_getElem? here))]
  refine ⟨?_, sameViews ▸ filled⟩
  rw [← sameRequirements]
  exact congrFun (isCompleting_completing settings registry).requirements_transform named.shape

/-- The model of a declared registry keeps its name lists. -/
theorem Succeeds.keepsNameLists (succeeds : registry.Succeeds settings) (declared : registry.IsDeclared) :
    (Model.ofRegistry (registry.derived settings)).KeepsNameLists registry := by
  have absorbed := (isCompleting_completing settings registry).requirements_transform
  refine ⟨?api, ?services, ?userTypes, ?resultTypes, ?generated, ?views⟩
  case api =>
    show (registry.derived settings).api.map _ = _
    rw [declared.api_derived, Option.map_map]
    congr 1
    funext api
    rw [Function.comp_apply, Api.mapShapes_mapShapes, absorbed]
  case services =>
    refine (declared.services_derived.map _).trans (List.Perm.of_eq ?_)
    rw [List.map_map]
    apply List.map_congr_left
    intro service _
    rw [Function.comp_apply, ← Service.shareErrors_mapShapes, Service.mapShapes_mapShapes, absorbed]
  case userTypes =>
    refine (declared.userTypes_derived.map _).trans (List.Perm.of_eq ?_)
    rw [List.map_map]
    apply List.map_congr_left
    intro userType _
    exact congrArg (fun shape => ({ userType with shape := shape } : UserType)) (congrFun absorbed userType.shape)
  case resultTypes =>
    have corresponds := succeeds.corresponds declared (fun resultType => !resultType.isGeneratedCollection)
      (fun left right sameSort => by
        rw [Bool.not_inj_iff, Bool.eq_iff_iff, ResultType.isGeneratedCollection_iff, sameSort,
          ResultType.isGeneratedCollection_iff])
      fun resultType isGenerated => by simpa using ResultType.isGeneratedCollection_iff.mpr isGenerated
    have noneGenerated : (registry.resultTypes.filter fun resultType => !resultType.isGeneratedCollection) =
        registry.resultTypes := by
      refine List.filter_eq_self.mpr fun resultType member => ?_
      rcases declared.resultTypes resultType member with ⟨_, _, _, none⟩ | ⟨_, _, _, some⟩
      · simp [ResultType.isGeneratedCollection, none]
      · simp [ResultType.isGeneratedCollection, some]
    rw [noneGenerated] at corresponds
    refine corresponds.imp_mem fun before _ final _ both => ?_
    obtain ⟨named, names, finishes⟩ := both
    exact succeeds.keepsNameLists_resultType declared names finishes
  case generated =>
    intro resultType member generated node inShape
    obtain ⟨position, here⟩ := List.mem_iff_getElem?.mp (Model.mem_resultTypes_ofRegistry.mp member)
    obtain ⟨before, inGeneration, _, same⟩ := declared.exists_staged here
    have sort : before.collection.map (·.generated) = some true := by
      rw [← (staged_spec settings registry before).2.2, ← Derivation.collection_of_withoutViews same]
      exact ResultType.isGeneratedCollection_iff.mp generated
    rcases declared.mem_resultTypes_generation inGeneration with fromNaming | ⟨_, element, _, rfl⟩
    · exact absurd sort (declared.not_generated_of_named fromNaming)
    · have sameShape := congrArg ResultType.shape same
      have sameRequirements : resultType.shape.requirements =
          (element.generatedCollection settings.collectionSuffix).shape.requirements := by
        rw [show resultType.shape = (registry.staged settings _).shape from sameShape,
          succeeds.staged_eq declared inGeneration]
        exact congrFun absorbed _
      obtain ⟨other, inGenerated, equal⟩ := Attribute.exists_node_of_requirements sameRequirements inShape
      rw [← equal, element.required_generatedCollection settings.collectionSuffix other inGenerated]
  case views =>
    exact fun resultType member => declared.selected_derived resultType (Model.mem_resultTypes_ofRegistry.mp member)

end Registry

/-! ## First mentions -/

/-- After any declarations, failed ones included, each list of required names, each list of selected attributes and each
list of offered services holds the first mentions of what was recorded in its place, and so no name twice. What records
is the same run, but for the rule by which names are added. A model that is evaluated from the declarations has the
name lists of the registry, and none besides that names anything twice. The types that declarations give are those that
can be made in the language. -/
theorem name_lists_hold_first_mentions (settings : Settings) (declarations : List Declaration)
    (made : ∀ declaration ∈ declarations, ∀ given ∈ declaration.givenTypes, given.IsMade) :
    let design := Design.empty.declareEach declarations
    let recorded := Design.empty.declareEachBy recording declarations
    Design.empty.declareEachBy addNames declarations = design ∧
      design.registry = recorded.registry.mapNames List.eraseDups ∧
      ListsNamesOnce design.registry.nodes design.registry.views design.registry.servers ∧
      ∀ model, design.evaluate settings = .ok model →
        model.KeepsNameLists design.registry ∧ ListsNamesOnce model.nodes model.views model.servers := by
  intro design recorded
  have firsts : design.registry = recorded.registry.mapNames List.eraseDups :=
    Design.registry_declareEach declarations fun declaration member given isGiven =>
      (made declaration member given isGiven).mapRequired_eq
  have once : ListsNamesOnce design.registry.nodes design.registry.views design.registry.servers :=
    firsts ▸ recorded.registry.listsNamesOnce_mapNames
  refine ⟨Design.declareEachBy_addNames declarations Design.empty, firsts, once, fun model evaluated => ?_⟩
  obtain ⟨_, nothing, rfl⟩ := Design.evaluate_eq_ok_iff.mp evaluated
  have succeeds := (Registry.diagnostics_evaluate_eq_nil_iff settings design.registry).mp nothing
  have keeps := succeeds.keepsNameLists (Design.isDeclared_declareEach declarations)
  rw [Registry.evaluate_eq]
  exact ⟨keeps, keeps.listsNamesOnce once⟩

/-- Clauses that require a child twice. -/
def wineLabelClauses : List Clause :=
  [.child "vintner" [], .child "grape" [], .setting (.required ["grape", "vintner", "grape"])]

/-- What these clauses make of an object. -/
def wineLabel : Attribute :=
  ((Clause.applyAll wineLabelClauses (.attr .object) {}).node.shape?).getD .object

theorem isMade_wineLabel : wineLabel.IsMade := by
  have ofObject : DataType.emptyObject.IsMade := .object fun _ member => absurd member List.not_mem_nil
  have givesNothing : Clause.givenTypesOf wineLabelClauses = [] := rfl
  refine @Attribute.IsMade.applied .emptyObject wineLabelClauses {} wineLabel ofObject ?_ rfl
  rw [givesNothing]
  exact fun _ member => absurd member List.not_mem_nil

/-- Bottles whose name lists are filled by several clauses, labels of a made type, and a collection of bottles. -/
def tastings : List Declaration :=
  [.api "cellar" [.block (.server "main") [.setting (.services ["tasting"]),
      .setting (.services ["storage", "tasting"])]],
    .service "storage" [], .service "tasting" [], .userType "Labels" [.type (.array wineLabel)],
    .resultType "vnd.bottle" [.child "year" [],
      .block .attributes [.child "name" [], .setting (.required ["name", "year"])], .setting (.required ["year"]),
      .block (.view "default") [.child "name" [], .child "year" [], .child "name" []]],
    .collectionOf "Bottle" []]

/-- The view of the collection selects what the bottle mentions first. -/
theorem name_lists_hold_first_mentions_tastings :
    let design := Design.empty.declareEach tastings
    let recorded := Design.empty.declareEachBy recording tastings
    (∀ declaration ∈ tastings, ∀ given ∈ declaration.givenTypes, given.IsMade) ∧
      recorded.registry.views.map (·.attributes) = [["name", "year", "name"]] ∧
      ∃ model, design.evaluate {} = .ok model ∧
        (design.registry = recorded.registry.mapNames List.eraseDups ∧
          model.KeepsNameLists design.registry ∧ ListsNamesOnce model.nodes model.views model.servers) ∧
        model.views.map (·.attributes) = [["name", "year"], ["name", "year"]] ∧
        model.servers.map (·.services) = [["tasting", "storage"]] := by
  intro design recorded
  have made : ∀ declaration ∈ tastings, ∀ given ∈ declaration.givenTypes, given.IsMade := by
    intro declaration member given isGiven
    have onlyLabels : tastings.flatMap Declaration.givenTypes = [.array wineLabel] := rfl
    have isLabels : given ∈ [DataType.array wineLabel] :=
      onlyLabels ▸ List.mem_flatMap.mpr ⟨declaration, member, isGiven⟩
    rw [List.mem_singleton.mp isLabels]
    exact .array isMade_wineLabel
  obtain ⟨_, firsts, _, ofModel⟩ := name_lists_hold_first_mentions {} tastings made
  refine ⟨made, by decide +kernel, ?_⟩
  refine exists_model (fun model => model.views.map (·.attributes) == [["name", "year"], ["name", "year"]] &&
    model.servers.map (·.services) == [["tasting", "storage"]]) (by decide +kernel) fun model evaluated passes => ?_
  obtain ⟨views, servers⟩ := Bool.and_eq_true_iff.mp passes
  exact ⟨⟨firsts, ofModel model evaluated⟩, beq_iff_eq.mp views, beq_iff_eq.mp servers⟩

end ApiDesign
