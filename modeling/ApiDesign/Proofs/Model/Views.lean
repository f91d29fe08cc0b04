import ApiDesign.Proofs.Evaluation.Shortcuts
import ApiDesign.Proofs.Model.Chains
import Mathlib.Data.List.Forall2

/-!
Contract: the views of a collection in a model, from the views that were declared and those of its element.

A collection that declared no view has the views of its element. One that declared views has exactly these, in order:
a view that selects something stays as it was declared, one that selects nothing is filled from the element's view of
its name. A view that was declared without a name is the default view throughout.

Owns: `Registry.declaredViews`, `View.IsDerived`, the exact views of collections.
Does not own: collections whose chain of elements never ends (`Proofs.Model.DefaultViews`).
-/

namespace ApiDesign

/-! ## Declared views -/

namespace Registry

/-- The views that the declaration of a result type made, by the identifier that the result type has after naming. A
generated collection has no declaration and so no declared views. -/
def declaredViews (settings : Settings) (identifier : String) (registry : Registry) : List View :=
  (((registry.resultTypes.zip (registry.named settings).resultTypes).find? fun entry =>
    entry.2.identifier == identifier).map fun entry => entry.1.views).getD []

/-- Items paired with other items are found by the names of those. -/
theorem find?_zip_snd {α β : Type} (name : β → String) {lefts : List α} {rights : List β}
    (sameLength : lefts.length = rights.length) (distinct : (rights.map name).Nodup) {position : Nat} {left : α}
    {right : β} (atLeft : lefts[position]? = some left) (atRight : rights[position]? = some right) :
    (lefts.zip rights).find? (fun entry => name entry.2 == name right) = some (left, right) := by
  have names : (lefts.zip rights).map (fun entry => name entry.2) = rights.map name := by
    rw [← List.map_snd_zip (Nat.le_of_eq sameLength.symm), List.map_map,
      List.map_snd_zip (Nat.le_of_eq sameLength.symm)]
    rfl
  rw [← names] at distinct
  exact (find?_eq_some_iff_mem distinct).mpr ⟨List.mem_of_getElem? (List.getElem?_zip_eq_some.mpr ⟨atLeft, atRight⟩),
    rfl⟩

variable {settings : Settings} {registry : Registry}

theorem IsDeclared.declaredViews_of_named (declared : registry.IsDeclared) {resultType : ResultType}
    (member : resultType ∈ (registry.named settings).resultTypes) :
    registry.declaredViews settings resultType.identifier = resultType.views := by
  obtain ⟨position, here⟩ := List.mem_iff_getElem?.mp member
  obtain ⟨before, declaredHere⟩ := declared.exists_declared here
  have distinct : ((registry.named settings).resultTypes.map (·.identifier)).Nodup :=
    declared.isIndexed_named.nodup .resultType
  unfold declaredViews
  rw [find?_zip_snd (·.identifier) (declared.length_named settings).symm distinct declaredHere here]
  rw [declared.resultTypes_named] at here
  exact (Naming.views_run declaredHere here).symm

theorem declaredViews_of_unknown {identifier : String}
    (unknown : identifier ∉ (registry.named settings).resultTypes.map (·.identifier)) :
    registry.declaredViews settings identifier = [] := by
  have notFound : (registry.resultTypes.zip (registry.named settings).resultTypes).find?
      (fun entry => entry.2.identifier == identifier) = none := by
    rw [List.find?_eq_none]
    rintro ⟨before, named⟩ inZip same
    refine unknown (List.mem_map.mpr ⟨named, (List.of_mem_zip inZip).2, ?_⟩)
    simpa using same
  unfold declaredViews
  rw [notFound]
  rfl

/-- Until they are staged, result types have the views that were declared. -/
theorem IsDeclared.declaredViews_eq (declared : registry.IsDeclared) {resultType : ResultType}
    (member : resultType ∈ (registry.generation settings).registry.resultTypes) :
    registry.declaredViews settings resultType.identifier = resultType.views := by
  rcases declared.mem_resultTypes_generation member with fromNaming | ⟨unknown, element, _, rfl⟩
  · exact declared.declaredViews_of_named fromNaming
  · rw [declaredViews_of_unknown unknown]
    rfl

end Registry

/-! ## Derived views -/

/-- What a declared view of a collection becomes: itself if it selects something, otherwise the selection of the
element's view of its name, with that view's description if it has none. -/
structure View.IsDerived (element : ResultType) (declared final : View) : Prop where
  name : final.name = declared.name
  own : declared.attributes ≠ [] → final = declared
  copied : declared.attributes = [] → ∃ source, element.view? declared.name = some source ∧
    final.attributes = source.attributes ∧ final.description = declared.description.or source.description

theorem View.isDerived_completed {element : ResultType} {view : View}
    (hasSource : view.lacksSource element.views = false) : view.IsDerived element (view.completed element.views) := by
  unfold View.lacksSource at hasSource
  unfold View.completed
  cases selects : view.attributes with
  | cons first rest => exact ⟨rfl, fun _ => rfl, fun nothing => absurd (selects.symm.trans nothing) (by simp)⟩
  | nil =>
      cases found : element.views.find? (·.name == view.name) with
      | none => simp [selects, found] at hasSource
      | some source => exact ⟨rfl, fun something => absurd selects something, fun _ => ⟨source, found, rfl, rfl⟩⟩

/-! ## Models -/

/-- In every model, a collection whose chain of elements ends has the views of its element if it declared none;
otherwise it has its declared views, one by one, as they are or filled from the views of the element. -/
theorem views_of_chainEnds {settings : Settings} {declarations : List Declaration} {model : Model}
    (evaluated : evaluate settings declarations = .ok model) {collection element innermost : ResultType}
    {facts : Collection} (member : collection ∈ model.resultTypes) (collects : collection.collection = some facts)
    (leads : model.resolve? facts.element = some (.result element)) (ends : model.ChainEnds collection innermost) :
    ((declaredRegistry declarations).declaredViews settings collection.identifier = [] →
        collection.views = element.views) ∧
      ((declaredRegistry declarations).declaredViews settings collection.identifier ≠ [] →
        List.Forall₂ (View.IsDerived element)
          (((declaredRegistry declarations).declaredViews settings collection.identifier).map View.canonical)
          collection.views) := by
  obtain ⟨registry, declares, succeeds, rfl⟩ := evaluate_eq_ok_iff.mp evaluated
  have declared := declares.isDeclared
  obtain ⟨position, here⟩ := Array.mem_iff_getElem?.mp member
  obtain ⟨place, isElement, there⟩ := Model.exists_elementPosition? collects leads
  have grounded := ends.isGrounded here
  simp only [Model.ofRegistry, List.getElem?_toArray] at here there
  obtain ⟨before, inGeneration, linkedHere, same⟩ := declared.exists_staged here
  obtain ⟨views, sources⟩ := succeeds.views_eq declared linkedHere here there isElement grounded
  have identifier := (Registry.names_of_withoutViews same).1
  have isCollection : before.isCollection = true := by
    rw [← Registry.isCollection_staged settings registry before, ← Derivation.isCollection_of_withoutViews same]
    simp [ResultType.isCollection, collects]
  rw [declares.eq_declaredRegistry, identifier, declared.declaredViews_eq inGeneration]
  have inherits : (registry.staged settings before).inheritsViews = true ↔ before.views = [] := by
    simp [Registry.inheritsViews_staged_iff, isCollection]
  unfold ResultType.viewsFrom at views
  constructor
  · intro noViews
    rw [views, if_pos (inherits.mpr noViews)]
  · intro someViews
    have ownViews := mt inherits.mp someViews
    rw [views, if_neg ownViews, ← Registry.views_staged settings registry, List.forall₂_map_right_iff,
      List.forall₂_same]
    exact fun view inViews => View.isDerived_completed (sources.resolve_left ownViews view inViews)

/-- Bottles with two views, and a collection of them with a view that selects nothing and one of its own. -/
def shelvedBottles : List Declaration :=
  [.resultType "vnd.bottle"
    [.child "id" [], .child "year" [.type (.primitive .int32)],
      .block (.view "default") [.setting (.description "all"), .child "id" [], .child "year" []],
      .block (.view "tiny") [.child "id" []]],
    .collectionOf "Bottle" [.block (.view "default") [], .block (.view "tiny") [.child "year" []]]]

/-- The view that selects nothing is filled from the bottle's default view, the other one stays. -/
theorem views_shelvedBottles :
    ∃ model, evaluate {} shelvedBottles = .ok model ∧
      ∃ collection ∈ model.resultTypes, ∃ element,
        (declaredRegistry shelvedBottles).declaredViews {} collection.identifier =
            [⟨"default", none, []⟩, ⟨"tiny", none, ["year"]⟩] ∧
          List.Forall₂ (View.IsDerived element) [⟨"default", none, []⟩, ⟨"tiny", none, ["year"]⟩]
            collection.views := by
  refine exists_model (Model.anyShallowCollection fun collection _ =>
    (declaredRegistry shelvedBottles).declaredViews {} collection.identifier ==
      [⟨"default", none, []⟩, ⟨"tiny", none, ["year"]⟩]) (by decide +kernel) fun model evaluated passes => ?_
  obtain ⟨collection, member, facts, element, collects, leads, ends, isDeclared⟩ :=
    Model.exists_of_anyShallowCollection passes
  have declaredViews := beq_iff_eq.mp isDeclared
  have derived := (views_of_chainEnds evaluated member collects leads ends).2 (by rw [declaredViews]; simp)
  rw [declaredViews] at derived
  exact ⟨collection, member, element, declaredViews, derived⟩

/-- A collection of bottles with a view that selects something and has no name. -/
def namelessView : List Declaration :=
  [.resultType "vnd.bottle" [.child "id" [], .block (.view "default") [.child "id" []]],
    .collectionOf "Bottle" [.block (.view "") [.child "id" []]]]

/-- A view that was declared without a name does not stay as it was, though it selects something: it is the default
view. -/
theorem exists_renamed_view :
    ∃ model, evaluate {} namelessView = .ok model ∧
      ∃ collection ∈ model.resultTypes, ∃ innermost, model.ChainEnds collection innermost ∧
        ∃ view ∈ (declaredRegistry namelessView).declaredViews {} collection.identifier,
          view.attributes ≠ [] ∧ view ∉ collection.views := by
  refine exists_model (Model.anyShallowCollection fun collection _ =>
    ((declaredRegistry namelessView).declaredViews {} collection.identifier).any fun view =>
      view.attributes != [] && !collection.views.contains view) (by decide +kernel) fun model evaluated passes => ?_
  obtain ⟨collection, member, facts, element, _, _, ends, renamed⟩ := Model.exists_of_anyShallowCollection passes
  obtain ⟨view, isDeclared, both⟩ := List.any_eq_true.mp renamed
  simp only [Bool.and_eq_true, bne_iff_ne, Bool.not_eq_true'] at both
  exact ⟨collection, member, element, ends, view, isDeclared, both.1, by simpa using both.2⟩

end ApiDesign
