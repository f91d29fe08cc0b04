import ApiDesign.Proofs.Evaluation.Completion
import ApiDesign.Proofs.Evaluation.Settled
import ApiDesign.Proofs.Evaluation.Shortcuts
import ApiDesign.Proofs.Evaluation.ViewFlow
import ApiDesign.Proofs.Model.DefaultViews
import Mathlib.Data.List.Perm.Basic

/-!
Contract: every result type of a registry is still there at the end of its evaluation, exactly once.

Naming leaves each result type at its place and changes declared collections only. Generation adds result types behind
them. From then on each of them is staged on its own and sorted with the others, and derivation changes views only.
So the result types of a derived registry are those of the declared one and the added ones, each related to what it
became.

Owns: `Corresponds`, what each stage makes of one result type.
Does not own: what a declared collection is called in the end (`Proofs.Model.CollectionNames`).
-/

namespace ApiDesign

/-! ## Items in another order -/

/-- Each item of the first list is related to one of the second list, which has no other items. -/
def Corresponds {α β : Type} (relation : α → β → Prop) (items : List α) (others : List β) : Prop :=
  ∃ related, List.Forall₂ relation items related ∧ related.Perm others

section Correspondence

variable {α β γ : Type} {relation : α → β → Prop} {items : List α} {others : List β}

theorem forall₂_imp_mem {stronger : α → β → Prop} (related : List.Forall₂ relation items others)
    (enough : ∀ item ∈ items, ∀ other ∈ others, relation item other → stronger item other) :
    List.Forall₂ stronger items others := by
  rw [List.forall₂_iff_zip] at related ⊢
  refine ⟨related.1, fun paired => ?_⟩
  obtain ⟨inItems, inOthers⟩ := List.of_mem_zip paired
  exact enough _ inItems _ inOthers (related.2 paired)

theorem exists_item_of_forall₂ : ∀ {items : List α} {others : List β}, List.Forall₂ relation items others →
    ∀ other ∈ others, ∃ item ∈ items, relation item other
  | _, _, .nil, _, member => absurd member List.not_mem_nil
  | _, _, .cons first rest, other, member => by
      rcases List.mem_cons.mp member with rfl | inRest
      · exact ⟨_, List.mem_cons_self, first⟩
      · obtain ⟨item, inItems, related⟩ := exists_item_of_forall₂ rest other inRest
        exact ⟨item, List.mem_cons_of_mem _ inItems, related⟩

theorem Corresponds.exists_item (corresponds : Corresponds relation items others) {other : β}
    (member : other ∈ others) : ∃ item ∈ items, relation item other := by
  obtain ⟨related, pairs, permutation⟩ := corresponds
  exact exists_item_of_forall₂ pairs other (permutation.mem_iff.mpr member)

theorem Corresponds.imp_mem {stronger : α → β → Prop} (corresponds : Corresponds relation items others)
    (enough : ∀ item ∈ items, ∀ other ∈ others, relation item other → stronger item other) :
    Corresponds stronger items others := by
  obtain ⟨related, pairs, permutation⟩ := corresponds
  exact ⟨related, forall₂_imp_mem pairs fun item inItems other inRelated =>
    enough item inItems other (permutation.mem_iff.mp inRelated), permutation⟩

/-- Items may be left out on both sides if related ones are. -/
theorem Corresponds.filter (corresponds : Corresponds relation items others) (keep : α → Bool) (keepOther : β → Bool)
    (agree : ∀ item other, relation item other → keep item = keepOther other) :
    Corresponds relation (items.filter keep) (others.filter keepOther) := by
  obtain ⟨related, pairs, permutation⟩ := corresponds
  refine ⟨related.filter keepOther, List.rel_filter ?_ pairs, permutation.filter _⟩
  exact fun item other isRelated => Bool.eq_iff_iff.mp (agree item other isRelated)

theorem forall₂_comp {next : β → γ → Prop} : ∀ {items : List α} {others : List β} {finals : List γ},
    List.Forall₂ relation items others → List.Forall₂ next others finals →
      List.Forall₂ (Relation.Comp relation next) items finals
  | _, _, _, .nil, .nil => .nil
  | _, _, _, .cons first rest, .cons second restNext => .cons ⟨_, first, second⟩ (forall₂_comp rest restNext)

theorem Corresponds.comp {next : β → γ → Prop} {finals : List γ} (pairs : List.Forall₂ relation items others)
    (corresponds : Corresponds next others finals) : Corresponds (Relation.Comp relation next) items finals := by
  obtain ⟨related, nextPairs, permutation⟩ := corresponds
  exact ⟨related, forall₂_comp pairs nextPairs, permutation⟩

/-- Items that are changed, brought into another order and related then correspond. -/
theorem Corresponds.of_map_perm {change : γ → α} {sources : List γ} (permutation : items.Perm (sources.map change))
    (pairs : List.Forall₂ relation items others) :
    Corresponds (fun source other => relation (change source) other) sources others := by
  obtain ⟨related, changedPairs, toOthers⟩ := List.perm_comp_forall₂ permutation.symm pairs
  exact ⟨related, List.forall₂_map_left_iff.mp changedPairs, toOthers⟩

theorem forall₂_of_getElem? (sameLength : items.length = others.length)
    (related : ∀ (position : Nat) (item : α) (other : β), items[position]? = some item →
      others[position]? = some other → relation item other) : List.Forall₂ relation items others := by
  rw [List.forall₂_iff_get]
  refine ⟨sameLength, fun position below otherBelow => ?_⟩
  exact related position _ _ (List.getElem?_eq_getElem below) (List.getElem?_eq_getElem otherBelow)

end Correspondence

/-! ## Sorts of result types -/

theorem ResultType.isCollection_eq (resultType : ResultType) :
    resultType.isCollection = (resultType.collection.map (·.generated)).isSome := by
  rw [Option.isSome_map]
  rfl

theorem ResultType.isDeclaredCollection_eq (resultType : ResultType) :
    resultType.isDeclaredCollection = (resultType.collection.map (·.generated)).any (! ·) := by
  rw [Option.any_map]
  rfl

/-- Every declared collection was asked for. -/
theorem ResultType.IsDeclared.isDeclaredCollection_eq {resultType : ResultType} (declared : resultType.IsDeclared) :
    resultType.isDeclaredCollection = resultType.isCollection := by
  rcases declared with ⟨_, _, _, none⟩ | ⟨_, _, _, some⟩
  · simp [ResultType.isDeclaredCollection, ResultType.isCollection, none]
  · simp [ResultType.isDeclaredCollection, ResultType.isCollection, some]

/-! ## Derived views -/

/-- A view of a collection and what may become of it: it is completed if it selects something, otherwise it may be
filled from the view of the same name that the element has. -/
structure View.FillsTo (declared final : View) : Prop where
  name : final.name = declared.canonical.name
  own : declared.attributes ≠ [] → declared.CompletesTo final

/-- A result type and what derivation may make of it: the same, or a collection with views from those of an element. -/
def ResultType.DerivesTo (staged final : ResultType) : Prop :=
  final = staged ∨ staged.isCollection = true ∧
    ∃ elementViews, final = { staged with views := staged.viewsFrom elementViews }

theorem View.fillsTo_canonical (view : View) : view.FillsTo view.canonical :=
  ⟨rfl, fun _ => view.completesTo_canonical⟩

theorem View.fillsTo_completed (elementViews : List View) (view : View) :
    view.FillsTo (view.canonical.completed elementViews) where
  name := Derivation.View.name_completed elementViews view.canonical
  own selects := by
    have stillSelects : view.canonical.attributes.isEmpty = false := by
      rw [← List.isEmpty_eq_false_iff] at selects
      unfold View.canonical
      split <;> exact selects
    rw [View.completed, stillSelects, if_neg Bool.false_ne_true]
    exact view.completesTo_canonical

namespace Registry

variable {settings : Settings} {registry : Registry}

/-! ## Naming -/

/-- Naming leaves a result type that is no collection as it is. -/
theorem Succeeds.named_eq_of_not_isCollection (succeeds : registry.Succeeds settings)
    (declared : registry.IsDeclared) {position : Nat} {before named : ResultType}
    (declaredHere : registry.resultTypes[position]? = some before)
    (here : (registry.named settings).resultTypes[position]? = some named)
    (notCollection : before.isCollection = false) : named = before := by
  have noFacts : before.collection = none := by simpa [ResultType.isCollection] using notCollection
  have atStart : (Naming.start settings.collectionSuffix registry.resultTypes).resultTypes[position]? =
      some before := by
    simp [Naming.start, declaredHere, ResultType.nameProvisionally, noFacts]
  have faithful := (Naming.reaches_run settings.collectionSuffix registry.resultTypes).faithful
    (Naming.faithful_start _ _) succeeds.noDuplicate
  have stays := faithful.plain atStart (by simp [ResultType.isDeclaredCollection, noFacts])
  rw [← declared.resultTypes_named, here] at stays
  exact Option.some.inj stays

/-- Naming leaves a declared collection under provisional names or names it after a result type that has the name which
was given for its element. -/
theorem Succeeds.named_of_isDeclaredCollection (succeeds : registry.Succeeds settings)
    (declared : registry.IsDeclared) {position : Nat} {before named : ResultType}
    (declaredHere : registry.resultTypes[position]? = some before)
    (here : (registry.named settings).resultTypes[position]? = some named) {given : Collection}
    (collects : before.collection = some given) (asked : given.generated = false) :
    named = before.nameProvisionally settings.collectionSuffix ∨
      ∃ element ∈ (registry.named settings).resultTypes, element.isNamed given.element.name = true ∧
        named = (before.nameProvisionally settings.collectionSuffix).nameAfter element settings.collectionSuffix := by
  have atStart : (Naming.start settings.collectionSuffix registry.resultTypes).resultTypes[position]? =
      some (before.nameProvisionally settings.collectionSuffix) := by
    simp [Naming.start, declaredHere]
  have startCollects : (before.nameProvisionally settings.collectionSuffix).collection = some given := by
    rw [Naming.collection_nameProvisionally, collects]
  have isDeclared : (before.nameProvisionally settings.collectionSuffix).isDeclaredCollection = true :=
    ResultType.isDeclaredCollection_iff.mpr ⟨given, startCollects, asked⟩
  have faithful := (Naming.reaches_run settings.collectionSuffix registry.resultTypes).faithful
    (Naming.faithful_start _ _) succeeds.noDuplicate
  rw [declared.resultTypes_named] at here ⊢
  by_cases pending : position ∈ (Naming.run settings.collectionSuffix registry.resultTypes).pending
  · have waits := faithful.waiting pending atStart
    rw [here] at waits
    exact .inl (Option.some.inj waits)
  · obtain ⟨facts, place, element, sameFacts, _, there, answers, settled⟩ :=
      faithful.named pending atStart isDeclared
    rw [startCollects] at sameFacts
    cases sameFacts
    rw [here] at settled
    exact .inr ⟨element, List.mem_of_getElem? there, answers.isNamed, Option.some.inj settled⟩

/-! ## Staging -/

/-- Where nothing is unresolved, staging completes the shape and the names of views, and tells a collection where its
element is. -/
theorem Succeeds.staged_eq (succeeds : registry.Succeeds settings) (declared : registry.IsDeclared)
    {resultType : ResultType} (member : resultType ∈ (registry.generation settings).registry.resultTypes) :
    registry.staged settings resultType =
      { resultType with
        shape := resultType.shape.transform (registry.completing settings)
        views := resultType.views.map View.canonical
        collection := resultType.collection.map fun facts =>
          { facts with
            inheritViews := resultType.views.isEmpty
            element := { facts.element with
              target := facts.elementTarget? (registry.prepared settings).typeIndex } } } := by
  have inPrepared := declared.mem_resultTypes_prepared.mpr ⟨resultType, member, rfl⟩
  have linked := ResultType.link_eq (exists_elementTarget_of_unresolved succeeds.noUnresolved _ inPrepared)
  unfold staged
  unfold filled at linked
  rw [linked, ← transform_completing]
  simp only [ResultType.canonicalViews, ResultType.mapShape, Option.map_map]
  rfl

/-- What staging and derivation may make of a result type. -/
def FinishesAs (settings : Settings) (registry : Registry) (resultType final : ResultType) : Prop :=
  (registry.staged settings resultType).DerivesTo final

/-- What a result type finishes as is its staged form with views that fill its own, if it has any. -/
theorem FinishesAs.exists_views {resultType final : ResultType}
    (finishes : registry.FinishesAs settings resultType final) :
    ∃ views, final = { registry.staged settings resultType with views := views } ∧
      (resultType.views ≠ [] → List.Forall₂ View.FillsTo resultType.views views) := by
  rcases finishes with rfl | ⟨_, elementViews, rfl⟩
  · refine ⟨(registry.staged settings resultType).views, rfl, fun _ => ?_⟩
    rw [views_staged]
    exact forall₂_map_of_forall View.fillsTo_canonical resultType.views
  · refine ⟨(registry.staged settings resultType).viewsFrom elementViews, rfl, fun hasViews => ?_⟩
    have ownViews : (registry.staged settings resultType).inheritsViews = false :=
      Bool.eq_false_iff.mpr fun inherits => hasViews ((inheritsViews_staged_iff settings registry).mp inherits).2
    rw [ResultType.viewsFrom, ownViews, views_staged, if_neg Bool.false_ne_true, List.map_map]
    exact forall₂_map_of_forall (View.fillsTo_completed elementViews) resultType.views

theorem FinishesAs.sameSort {resultType final : ResultType} (finishes : registry.FinishesAs settings resultType final) :
    final.collection.map (·.generated) = resultType.collection.map (·.generated) := by
  obtain ⟨views, rfl, _⟩ := finishes.exists_views
  exact (staged_spec settings registry resultType).2.2

/-- The result types of a derived registry are those of generation, each finished. -/
theorem Succeeds.corresponds_derived (succeeds : registry.Succeeds settings) (declared : registry.IsDeclared) :
    Corresponds (registry.FinishesAs settings) (registry.generation settings).registry.resultTypes
      (registry.derived settings).resultTypes := by
  have linkedFromStaged : (registry.linked settings).resultTypes.Perm
      ((registry.generation settings).registry.resultTypes.map (registry.staged settings)) := by
    unfold linked
    rw [resultTypes_link, declared.resultTypes_prepared]
    refine ((sortByName_perm _ _).map _).trans (List.Perm.of_eq ?_)
    rw [List.map_map]
    rfl
  have derives : List.Forall₂ ResultType.DerivesTo (registry.linked settings).resultTypes
      (registry.derived settings).resultTypes := by
    rw [resultTypes_derived]
    refine forall₂_of_getElem? ?_ fun position staged final linkedHere here => ?_
    · simpa using (congrArg List.length (Derivation.map_withoutViews_run (registry.linked settings).resultTypes)).symm
    · exact Derivation.run_cases (declared.elementsInPlace succeeds.noUnresolved) linkedHere here
  show Corresponds (fun resultType final => (registry.staged settings resultType).DerivesTo final) _ _
  exact Corresponds.of_map_perm linkedFromStaged derives

/-! ## From declaration to the end -/

/-- A declared result type and what naming makes of it, at its place. -/
def NamesAs (settings : Settings) (registry : Registry) (before named : ResultType) : Prop :=
  ∃ position : Nat, registry.resultTypes[position]? = some before ∧
    (registry.named settings).resultTypes[position]? = some named

theorem IsDeclared.namesAs_sameSort (declared : registry.IsDeclared) {before named : ResultType}
    (names : registry.NamesAs settings before named) :
    named.collection.map (·.generated) = before.collection.map (·.generated) := by
  obtain ⟨position, declaredHere, here⟩ := names
  rw [declared.resultTypes_named] at here
  exact (Naming.related_run declaredHere here).2

theorem IsDeclared.forall₂_namesAs (settings : Settings) (declared : registry.IsDeclared) :
    List.Forall₂ (registry.NamesAs settings) registry.resultTypes (registry.named settings).resultTypes :=
  forall₂_of_getElem? (declared.length_named settings).symm fun position _ _ declaredHere here =>
    ⟨position, declaredHere, here⟩

/-- A declared collection and what naming made of it, given what makes it a collection before and afterwards. -/
structure NamesCollection (settings : Settings) (registry : Registry) (before named : ResultType)
    (given facts : Collection) : Prop where
  collects : before.collection = some given
  stillCollects : named.collection = some facts
  asked : given.generated = false
  stillAsked : facts.generated = false
  identifier : named.identifier = ResultType.collectionIdentifier facts.element.name
  shape : named.shape = before.shape ∨ named.shape = ResultType.renameElement facts.element.name before.shape
  views : named.views = before.views
  element : facts.element.name = given.element.name ∨ ∃ element ∈ (registry.named settings).resultTypes,
    element.isNamed given.element.name = true ∧ facts.element.name = element.identifier

/-- Naming keeps what makes a declared collection a collection, its shape and its views, but for the name of the
element. -/
theorem Succeeds.namesCollection (succeeds : registry.Succeeds settings) (declared : registry.IsDeclared)
    {before named : ResultType} (names : registry.NamesAs settings before named)
    (isCollection : before.isCollection = true) :
    ∃ given facts, registry.NamesCollection settings before named given facts := by
  obtain ⟨position, declaredHere, here⟩ := names
  cases declared.resultTypes before (List.mem_of_getElem? declaredHere) with
  | plain _ _ _ notCollection => simp [ResultType.isCollection, notCollection] at isCollection
  | collection name identifier _ collects =>
      have provisional : before.nameProvisionally settings.collectionSuffix =
          { before with typeName := TypeName.derive name ++ settings.collectionSuffix } := by
        simp [ResultType.nameProvisionally, collects]
      rcases succeeds.named_of_isDeclaredCollection declared declaredHere here collects rfl with
        rfl | ⟨element, member, isNamed, rfl⟩
      · rw [provisional]
        exact ⟨_, _, collects, collects, rfl, rfl, identifier, .inl rfl, rfl, .inl rfl⟩
      · rw [provisional]
        refine ⟨_, { element := ⟨element.identifier, none⟩ }, collects, ?_, rfl, rfl, rfl, .inr rfl, rfl,
          .inr ⟨element, member, isNamed, rfl⟩⟩
        simp only [ResultType.nameAfter, collects, Option.map_some]
        rfl

/-- Of each sort of result types but the generated collections, the derived registry has what was declared, named and
finished, and nothing else. -/
theorem Succeeds.corresponds (succeeds : registry.Succeeds settings) (declared : registry.IsDeclared)
    (keep : ResultType → Bool)
    (bySort : ∀ left right : ResultType, left.collection.map (·.generated) = right.collection.map (·.generated) →
      keep left = keep right)
    (dropsGenerated : ∀ resultType : ResultType, resultType.collection.map (·.generated) = some true →
      keep resultType = false) :
    Corresponds (Relation.Comp (registry.NamesAs settings) (registry.FinishesAs settings))
      (registry.resultTypes.filter keep) ((registry.derived settings).resultTypes.filter keep) := by
  have finished := (succeeds.corresponds_derived declared).filter keep keep
    fun _ _ finishes => bySort _ _ finishes.sameSort.symm
  have noneAdded : (registry.generation settings).registry.resultTypes.filter keep =
      (registry.named settings).resultTypes.filter keep := by
    obtain ⟨added, same, allGenerated⟩ := declared.adds_generation settings
    have nothing : added.filter keep = [] := by
      rw [List.filter_eq_nil_iff]
      intro collection member
      obtain ⟨element, _, rfl⟩ := allGenerated collection member
      exact Bool.eq_false_iff.mp (dropsGenerated _ rfl)
    rw [same, List.filter_append, nothing, List.append_nil]
  rw [noneAdded] at finished
  refine Corresponds.comp (List.rel_filter ?_ (declared.forall₂_namesAs settings)) finished
  intro before named names
  exact Bool.eq_iff_iff.mp (bySort _ _ (declared.namesAs_sameSort names).symm)

end Registry

end ApiDesign
