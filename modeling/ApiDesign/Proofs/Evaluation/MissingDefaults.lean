import ApiDesign.Proofs.Evaluation.Links
import ApiDesign.Proofs.Evaluation.Phases
import ApiDesign.Proofs.Evaluation.Unresolved
import ApiDesign.Proofs.Evaluation.ViewFlow
import ApiDesign.Proofs.Registry.Resolution
import Mathlib.Logic.Relation

/-!
Contract: a missing default view is reported where it is missed first.

A collection that inherits misses a default view if its element has none. Derivation records whoever misses one, and
reports it unless its element is recorded already. An element is derived before all its collections, so by then the
record is complete as far as the element is concerned; a collection with views of its own is never recorded, so
whoever inherits from it may be the first again. What is reported is therefore told by the derived result types alone,
whatever their order.

Owns: `IsFirstToMiss`, the reports of missing default views that a run makes.
Does not own: which result types have a default view in a model (`Proofs.Model.DefaultViews`).
-/

namespace ApiDesign

/-! ## Missing default views -/

/-- Whether a collection inherits its views and has no default view. -/
def ResultType.missesDefaultView (resultType : ResultType) : Bool :=
  resultType.inheritsViews && !resultType.hasDefaultView

/-- The report that a result type has no default view. -/
def ResultType.missingDefaultView (resultType : ResultType) : Diagnostic :=
  .located [Kind.resultType.frame resultType.identifier] (.missingDefaultView resultType.identifier)

/-- The reports of missing default views among others. -/
def missingDefaultViews (found : List Diagnostic) : List Diagnostic :=
  found.filter fun diagnostic => diagnostic.cause.kind == .missingDefaultView

/-- Whether the result type at a place misses a default view. -/
def missesAt (resultTypes : List ResultType) (position : Nat) : Bool :=
  resultTypes[position]?.any (·.missesDefaultView)

/-- The collection at a place misses a default view, and its element does not. -/
def IsFirstToMiss (resultTypes : List ResultType) (position : Nat) : Prop :=
  ∃ collection element, resultTypes[position]? = some collection ∧ collection.missesDefaultView = true ∧
    collection.elementPosition? = some element ∧ missesAt resultTypes element = false

/-- Missing default views are reported at the collections that are first to miss one on a chain of elements that ends,
at each of them once. -/
def ReportsFirstMissing (resultTypes : List ResultType) (found : List Diagnostic) : Prop :=
  ∃ places : List Nat, places.Nodup ∧
    (∀ position, position ∈ places ↔ IsGrounded resultTypes position ∧ IsFirstToMiss resultTypes position) ∧
    missingDefaultViews found =
      places.filterMap fun position => resultTypes[position]?.map ResultType.missingDefaultView

theorem missingDefaultViews_append (found others : List Diagnostic) :
    missingDefaultViews (found ++ others) = missingDefaultViews found ++ missingDefaultViews others :=
  List.filter_append _ _

theorem missesAt_congr {left right : List ResultType} {position : Nat} (same : left[position]? = right[position]?) :
    missesAt left position = missesAt right position := by
  rw [missesAt, missesAt, same]

theorem missesAt_eq {resultTypes : List ResultType} {position : Nat} {resultType : ResultType}
    (here : resultTypes[position]? = some resultType) :
    missesAt resultTypes position = resultType.missesDefaultView := by
  rw [missesAt, here, Option.any_some]

theorem IsFirstToMiss.missesAt {resultTypes : List ResultType} {position : Nat}
    (first : IsFirstToMiss resultTypes position) : missesAt resultTypes position = true := by
  obtain ⟨collection, element, here, misses, _⟩ := first
  rw [missesAt_eq here, misses]

/-- Whether the collection at a place is the first to miss depends on it and on whether its element misses. -/
theorem isFirstToMiss_iff {resultTypes : List ResultType} {position element : Nat} {collection : ResultType}
    (here : resultTypes[position]? = some collection) (leads : collection.elementPosition? = some element) :
    IsFirstToMiss resultTypes position ↔
      collection.missesDefaultView = true ∧ missesAt resultTypes element = false := by
  constructor
  · rintro ⟨other, otherElement, there, misses, otherLeads, elementHas⟩
    rw [here] at there
    cases there
    rw [leads] at otherLeads
    cases otherLeads
    exact ⟨misses, elementHas⟩
  · rintro ⟨misses, elementHas⟩
    exact ⟨collection, element, here, misses, leads, elementHas⟩

/-- Whether a place is the first to miss does not depend on places other than itself and its element. -/
theorem isFirstToMiss_congr {left right : List ResultType} {position : Nat} (here : left[position]? = right[position]?)
    (there : ∀ collection element, right[position]? = some collection → collection.elementPosition? = some element →
      left[element]? = right[element]?) : IsFirstToMiss left position ↔ IsFirstToMiss right position := by
  unfold IsFirstToMiss
  rw [here]
  refine exists_congr fun collection => exists_congr fun element => and_congr_right fun isCollection =>
    and_congr_right fun _ => and_congr_right fun leads => ?_
  rw [missesAt_congr (there collection element isCollection leads)]

/-- A collection that has its views from an element. -/
def ResultType.derivedFrom (elementViews : List View) (collection : ResultType) : ResultType :=
  { collection with views := collection.viewsFrom elementViews }

/-- A collection that inherits misses a default view if its element has none; another one never does. -/
theorem ResultType.missesDefaultView_derivedFrom (elementViews : List View) (collection : ResultType) :
    (collection.derivedFrom elementViews).missesDefaultView =
      (collection.inheritsViews && !{ collection with views := elementViews : ResultType }.hasDefaultView) := by
  have sameSort : (collection.derivedFrom elementViews).inheritsViews = collection.inheritsViews := rfl
  rw [missesDefaultView, sameSort]
  cases inherits : collection.inheritsViews with
  | true => rw [derivedFrom, viewsFrom, if_pos inherits]
  | false => rfl

namespace Derivation

variable {derivation : Derivation} {position element : Nat} {collection source : ResultType}

/-! ## One step -/

/-- A step records the collection if it misses a default view now. -/
theorem failed_derive (here : derivation.resultTypes[position]? = some collection)
    (there : derivation.resultTypes[element]? = some source) :
    (derivation.derive (position, element)).failed =
      if (collection.derivedFrom source.views).missesDefaultView then position :: derivation.failed
      else derivation.failed := by
  rw [ResultType.missesDefaultView_derivedFrom]
  unfold derive
  simp only [here, there]
  cases collection.inheritsViews with
  | true =>
      simp only [if_true, inherit]
      cases { collection with views := source.views : ResultType }.hasDefaultView <;> rfl
  | false => rfl

/-- A step reports the collection if it misses a default view now and its element is not recorded. -/
theorem missingDefaultViews_derive (here : derivation.resultTypes[position]? = some collection)
    (there : derivation.resultTypes[element]? = some source) :
    missingDefaultViews (derivation.derive (position, element)).diagnostics =
      missingDefaultViews derivation.diagnostics ++
        if (collection.derivedFrom source.views).missesDefaultView && !derivation.failed.contains element then
          [collection.missingDefaultView]
        else [] := by
  rw [ResultType.missesDefaultView_derivedFrom]
  unfold derive
  simp only [here, there]
  cases collection.inheritsViews with
  | true =>
      simp only [if_true, inherit]
      cases { collection with views := source.views : ResultType }.hasDefaultView with
      | true => simp
      | false =>
          rw [if_neg Bool.false_ne_true, missingDefaultViews_append]
          cases derivation.failed.contains element <;> rfl
  | false =>
      have others : missingDefaultViews ((collection.views.filter (View.lacksSource source.views)).map fun view =>
          .located [Kind.resultType.frame collection.identifier, Kind.view.frame view.name]
            (.unresolvedReference view.name)) = [] := by
        rw [missingDefaultViews, List.filter_map, List.map_eq_nil_iff]
        exact List.filter_eq_nil_iff.mpr fun _ _ => Bool.false_ne_true
      rw [if_neg Bool.false_ne_true, complete, missingDefaultViews_append, others]
      rfl

/-- A step derives its collection and nobody else. -/
theorem notMem_waiting_derive_iff {other : Nat} :
    other ∉ (derivation.derive (position, element)).waiting ↔ other = position ∨ other ∉ derivation.waiting := by
  rw [mem_waiting_derive, not_and_or, not_not, or_comm]

theorem getElem?_derive_self (here : derivation.resultTypes[position]? = some collection)
    (there : derivation.resultTypes[element]? = some source) :
    (derivation.derive (position, element)).resultTypes[position]? = some (collection.derivedFrom source.views) := by
  rw [resultTypes_derive here there, List.getElem?_set_self (List.getElem?_eq_some_iff.mp here).1]
  rfl

theorem getElem?_derive_ne (here : derivation.resultTypes[position]? = some collection)
    (there : derivation.resultTypes[element]? = some source) {other : Nat} (different : other ≠ position) :
    (derivation.derive (position, element)).resultTypes[other]? = derivation.resultTypes[other]? := by
  rw [resultTypes_derive here there, List.getElem?_set_ne (Ne.symm different)]

/-! ## The record -/

variable {given : List ResultType}

/-- Recorded is whoever is derived and misses a default view. -/
def RecordsMissing (derivation : Derivation) : Prop :=
  ∀ position, position ∈ derivation.failed ↔
    position ∉ derivation.waiting ∧ missesAt derivation.resultTypes position = true

/-- At the beginning nobody is derived who could miss a default view: whoever inherits is a collection. -/
theorem missesAt_start (inPlace : ElementsInPlace given) (derived : position ∉ (start given).waiting) :
    missesAt (start given).resultTypes position = false := by
  show missesAt given position = false
  rw [← Bool.not_eq_true]
  intro misses
  obtain ⟨resultType, here, missing⟩ := (Option.any_eq_true _ _).mp misses
  have inherits := (Bool.and_eq_true_iff.mp missing).1
  exact derived (mem_waiting_start inPlace here (isCollection_of_inheritsViews inherits))

theorem recordsMissing_start (inPlace : ElementsInPlace given) : RecordsMissing (start given) := by
  refine fun position => ⟨nofun, fun ⟨derived, misses⟩ => ?_⟩
  rw [missesAt_start inPlace derived] at misses
  cases misses

theorem RecordsMissing.derive (records : RecordsMissing derivation) (waits : position ∈ derivation.waiting)
    (here : derivation.resultTypes[position]? = some collection)
    (there : derivation.resultTypes[element]? = some source) :
    RecordsMissing (derivation.derive (position, element)) := by
  intro other
  rw [failed_derive here there, notMem_waiting_derive_iff]
  by_cases isPosition : other = position
  · subst isPosition
    have notBefore : other ∉ derivation.failed := fun failed => ((records other).mp failed).1 waits
    rw [missesAt_eq (getElem?_derive_self here there)]
    cases (collection.derivedFrom source.views).missesDefaultView <;> simp [notBefore]
  · rw [missesAt_congr (getElem?_derive_ne here there isPosition), or_iff_right isPosition, ← records other]
    cases (collection.derivedFrom source.views).missesDefaultView <;> simp [isPosition]

theorem Reaches.recordsMissing {reached : Derivation} (reaches : Reaches (start given) reached)
    (inPlace : ElementsInPlace given) : RecordsMissing reached := by
  induction reaches with
  | refl => exact recordsMissing_start inPlace
  | @step before entry reachesBefore pending _ inductionHypothesis =>
      have faithful := reachesBefore.faithful (faithful_start inPlace) inPlace
      obtain ⟨collection, source, _, _, here, there⟩ := faithful.exists_of_pending inPlace pending
      exact inductionHypothesis.derive (List.mem_map_of_mem (f := Prod.fst) pending) here there

/-! ## The account of a run -/

/-- An account of the places that derivation has reported: of those that are derived, the ones that are first to miss a
default view, each once. -/
structure Accounts (derivation : Derivation) (places : List Nat) : Prop where
  distinct : places.Nodup
  reported : ∀ position, position ∈ places ↔
    position ∉ derivation.waiting ∧ IsFirstToMiss derivation.resultTypes position
  diagnostics : missingDefaultViews derivation.diagnostics =
    places.filterMap fun position => derivation.resultTypes[position]?.map ResultType.missingDefaultView

theorem accounts_start (inPlace : ElementsInPlace given) : Accounts (start given) [] := by
  refine ⟨List.nodup_nil, fun position => ⟨nofun, fun ⟨derived, first⟩ => ?_⟩, rfl⟩
  have misses := first.missesAt
  rw [missesAt_start inPlace derived] at misses
  cases misses

/-- The element of a derived collection is derived. -/
theorem Flows.element_notMem_waiting (flows : Flows given derivation) (faithful : Faithful given derivation)
    (here : derivation.resultTypes[position]? = some collection) (leads : collection.elementPosition? = some element)
    (derived : position ∉ derivation.waiting) : element ∉ derivation.waiting := by
  obtain ⟨before, givenHere, same⟩ := exists_of_withoutViews faithful.same here
  exact (flows.derived givenHere ((elementPosition?_of_withoutViews same).symm.trans leads) derived).1

/-- A step reports its collection exactly if it is now the first to miss: the element is derived, so whether it misses a
default view is on record. -/
theorem isFirstToMiss_derive_iff (records : RecordsMissing derivation) (waits : position ∈ derivation.waiting)
    (settled : element ∉ derivation.waiting) (leads : collection.elementPosition? = some element)
    (here : derivation.resultTypes[position]? = some collection)
    (there : derivation.resultTypes[element]? = some source) :
    IsFirstToMiss (derivation.derive (position, element)).resultTypes position ↔
      ((collection.derivedFrom source.views).missesDefaultView && !derivation.failed.contains element) = true := by
  have different : element ≠ position := fun same => settled (same ▸ waits)
  have onRecord : missesAt (derivation.derive (position, element)).resultTypes element =
      derivation.failed.contains element := by
    rw [missesAt_congr (getElem?_derive_ne here there different), Bool.eq_iff_iff, List.contains_iff_mem, records]
    exact (and_iff_right settled).symm
  rw [isFirstToMiss_iff (getElem?_derive_self here there) leads, onRecord, Bool.and_eq_true, Bool.not_eq_true']

/-- A step keeps account. What was derived before stays as it is, and so do the elements of that. -/
theorem Accounts.derive {places : List Nat} (accounts : Accounts derivation places)
    (records : RecordsMissing derivation) (faithful : Faithful given derivation) (flows : Flows given derivation)
    (inPlace : ElementsInPlace given) (pending : (position, element) ∈ derivation.pending)
    (settled : element ∉ derivation.waiting) : ∃ more, Accounts (derivation.derive (position, element)) more := by
  obtain ⟨collection, source, _, leads, here, there⟩ := faithful.exists_of_pending inPlace pending
  have waits : position ∈ derivation.waiting := List.mem_map_of_mem (f := Prod.fst) pending
  have notReported : position ∉ places := fun before => ((accounts.reported position).mp before).1 waits
  have isFirst := isFirstToMiss_derive_iff records waits settled leads here there
  have found := missingDefaultViews_derive here there
  generalize ((collection.derivedFrom source.views).missesDefaultView && !derivation.failed.contains element) = first
    at isFirst found
  refine ⟨places ++ if first then [position] else [], ?distinct, fun other => ?reported, ?diagnostics⟩
  case distinct =>
    cases first with
    | true => exact List.nodup_append_comm.mp (List.nodup_cons.mpr ⟨notReported, accounts.distinct⟩)
    | false =>
        rw [if_neg Bool.false_ne_true, List.append_nil]
        exact accounts.distinct
  case reported =>
    rw [List.mem_append, notMem_waiting_derive_iff]
    by_cases isPosition : other = position
    · rw [isPosition, or_iff_right notReported, isFirst]
      cases first <;> simp
    · have notNew : other ∉ if first then [position] else [] := by cases first <;> simp [isPosition]
      rw [or_iff_left notNew, or_iff_right isPosition, accounts.reported]
      refine and_congr_right fun derived => (isFirstToMiss_congr (getElem?_derive_ne here there isPosition) ?_).symm
      intro otherCollection otherElement atOther otherLeads
      have elementDerived := flows.element_notMem_waiting faithful atOther otherLeads derived
      exact getElem?_derive_ne here there fun same => elementDerived (same ▸ waits)
  case diagnostics =>
    have sameReports : ∀ other : Nat,
        (derivation.derive (position, element)).resultTypes[other]?.map ResultType.missingDefaultView =
          derivation.resultTypes[other]?.map ResultType.missingDefaultView := by
      intro other
      by_cases isPosition : other = position
      · rw [isPosition, getElem?_derive_self here there, here]
        rfl
      · rw [getElem?_derive_ne here there isPosition]
    rw [found, accounts.diagnostics, List.filterMap_append]
    simp only [sameReports]
    cases first with
    | true => simp [here]
    | false => rfl

/-- A run keeps account. -/
theorem Reaches.exists_accounts {reached : Derivation} (reaches : Reaches (start given) reached)
    (inPlace : ElementsInPlace given) : ∃ places, Accounts reached places := by
  induction reaches with
  | refl => exact ⟨[], accounts_start inPlace⟩
  | @step before entry reachesBefore pending settled inductionHypothesis =>
      obtain ⟨places, accounts⟩ := inductionHypothesis
      have faithful := reachesBefore.faithful (faithful_start inPlace) inPlace
      exact accounts.derive (reachesBefore.recordsMissing inPlace) faithful (reachesBefore.flows inPlace) inPlace
        pending settled

/-- At the end of a run, derived is whoever has a chain of elements that ends. -/
theorem notMem_waiting_run_iff (inPlace : ElementsInPlace given) (below : position < given.length) :
    position ∉ (run given).waiting ↔ IsGrounded (run given).resultTypes position := by
  have faithful := (reaches_run given).faithful (faithful_start inPlace) inPlace
  constructor
  · exact fun derived => (faithful.grounded derived below).of_withoutViews faithful.same.symm
  · exact fun grounded =>
      not_mem_waiting_of_isGrounded faithful (ready_run_eq_nil given) (grounded.of_withoutViews faithful.same)

/-- A run reports the places that are first to miss a default view at its end, each once. -/
theorem reportsFirstMissing_run (inPlace : ElementsInPlace given) :
    ReportsFirstMissing (run given).resultTypes (run given).diagnostics := by
  obtain ⟨places, accounts⟩ := (reaches_run given).exists_accounts inPlace
  refine ⟨places, accounts.distinct, fun position => ?_, accounts.diagnostics⟩
  rw [accounts.reported]
  refine and_congr_left fun ⟨collection, _, here, _⟩ => notMem_waiting_run_iff inPlace ?_
  have faithful := (reaches_run given).faithful (faithful_start inPlace) inPlace
  exact faithful.length ▸ (List.getElem?_eq_some_iff.mp here).1

end Derivation

/-! ## Once for each chain -/

section Chain

variable {resultTypes : List ResultType} {position : Nat}

/-- From a collection to its element, if that one misses a default view too. -/
def MissesOnward (resultTypes : List ResultType) (position element : Nat) : Prop :=
  missesAt resultTypes element = true ∧
    ∃ collection, resultTypes[position]? = some collection ∧ collection.elementPosition? = some element

theorem rightUnique_missesOnward : Relator.RightUnique (MissesOnward resultTypes) := by
  rintro place left right ⟨_, collection, here, leadsLeft⟩ ⟨_, other, there, leadsRight⟩
  rw [here] at there
  cases there
  exact Option.some.inj (leadsLeft.symm.trans leadsRight)

/-- Nobody further on misses without a break what the first one misses. -/
theorem IsFirstToMiss.eq_of_reflTransGen {other : Nat} (first : IsFirstToMiss resultTypes position)
    (reaches : Relation.ReflTransGen (MissesOnward resultTypes) position other) : position = other := by
  rcases Relation.ReflTransGen.cases_head reaches with same | ⟨element, ⟨misses, collection, here, leads⟩, _⟩
  · exact same
  · rw [((isFirstToMiss_iff here leads).mp first).2] at misses
    cases misses

/-- Whoever misses a default view on a chain that ends does so without a break from one first place on. -/
theorem IsGrounded.existsUnique_isFirstToMiss (grounded : IsGrounded resultTypes position)
    (misses : missesAt resultTypes position = true) :
    ∃! first, Relation.ReflTransGen (MissesOnward resultTypes) position first ∧
      IsGrounded resultTypes first ∧ IsFirstToMiss resultTypes first := by
  have exists_first : ∃ first, Relation.ReflTransGen (MissesOnward resultTypes) position first ∧
      IsGrounded resultTypes first ∧ IsFirstToMiss resultTypes first := by
    induction grounded with
    | @plain place resultType here notCollection =>
        rw [missesAt_eq here, ResultType.missesDefaultView, Bool.and_eq_true] at misses
        rw [Derivation.isCollection_of_inheritsViews misses.1] at notCollection
        cases notCollection
    | @following place element resultType here leads elementGrounded inductionHypothesis =>
        cases elementMisses : missesAt resultTypes element with
        | true =>
            obtain ⟨first, reaches, isFirst⟩ := inductionHypothesis elementMisses
            exact ⟨first, reaches.head ⟨elementMisses, resultType, here, leads⟩, isFirst⟩
        | false =>
            have isFirst := (isFirstToMiss_iff here leads).mpr ⟨missesAt_eq here ▸ misses, elementMisses⟩
            exact ⟨place, .refl, .following here leads elementGrounded, isFirst⟩
  obtain ⟨first, reaches, firstGrounded, isFirst⟩ := exists_first
  refine ⟨first, ⟨reaches, firstGrounded, isFirst⟩, fun other ⟨reachesOther, _, otherIsFirst⟩ => ?_⟩
  rcases reaches.total_of_right_unique rightUnique_missesOnward reachesOther with onward | backward
  · exact (isFirst.eq_of_reflTransGen onward).symm
  · exact otherIsFirst.eq_of_reflTransGen backward

end Chain

namespace Registry

variable {registry : Registry}

/-- Every collection finds its element among the result types. -/
def FindsElements (registry : Registry) : Prop :=
  ∀ resultType ∈ registry.resultTypes, ∀ facts, resultType.collection = some facts →
    registry.NamesResultType facts.element.name

instance (registry : Registry) : Decidable registry.FindsElements :=
  inferInstanceAs (Decidable (∀ resultType ∈ registry.resultTypes, ∀ facts ∈ resultType.collection,
    registry.NamesResultType facts.element.name))

/-- Linking puts every element in place that is found. -/
theorem FindsElements.elementsInPlace (finds : registry.FindsElements) :
    Derivation.ElementsInPlace (registry.link registry.typeIndex).resultTypes := by
  have targets : ∀ resultType ∈ registry.resultTypes, ∀ facts, resultType.collection = some facts →
      ∃ position, facts.elementTarget? registry.typeIndex = some (.result position) ∧
        position < registry.resultTypes.length := by
    intro resultType member facts collects
    have hasTarget := elementTarget?_eq_none_iff.not.mpr (not_not.mpr (finds resultType member facts collects))
    unfold Collection.elementTarget? at hasTarget ⊢
    split at hasTarget
    next position found =>
      obtain ⟨_, declares⟩ := exists_declares_of_find?_typeIndex found
      exact ⟨position, rfl, declares.isPlace⟩
    next => exact (hasTarget rfl).elim
  intro resultType member collects
  rw [resultTypes_link] at member ⊢
  obtain ⟨before, inRegistry, rfl⟩ := List.mem_map.mp member
  rw [ResultType.link_eq fun facts has => (targets before inRegistry facts has).imp fun _ both => both.1] at collects ⊢
  obtain ⟨_, has⟩ := Option.isSome_iff_exists.mp collects
  obtain ⟨facts, hasFacts, rfl⟩ := Option.map_eq_some_iff.mp has
  obtain ⟨position, target, below⟩ := targets before inRegistry facts hasFacts
  refine ⟨position, ?_, by rwa [List.length_map]⟩
  simp [ResultType.elementPosition?, hasFacts, target]

/-- Linking reports no missing default view. -/
theorem missingDefaultViews_unresolved : missingDefaultViews (registry.unresolved registry.typeIndex) = [] := by
  rw [unresolved_eq_danglingAmong, missingDefaultViews, List.filter_eq_nil_iff]
  intro diagnostic member
  obtain ⟨path, referrer, name, _, _, rfl⟩ := mem_danglingAmong.mp member
  exact Bool.false_ne_true

/-- If every collection finds its element, finalizing a registry reports missing default views at the collections that
inherit, have a chain of elements that ends, have no default view afterwards, and whose element is not such a
collection: at each of them once, and nowhere else. So each chain without a default view is reported once. -/
theorem finalization_reports_first_missing (finds : registry.FindsElements) (earlier : List Diagnostic) :
    ∃ final found, registry.finalization.run ⟨[], earlier⟩ = (final, ⟨[], earlier ++ found⟩) ∧
      ReportsFirstMissing final.resultTypes found ∧
      ∀ position, IsGrounded final.resultTypes position → missesAt final.resultTypes position = true →
        ∃! first, Relation.ReflTransGen (MissesOnward final.resultTypes) position first ∧
          IsGrounded final.resultTypes first ∧ IsFirstToMiss final.resultTypes first := by
  obtain ⟨places, distinct, reported, diagnostics⟩ := Derivation.reportsFirstMissing_run finds.elementsInPlace
  refine ⟨_, _, registry.yields_finalization ⟨[], earlier⟩, ⟨places, distinct, reported, ?_⟩,
    fun _ grounded misses => grounded.existsUnique_isFirstToMiss misses⟩
  rw [missingDefaultViews_append, unresolvedAt_nil, missingDefaultViews_unresolved]
  exact diagnostics

end Registry

/-- Bottles without a view in collections of collections, of which one in the middle has a view of its own. -/
def rackedBottles : List Declaration :=
  [.collectionOf "BottleCollectionCollectionCollection" [], .resultType "vnd.bottle" [],
    .collectionOf "BottleCollectionCollection" [.block (.view "tiny") []], .collectionOf "BottleCollection" [],
    .collectionOf "Bottle" []]

/-- The innermost collection is reported, the next one is not, and the outermost one is again. -/
theorem finalization_reports_first_missing_rackedBottles :
    let registry := ((Design.empty.declareEach rackedBottles).registry.prepare {}).1
    registry.phase = .sealed ∧ registry.FindsElements ∧
      ∃ final found, registry.finalization.run ⟨[], []⟩ = (final, ⟨[], [] ++ found⟩) ∧
        ReportsFirstMissing final.resultTypes found ∧
        final.resultTypes.map (·.missesDefaultView) = [false, true, true, false, true] ∧
        (missingDefaultViews found).map (·.cause) =
          [.missingDefaultView "vnd.bottle; type=collection",
            .missingDefaultView "vnd.bottle; type=collection; type=collection; type=collection; type=collection"] := by
  intro registry
  have finds : registry.FindsElements := by decide +kernel
  have answers : (registry.finalization.run ⟨[], []⟩).1.resultTypes.map (·.missesDefaultView) =
        [false, true, true, false, true] ∧
      (missingDefaultViews (registry.finalization.run ⟨[], []⟩).2.diagnostics).map (·.cause) =
        [.missingDefaultView "vnd.bottle; type=collection",
          .missingDefaultView "vnd.bottle; type=collection; type=collection; type=collection; type=collection"] := by
    decide +kernel
  obtain ⟨final, found, runs, reports, _⟩ := registry.finalization_reports_first_missing finds []
  rw [runs] at answers
  exact ⟨by decide +kernel, finds, final, found, runs, reports, answers⟩

end ApiDesign
