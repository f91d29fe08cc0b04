import ApiDesign.Evaluation.Views
import Mathlib.Data.List.Nodup

/-!
Contract: which result types end with a default view.

Derivation is a run of single steps, each of which derives one collection whose element is no longer pending. It
changes views and nothing else. A collection whose chain of elements ends in a result type that is no collection is
derived at some step; one whose chain never ends is not, and keeps the views it has.

Owns: `IsGrounded`, the run of derivation and its invariant.
Does not own: what makes a derived registry a model (`Proofs.Model.DefaultViews`).
-/

namespace ApiDesign

/-- The chain of elements from a place ends in a result type that is no collection. -/
inductive IsGrounded (resultTypes : List ResultType) : Nat → Prop
  | plain {position : Nat} {resultType : ResultType} (here : resultTypes[position]? = some resultType)
      (notCollection : resultType.isCollection = false) : IsGrounded resultTypes position
  | following {position element : Nat} {resultType : ResultType} (here : resultTypes[position]? = some resultType)
      (leads : resultType.elementPosition? = some element) (grounded : IsGrounded resultTypes element) :
      IsGrounded resultTypes position

/-- A result type without its views. -/
def ResultType.withoutViews (resultType : ResultType) : ResultType := { resultType with views := [] }

theorem ResultType.elementPosition?_eq_none {resultType : ResultType}
    (notCollection : resultType.isCollection = false) :
    resultType.elementPosition? = none := by
  unfold ResultType.isCollection at notCollection
  unfold ResultType.elementPosition?
  cases collects : resultType.collection with
  | none => rfl
  | some facts => simp [collects] at notCollection

/-- Result types that are the same without their views correspond place by place. -/
theorem exists_of_withoutViews {left right : List ResultType}
    (same : left.map (·.withoutViews) = right.map (·.withoutViews)) {position : Nat} {resultType : ResultType}
    (here : left[position]? = some resultType) :
    ∃ other, right[position]? = some other ∧ resultType.withoutViews = other.withoutViews := by
  have both := congrArg (fun items => items[position]?) same
  simp only [List.getElem?_map, here, Option.map_some] at both
  obtain ⟨other, there, equal⟩ := Option.map_eq_some_iff.mp both.symm
  exact ⟨other, there, equal.symm⟩

/-- Whether a chain ends does not depend on views. -/
theorem IsGrounded.of_withoutViews {left right : List ResultType}
    (same : left.map (·.withoutViews) = right.map (·.withoutViews)) {position : Nat}
    (grounded : IsGrounded left position) : IsGrounded right position := by
  have corresponds : ∀ {place : Nat} {resultType : ResultType}, left[place]? = some resultType →
      ∃ other : ResultType, right[place]? = some other ∧ other.collection = resultType.collection := by
    intro place resultType here
    obtain ⟨other, there, equal⟩ := exists_of_withoutViews same here
    exact ⟨other, there, congrArg (·.collection) equal.symm⟩
  induction grounded with
  | plain here notCollection =>
      obtain ⟨other, there, collection⟩ := corresponds here
      exact .plain there (by rw [ResultType.isCollection, collection]; exact notCollection)
  | following here leads _ inductionHypothesis =>
      obtain ⟨other, there, collection⟩ := corresponds here
      refine .following there ?_ inductionHypothesis
      rw [ResultType.elementPosition?, collection]
      exact leads

/-! ## Steps and runs -/

namespace Derivation

/-- The places of the collections that are still to be derived. -/
def waiting (derivation : Derivation) : List Nat := derivation.pending.map Prod.fst

/-- The states that a run of single steps reaches. -/
inductive Reaches (derivation : Derivation) : Derivation → Prop
  | refl : Reaches derivation derivation
  | step {reached : Derivation} {entry : Nat × Nat} (before : Reaches derivation reached)
      (pending : entry ∈ reached.pending) (ready : entry.2 ∉ reached.waiting) :
      Reaches derivation (reached.derive entry)

theorem pending_derive (derivation : Derivation) (entry : Nat × Nat) :
    (derivation.derive entry).pending = derivation.pending.filter fun other => other.1 != entry.1 := by
  unfold derive inherit complete
  simp only
  split
  · split
    · split <;> rfl
    · rfl
  · rfl

theorem mem_waiting_derive {derivation : Derivation} {entry : Nat × Nat} {position : Nat} :
    position ∈ (derivation.derive entry).waiting ↔ position ∈ derivation.waiting ∧ position ≠ entry.1 := by
  unfold waiting
  rw [pending_derive]
  simp only [List.mem_map, List.mem_filter, bne_iff_ne, ne_eq, Prod.exists, exists_and_right, exists_eq_right]

theorem length_pending_derive_le (derivation : Derivation) (entry : Nat × Nat) :
    (derivation.derive entry).pending.length ≤ derivation.pending.length := by
  rw [pending_derive]
  exact List.length_filter_le _ _

theorem length_pending_derive_lt {derivation : Derivation} {entry : Nat × Nat} (pending : entry ∈ derivation.pending) :
    (derivation.derive entry).pending.length < derivation.pending.length := by
  rw [pending_derive]
  apply List.length_filter_lt_length_iff_exists.mpr
  exact ⟨entry, pending, by simp⟩

/-! ## Rounds -/

theorem Reaches.nodup_waiting {start reached : Derivation} (reaches : Reaches start reached)
    (distinct : start.waiting.Nodup) : reached.waiting.Nodup := by
  induction reaches with
  | refl => exact distinct
  | step _ _ _ inductionHypothesis =>
      unfold waiting at inductionHypothesis ⊢
      rw [pending_derive]
      exact ((List.filter_sublist).map Prod.fst).nodup inductionHypothesis

/-- Steps through distinct collections whose elements are not pending are a run. -/
theorem reaches_foldl_derive {start : Derivation} :
    ∀ (entries : List (Nat × Nat)) (derivation : Derivation), Reaches start derivation →
      (entries.map Prod.fst).Nodup →
      (∀ entry ∈ entries, entry ∈ derivation.pending ∧ entry.2 ∉ derivation.waiting) →
      Reaches start (entries.foldl derive derivation)
  | [], _, reached, _, _ => reached
  | entry :: rest, derivation, reached, distinct, ready => by
      rw [List.map_cons, List.nodup_cons] at distinct
      obtain ⟨pending, settled⟩ := ready entry List.mem_cons_self
      refine reaches_foldl_derive rest _ (.step reached pending settled) distinct.2 ?_
      intro other member
      obtain ⟨otherPending, otherSettled⟩ := ready other (List.mem_cons_of_mem _ member)
      have elsewhere : other.1 ≠ entry.1 := by
        intro same
        exact distinct.1 (same ▸ List.mem_map_of_mem member)
      refine ⟨?_, fun still => otherSettled (mem_waiting_derive.mp still).1⟩
      rw [pending_derive, List.mem_filter]
      exact ⟨otherPending, by simpa using elsewhere⟩

theorem mem_ready {derivation : Derivation} {entry : Nat × Nat} :
    entry ∈ derivation.ready ↔ entry ∈ derivation.pending ∧ entry.2 ∉ derivation.waiting := by
  unfold ready waiting
  rw [List.mem_filter]
  simp

theorem reaches_rounds {start : Derivation} (distinct : start.waiting.Nodup) :
    ∀ (count : Nat) (derivation : Derivation), Reaches start derivation → Reaches start (rounds count derivation)
  | 0, _, reached => reached
  | count + 1, derivation, reached => by
      refine reaches_rounds distinct count _ (reaches_foldl_derive derivation.ready derivation reached ?_ ?_)
      · exact ((List.filter_sublist).map Prod.fst).nodup (reached.nodup_waiting distinct)
      · exact fun entry member => mem_ready.mp member

/-- As many rounds as there are pending collections leave none that is ready. -/
theorem ready_rounds_eq_nil :
    ∀ (count : Nat) (derivation : Derivation), derivation.pending.length ≤ count →
      (rounds count derivation).ready = []
  | 0, derivation, enough => by
      have nothing : derivation.pending = [] := List.eq_nil_of_length_eq_zero (by omega)
      simp [rounds, ready, nothing]
  | count + 1, derivation, enough => by
      unfold rounds
      cases isReady : derivation.ready with
      | nil =>
          have still : ∀ more : Nat, rounds more derivation = derivation := by
            intro more
            induction more with
            | zero => rfl
            | succ more inductionHypothesis =>
                unfold rounds round
                rw [isReady]
                exact inductionHypothesis
          unfold round
          rw [isReady, List.foldl_nil, still]
          exact isReady
      | cons entry rest =>
          have pending : entry ∈ derivation.pending := (mem_ready.mp (isReady ▸ List.mem_cons_self)).1
          have shrinks : ∀ (others : List (Nat × Nat)) (state : Derivation),
              (others.foldl derive state).pending.length ≤ state.pending.length := by
            intro others
            induction others with
            | nil => exact fun _ => Nat.le_refl _
            | cons other more inductionHypothesis =>
                exact fun state => Nat.le_trans (inductionHypothesis _) (length_pending_derive_le state other)
          apply ready_rounds_eq_nil count
          unfold round
          rw [isReady, List.foldl_cons]
          have first := length_pending_derive_lt pending
          have others := shrinks rest (derivation.derive entry)
          omega

/-! ## The run from the beginning -/

variable {resultTypes : List ResultType}

theorem mem_pending_start {position element : Nat} :
    (position, element) ∈ (start resultTypes).pending ↔
      ∃ resultType, resultTypes[position]? = some resultType ∧ resultType.elementPosition? = some element ∧
        element < resultTypes.length := by
  unfold start
  simp only [List.mem_filterMap, Prod.exists]
  constructor
  · rintro ⟨resultType, place, member, answer⟩
    cases leads : resultType.elementPosition? with
    | none => simp [leads] at answer
    | some found =>
        simp only [leads] at answer
        split at answer
        · rename_i below
          obtain ⟨rfl, rfl⟩ := Prod.mk.inj (Option.some.inj answer)
          exact ⟨resultType, List.mem_zipIdx_iff_getElem?.mp member, leads, below⟩
        · cases answer
  · rintro ⟨resultType, here, leads, below⟩
    refine ⟨resultType, position, List.mem_zipIdx_iff_getElem?.mpr here, ?_⟩
    simp [leads, below]

/-- Entries that are kept under their places keep the order of places. -/
theorem sublist_places {α β : Type} {keep : α × Nat → Option (Nat × β)}
    (places : ∀ entry kept, keep entry = some kept → kept.1 = entry.2) :
    ∀ entries : List (α × Nat), ((entries.filterMap keep).map Prod.fst).Sublist (entries.map Prod.snd)
  | [] => List.Sublist.refl _
  | head :: rest => by
      have inRest := sublist_places places rest
      rw [List.filterMap_cons, List.map_cons]
      cases isKept : keep head with
      | none => exact inRest.cons _
      | some kept =>
          rw [List.map_cons, places head kept isKept]
          exact inRest.cons_cons _

theorem nodup_waiting_start : (start resultTypes).waiting.Nodup := by
  have positions : (start resultTypes).waiting.Sublist (resultTypes.zipIdx.map Prod.snd) := by
    unfold waiting start
    refine sublist_places ?_ resultTypes.zipIdx
    rintro ⟨resultType, position⟩ kept isKept
    simp only at isKept
    split at isKept
    · split at isKept
      · rw [← Option.some.inj isKept]
      · cases isKept
    · cases isKept
  refine positions.nodup ?_
  rw [List.zipIdx_map_snd]
  exact List.nodup_range' _

theorem reaches_run (resultTypes : List ResultType) : Reaches (start resultTypes) (run resultTypes) :=
  reaches_rounds nodup_waiting_start _ _ .refl

theorem ready_run_eq_nil (resultTypes : List ResultType) : (run resultTypes).ready = [] :=
  ready_rounds_eq_nil _ _ (Nat.le_refl _)

/-! ## What one step does to result types -/

theorem View.name_completed (elementViews : List View) (view : View) :
    (view.completed elementViews).name = view.name := by
  unfold View.completed
  split
  · split <;> rfl
  · rfl

/-- Completing views keeps their names, so it neither brings a default view in nor takes it away. -/
theorem hasDefaultView_completed (elementViews : List View) (resultType : ResultType) :
    { resultType with views := resultType.views.map (View.completed elementViews) : ResultType }.hasDefaultView =
      resultType.hasDefaultView := by
  unfold ResultType.hasDefaultView ResultType.view?
  simp only [List.find?_map, Option.isSome_map, Function.comp_def, View.name_completed]

/-- What a step does: with collection and element in place, it gives the collection other views; one that inherits
has a default view afterwards or is recorded as failed, with a diagnostic if it is the first to fail. -/
theorem derive_cases {derivation : Derivation} {position element : Nat} {collection source : ResultType}
    (here : derivation.resultTypes[position]? = some collection)
    (there : derivation.resultTypes[element]? = some source) :
    ∃ changed : ResultType,
      (derivation.derive (position, element)).resultTypes = derivation.resultTypes.set position changed ∧
        changed.withoutViews = collection.withoutViews ∧
        (collection.inheritsViews = true → changed.hasDefaultView = true ∨
          position ∈ (derivation.derive (position, element)).failed) ∧
        (collection.inheritsViews = false → changed.hasDefaultView = collection.hasDefaultView) := by
  unfold derive
  simp only [here, there]
  cases inherits : collection.inheritsViews with
  | true =>
      simp only [if_true, inherit]
      refine ⟨{ collection with views := source.views }, ?_, rfl, ?_, by simp⟩
      · split <;> rfl
      · intro _
        split
        · rename_i default
          exact .inl default
        · exact .inr List.mem_cons_self
  | false =>
      refine ⟨_, rfl, rfl, by simp, ?_⟩
      intro _
      exact hasDefaultView_completed source.views collection

/-- Who has failed stays recorded. -/
theorem mem_failed_derive {derivation : Derivation} {entry : Nat × Nat} {position : Nat}
    (failed : position ∈ derivation.failed) : position ∈ (derivation.derive entry).failed := by
  unfold derive inherit complete
  simp only
  split
  · split
    · split
      · exact failed
      · exact List.mem_cons_of_mem _ failed
    · exact failed
  · exact failed

/-- Whoever fails first is reported. -/
theorem diagnostics_derive {derivation : Derivation} (entry : Nat × Nat)
    (reported : derivation.failed ≠ [] → derivation.diagnostics ≠ []) :
    (derivation.derive entry).failed ≠ [] → (derivation.derive entry).diagnostics ≠ [] := by
  unfold derive
  simp only
  split
  · split
    · unfold inherit
      simp only
      split
      · exact reported
      · intro _
        cases known : derivation.failed with
        | nil => simp
        | cons first others =>
            have recorded := reported (by rw [known]; simp)
            simp only [ne_eq, List.append_eq_nil_iff, not_and]
            exact fun nothing => absurd nothing recorded
    · unfold complete
      simp only
      intro failed nothing
      exact reported failed (List.append_eq_nil_iff.mp nothing).1
  · exact reported

/-! ## The invariant -/

/-- Every collection is linked to an element in place. -/
def ElementsInPlace (given : List ResultType) : Prop :=
  ∀ resultType ∈ given, resultType.isCollection = true →
    ∃ element, resultType.elementPosition? = some element ∧ element < given.length

/-- A state of derivation over the result types it began with: only views have changed, and only of collections that
are no longer pending. What is not pending has an innermost element; if it inherits, it has a default view or is
recorded as failed. -/
structure Faithful (given : List ResultType) (derivation : Derivation) : Prop where
  same : derivation.resultTypes.map (·.withoutViews) = given.map (·.withoutViews)
  pending : ∀ {position element : Nat}, (position, element) ∈ derivation.pending →
    ∃ resultType, given[position]? = some resultType ∧ resultType.elementPosition? = some element
  untouched : ∀ {position : Nat}, position ∈ derivation.waiting → derivation.resultTypes[position]? = given[position]?
  grounded : ∀ {position : Nat}, position ∉ derivation.waiting → position < given.length → IsGrounded given position
  inheriting : ∀ {position : Nat} {resultType : ResultType}, position ∉ derivation.waiting →
    derivation.resultTypes[position]? = some resultType → resultType.inheritsViews = true →
    resultType.hasDefaultView = true ∨ position ∈ derivation.failed
  own : ∀ {position : Nat} {resultType before : ResultType}, given[position]? = some before →
    derivation.resultTypes[position]? = some resultType → resultType.inheritsViews = false →
    resultType.hasDefaultView = before.hasDefaultView
  reported : derivation.failed ≠ [] → derivation.diagnostics ≠ []

theorem mem_waiting_start {given : List ResultType} (inPlace : ElementsInPlace given) {position : Nat}
    {resultType : ResultType} (here : given[position]? = some resultType) (collects : resultType.isCollection = true) :
    position ∈ (start given).waiting := by
  obtain ⟨element, leads, below⟩ := inPlace resultType (List.mem_of_getElem? here) collects
  exact List.mem_map.mpr ⟨(position, element), mem_pending_start.mpr ⟨resultType, here, leads, below⟩, rfl⟩

theorem isCollection_of_inheritsViews {resultType : ResultType} (inherits : resultType.inheritsViews = true) :
    resultType.isCollection = true := by
  unfold ResultType.inheritsViews at inherits
  unfold ResultType.isCollection
  cases collects : resultType.collection with
  | none => simp [collects] at inherits
  | some facts => rfl

theorem faithful_start {given : List ResultType} (inPlace : ElementsInPlace given) : Faithful given (start given) where
  same := rfl
  pending := by
    intro position element member
    obtain ⟨resultType, here, leads, _⟩ := mem_pending_start.mp member
    exact ⟨resultType, here, leads⟩
  untouched := fun _ => rfl
  grounded := by
    intro position notWaiting below
    refine .plain (List.getElem?_eq_getElem below) ?_
    rw [← Bool.not_eq_true]
    exact fun collects => notWaiting (mem_waiting_start inPlace (List.getElem?_eq_getElem below) collects)
  inheriting := by
    intro position resultType notWaiting here inherits
    exact absurd (mem_waiting_start inPlace here (isCollection_of_inheritsViews inherits)) notWaiting
  own := by
    intro position resultType before atGiven here _
    rw [show (start given).resultTypes = given from rfl, atGiven] at here
    cases here
    rfl
  reported := fun failed => absurd rfl failed

/-- Changing only the views of one result type leaves all of them the same without their views. -/
theorem map_withoutViews_set {resultTypes : List ResultType} {position : Nat} {before changed : ResultType}
    (here : resultTypes[position]? = some before) (same : changed.withoutViews = before.withoutViews) :
    (resultTypes.set position changed).map (·.withoutViews) = resultTypes.map (·.withoutViews) := by
  apply List.ext_getElem?
  intro place
  rw [List.getElem?_map, List.getElem?_map, List.getElem?_set]
  split
  · rename_i samePlace
    subst samePlace
    obtain ⟨below, itemIs⟩ := List.getElem?_eq_some_iff.mp here
    simp [below, same, itemIs]
  · rfl

theorem Faithful.length {given : List ResultType} {derivation : Derivation} (faithful : Faithful given derivation) :
    derivation.resultTypes.length = given.length := by
  have lengths := congrArg List.length faithful.same
  simpa using lengths

theorem collection_of_withoutViews {left right : ResultType} (same : left.withoutViews = right.withoutViews) :
    left.collection = right.collection := by
  have collections := congrArg ResultType.collection same
  exact collections

/-- The sort of a result type does not change on the way. -/
theorem inheritsViews_of_withoutViews {left right : ResultType} (same : left.withoutViews = right.withoutViews) :
    left.inheritsViews = right.inheritsViews := by
  unfold ResultType.inheritsViews
  rw [collection_of_withoutViews same]

theorem elementPosition?_of_withoutViews {left right : ResultType} (same : left.withoutViews = right.withoutViews) :
    left.elementPosition? = right.elementPosition? := by
  unfold ResultType.elementPosition?
  rw [collection_of_withoutViews same]

theorem isCollection_of_withoutViews {left right : ResultType} (same : left.withoutViews = right.withoutViews) :
    left.isCollection = right.isCollection := by
  unfold ResultType.isCollection
  rw [collection_of_withoutViews same]

theorem isCollection_of_elementPosition? {resultType : ResultType} {element : Nat}
    (leads : resultType.elementPosition? = some element) : resultType.isCollection = true := by
  rw [← Bool.not_eq_false]
  intro notCollection
  rw [ResultType.elementPosition?_eq_none notCollection] at leads
  cases leads

/-- What is pending is a collection as it was given, with its element in place. -/
theorem Faithful.exists_of_pending {given : List ResultType} {derivation : Derivation} {position element : Nat}
    (faithful : Faithful given derivation) (inPlace : ElementsInPlace given)
    (pending : (position, element) ∈ derivation.pending) :
    ∃ collection source, given[position]? = some collection ∧ collection.elementPosition? = some element ∧
      derivation.resultTypes[position]? = some collection ∧ derivation.resultTypes[element]? = some source := by
  obtain ⟨collection, givenHere, leads⟩ := faithful.pending pending
  have waits : position ∈ derivation.waiting := List.mem_map_of_mem (f := Prod.fst) pending
  have here : derivation.resultTypes[position]? = some collection := by rw [faithful.untouched waits, givenHere]
  obtain ⟨other, otherLeads, below⟩ :=
    inPlace collection (List.mem_of_getElem? givenHere) (isCollection_of_elementPosition? leads)
  rw [leads] at otherLeads
  cases otherLeads
  exact ⟨collection, _, givenHere, leads, here, List.getElem?_eq_getElem (faithful.length.symm ▸ below)⟩

theorem Faithful.derive {given : List ResultType} {derivation : Derivation} {position element : Nat}
    (faithful : Faithful given derivation) (pending : (position, element) ∈ derivation.pending)
    (settled : element ∉ derivation.waiting) (inPlace : ElementsInPlace given) :
    Faithful given (derivation.derive (position, element)) := by
  obtain ⟨collection, source, givenHere, leads, here, there⟩ := faithful.exists_of_pending inPlace pending
  have elementBelow : element < given.length := faithful.length ▸ (List.getElem?_eq_some_iff.mp there).1
  obtain ⟨changed, resultTypes, same, inheriting, own⟩ := derive_cases here there
  have positionBelow : position < derivation.resultTypes.length := (List.getElem?_eq_some_iff.mp here).1
  have sameInherits := inheritsViews_of_withoutViews same
  refine ⟨?same, ?pending, ?untouched, ?grounded, ?inheriting, ?own, diagnostics_derive _ faithful.reported⟩
  case same =>
    rw [resultTypes, map_withoutViews_set here same]
    exact faithful.same
  case pending =>
    intro other otherElement member
    rw [pending_derive] at member
    exact faithful.pending (List.mem_filter.mp member).1
  case untouched =>
    intro other stillWaits
    obtain ⟨otherWaits, elsewhere⟩ := mem_waiting_derive.mp stillWaits
    rw [resultTypes, List.getElem?_set_ne (Ne.symm elsewhere)]
    exact faithful.untouched otherWaits
  case grounded =>
    intro other notWaiting below
    by_cases isPosition : other = position
    · rw [isPosition]
      exact .following givenHere leads (faithful.grounded settled elementBelow)
    · exact faithful.grounded (fun otherWaits => notWaiting (mem_waiting_derive.mpr ⟨otherWaits, isPosition⟩)) below
  case inheriting =>
    intro other resultType notWaiting atOther inherits
    by_cases isPosition : other = position
    · subst isPosition
      rw [resultTypes, List.getElem?_set_self positionBelow] at atOther
      cases atOther
      exact inheriting (sameInherits ▸ inherits)
    · rw [resultTypes, List.getElem?_set_ne (Ne.symm isPosition)] at atOther
      refine (faithful.inheriting (fun otherWaits => notWaiting (mem_waiting_derive.mpr ⟨otherWaits, isPosition⟩))
        atOther inherits).imp_right ?_
      exact fun failed => mem_failed_derive failed
  case own =>
    intro other resultType before atGiven atOther inherits
    by_cases isPosition : other = position
    · subst isPosition
      rw [resultTypes, List.getElem?_set_self positionBelow] at atOther
      cases atOther
      rw [givenHere] at atGiven
      cases atGiven
      exact own (sameInherits ▸ inherits)
    · rw [resultTypes, List.getElem?_set_ne (Ne.symm isPosition)] at atOther
      exact faithful.own atGiven atOther inherits

theorem Reaches.faithful {given : List ResultType} {start reached : Derivation} (reaches : Reaches start reached)
    (faithfulStart : Faithful given start) (inPlace : ElementsInPlace given) : Faithful given reached := by
  induction reaches with
  | refl => exact faithfulStart
  | @step before entry _ pending settled inductionHypothesis => exact inductionHypothesis.derive pending settled inPlace

/-! ## The end of a run -/

/-- At the end, whoever is still pending waits for somebody who is pending too, so its chain never ends. -/
theorem not_mem_waiting_of_isGrounded {given : List ResultType} {derivation : Derivation}
    (faithful : Faithful given derivation) (stuck : derivation.ready = []) {position : Nat}
    (grounded : IsGrounded given position) : position ∉ derivation.waiting := by
  induction grounded with
  | plain here notCollection =>
      intro waits
      obtain ⟨⟨_, element⟩, pending, rfl⟩ := List.mem_map.mp waits
      obtain ⟨resultType, there, leads⟩ := faithful.pending pending
      rw [here] at there
      cases there
      rw [ResultType.elementPosition?_eq_none notCollection] at leads
      cases leads
  | following here leads _ inductionHypothesis =>
      intro waits
      obtain ⟨⟨_, element⟩, pending, rfl⟩ := List.mem_map.mp waits
      obtain ⟨resultType, there, otherLeads⟩ := faithful.pending pending
      rw [here] at there
      cases there
      rw [leads] at otherLeads
      cases otherLeads
      have isReady := mem_ready.mpr ⟨pending, inductionHypothesis⟩
      rw [stuck] at isReady
      exact List.not_mem_nil isReady

/-- Which result types have a default view after derivation, if it found nothing: those that do not inherit, as
before, and of those that inherit the ones with an innermost element. -/
theorem hasDefaultView_run {given : List ResultType} (inPlace : ElementsInPlace given)
    (nothing : (run given).diagnostics = []) {position : Nat} {before after : ResultType}
    (givenHere : given[position]? = some before) (here : (run given).resultTypes[position]? = some after)
    (inheritsNothing : before.inheritsViews = true → before.views = []) :
    after.hasDefaultView = true ↔
      (before.inheritsViews = true ∧ IsGrounded given position) ∨
        (before.inheritsViews = false ∧ before.hasDefaultView = true) := by
  have faithful := (reaches_run given).faithful (faithful_start inPlace) inPlace
  have below : position < given.length := (List.getElem?_eq_some_iff.mp givenHere).1
  obtain ⟨_, there, sameHere⟩ := exists_of_withoutViews faithful.same here
  rw [givenHere] at there
  cases there
  have sameInherits := inheritsViews_of_withoutViews sameHere
  cases inherits : before.inheritsViews with
  | false =>
      rw [faithful.own givenHere here (sameInherits.trans inherits)]
      simp
  | true =>
      by_cases waits : position ∈ (run given).waiting
      · have unchanged := faithful.untouched waits
        rw [here, givenHere] at unchanged
        cases unchanged
        have noViews : before.hasDefaultView = false := by
          simp [ResultType.hasDefaultView, ResultType.view?, inheritsNothing inherits]
        have endless : ¬ IsGrounded given position := fun grounded =>
          not_mem_waiting_of_isGrounded faithful (ready_run_eq_nil given) grounded waits
        simp [noViews, endless]
      · have notFailed : position ∉ (run given).failed := by
          intro failed
          exact faithful.reported (List.ne_nil_of_mem failed) nothing
        have default := (faithful.inheriting waits here (sameInherits.trans inherits)).resolve_right notFailed
        simp [default, faithful.grounded waits below]

/-- Derivation changes views and nothing else. -/
theorem Reaches.map_withoutViews {start reached : Derivation} (reaches : Reaches start reached) :
    reached.resultTypes.map (·.withoutViews) = start.resultTypes.map (·.withoutViews) := by
  induction reaches with
  | refl => rfl
  | @step before entry _ _ _ inductionHypothesis =>
      obtain ⟨position, element⟩ := entry
      rw [← inductionHypothesis]
      cases here : before.resultTypes[position]? with
      | none => simp [derive, here]
      | some collection =>
          cases there : before.resultTypes[element]? with
          | none => simp [derive, here, there]
          | some source =>
              obtain ⟨changed, resultTypes, same, _⟩ := derive_cases here there
              rw [resultTypes, map_withoutViews_set here same]

theorem map_withoutViews_run (given : List ResultType) :
    (run given).resultTypes.map (·.withoutViews) = given.map (·.withoutViews) :=
  (reaches_run given).map_withoutViews

end Derivation

end ApiDesign
