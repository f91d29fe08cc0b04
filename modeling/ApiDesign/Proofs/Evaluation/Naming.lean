import ApiDesign.Evaluation.Collections
import ApiDesign.Proofs.Registry.Index

/-!
Contract: what naming does to the collections of a registry.

Naming is a run of single steps, each of which settles one pending collection. A step either finds the collection not
ready and changes nothing, or reports a duplicate, or gives the collection its final names. Whatever holds at the
beginning and is kept by a step holds at the end; and at the end no pending collection is ready.

Owns: `Naming.Reaches`, the step lemma, that identifiers stay distinct, that a run ends stuck.
Does not own: which names a run arrives at (`Proofs.Evaluation.Settled`).
-/

namespace ApiDesign

/-- Collections of different result types have different identifiers. -/
theorem ResultType.collectionIdentifier_injective {left right : String}
    (same : ResultType.collectionIdentifier left = ResultType.collectionIdentifier right) : left = right :=
  (String.append_left_inj _).mp same

/-! ## Changing one item of a list -/

/-- Overwriting a name by one that no other item has keeps the names distinct. -/
theorem nodup_set {names : List String} {position : Nat} {name : String} (distinct : names.Nodup)
    (free : ∀ other, other ≠ position → names[other]? ≠ some name) : (names.set position name).Nodup := by
  rw [List.Nodup, List.pairwise_iff_getElem] at distinct ⊢
  intro first second firstBelow secondBelow before
  simp only [List.length_set] at firstBelow secondBelow
  have different := distinct first second firstBelow secondBelow before
  have freeFirst := free first
  have freeSecond := free second
  rw [List.getElem?_eq_getElem firstBelow] at freeFirst
  rw [List.getElem?_eq_getElem secondBelow] at freeSecond
  rw [List.getElem_set, List.getElem_set]
  by_cases atFirst : position = first
  · subst atFirst
    rw [if_pos rfl, if_neg (by omega)]
    intro same
    exact freeSecond (by omega) (by rw [same])
  · rw [if_neg atFirst]
    by_cases atSecond : position = second
    · subst atSecond
      rw [if_pos rfl]
      intro same
      exact freeFirst (Ne.symm atFirst) (by rw [same])
    · rw [if_neg atSecond]
      exact different

namespace Naming

variable {suffix : String}

/-! ## Steps and runs -/

/-- The states that a run of single steps reaches. -/
inductive Reaches (suffix : String) (naming : Naming) : Naming → Prop
  | refl : Reaches suffix naming naming
  | step {reached : Naming} {position : Nat} (before : Reaches suffix naming reached)
      (pending : position ∈ reached.pending) : Reaches suffix naming (reached.settle suffix position)

/-- What one step can do. -/
theorem settle_cases (suffix : String) (naming : Naming) (position : Nat) :
    (naming.ready? position = none ∧ naming.settle suffix position = naming) ∨
      ∃ collection element, naming.ready? position = some (collection, element) ∧
        ((naming.isTaken position (ResultType.collectionIdentifier element.identifier) = true ∧
            naming.settle suffix position =
              { naming with
                pending := naming.pending.filter (· != position)
                diagnostics := naming.diagnostics ++
                  [.located [Kind.resultType.frame collection.identifier]
                    (.duplicateName RootKind.resultType.keyword
                      (ResultType.collectionIdentifier element.identifier))] }) ∨
          (naming.isTaken position (ResultType.collectionIdentifier element.identifier) = false ∧
            naming.settle suffix position =
              { naming with
                pending := naming.pending.filter (· != position)
                resultTypes := naming.resultTypes.set position (collection.nameAfter element suffix) })) := by
  unfold settle
  cases found : naming.ready? position with
  | none => exact .inl ⟨rfl, rfl⟩
  | some both =>
      obtain ⟨collection, element⟩ := both
      refine .inr ⟨collection, element, rfl, ?_⟩
      cases taken : naming.isTaken position (ResultType.collectionIdentifier element.identifier) with
      | true => exact .inl ⟨rfl, by simp [taken]⟩
      | false => exact .inr ⟨rfl, by simp [taken]⟩

/-- What is ready is in place, and its element is found by its name and not pending. -/
theorem ready?_eq_some {naming : Naming} {position : Nat} {collection element : ResultType}
    (ready : naming.ready? position = some (collection, element)) :
    naming.resultTypes[position]? = some collection ∧
      ∃ facts place, collection.collection = some facts ∧
        elementPosition? facts.element.name naming.resultTypes = some place ∧ place ∉ naming.pending ∧
        naming.resultTypes[place]? = some element := by
  unfold ready? at ready
  cases here : naming.resultTypes[position]? with
  | none => simp [here] at ready
  | some found =>
      simp only [here] at ready
      cases facts : found.collection with
      | none => simp [facts] at ready
      | some given =>
          simp only [facts, Option.bind_some] at ready
          cases lookup : elementPosition? given.element.name naming.resultTypes with
          | none => simp [lookup] at ready
          | some place =>
              simp only [lookup] at ready
              split at ready
              · cases ready
              · rename_i notPending
                obtain ⟨other, inPlace, same⟩ := Option.map_eq_some_iff.mp ready
                obtain ⟨rfl, rfl⟩ := Prod.mk.inj same
                exact ⟨rfl, given, place, facts, lookup, by simpa using notPending, inPlace⟩

/-- A collection whose element is found and not pending is ready. -/
theorem ready?_ne_none {naming : Naming} {position place : Nat} {collection : ResultType} {facts : Collection}
    (here : naming.resultTypes[position]? = some collection) (given : collection.collection = some facts)
    (found : elementPosition? facts.element.name naming.resultTypes = some place)
    (below : place < naming.resultTypes.length) (notPending : place ∉ naming.pending) :
    naming.ready? position ≠ none := by
  unfold ready?
  simp [here, given, found, notPending, List.getElem?_eq_getElem below]

theorem elementPosition?_lt {name : String} {resultTypes : List ResultType} {place : Nat}
    (found : elementPosition? name resultTypes = some place) : place < resultTypes.length := by
  unfold elementPosition? at found
  rcases Option.or_eq_some_iff.mp found with byIdentifier | ⟨_, byTypeName⟩
  · exact (List.findIdx?_eq_some_iff_getElem.mp byIdentifier).1
  · exact (List.findIdx?_eq_some_iff_getElem.mp byTypeName).1

theorem isTaken_eq_true_iff {naming : Naming} {position : Nat} {identifier : String} :
    naming.isTaken position identifier = true ↔
      ∃ other resultType, other ≠ position ∧ naming.resultTypes[other]? = some resultType ∧
        resultType.identifier = identifier := by
  unfold isTaken
  rw [List.any_eq_true]
  constructor
  · rintro ⟨⟨resultType, other⟩, member, both⟩
    simp only [Bool.and_eq_true, bne_iff_ne, ne_eq, beq_iff_eq] at both
    exact ⟨other, resultType, both.1, List.mem_zipIdx_iff_getElem?.mp member, both.2⟩
  · rintro ⟨other, resultType, elsewhere, here, same⟩
    refine ⟨(resultType, other), List.mem_zipIdx_iff_getElem?.mpr here, ?_⟩
    simp [elsewhere, same]

/-! ## Pending collections -/

theorem pending_settle (suffix : String) (naming : Naming) (position : Nat) :
    (naming.settle suffix position).pending = naming.pending ∨
      (naming.settle suffix position).pending = naming.pending.filter (· != position) := by
  rcases settle_cases suffix naming position with ⟨_, same⟩ | ⟨_, _, _, ⟨_, taken⟩ | ⟨_, named⟩⟩
  · exact .inl (by rw [same])
  · exact .inr (by rw [taken])
  · exact .inr (by rw [named])

theorem mem_pending_settle {naming : Naming} {position other : Nat} (elsewhere : other ≠ position) :
    other ∈ (naming.settle suffix position).pending ↔ other ∈ naming.pending := by
  rcases pending_settle suffix naming position with same | less
  · rw [same]
  · rw [less, List.mem_filter]
    simp [elsewhere]

theorem nodup_pending_settle {naming : Naming} {position : Nat} (distinct : naming.pending.Nodup) :
    (naming.settle suffix position).pending.Nodup := by
  rcases pending_settle suffix naming position with same | less
  · rw [same]
    exact distinct
  · rw [less]
    exact distinct.filter _

theorem length_pending_settle_le (naming : Naming) (position : Nat) :
    (naming.settle suffix position).pending.length ≤ naming.pending.length := by
  rcases pending_settle suffix naming position with same | less
  · exact Nat.le_of_eq (congrArg List.length same)
  · rw [less]
    exact List.length_filter_le _ _

/-- A step on a ready collection ends its waiting. -/
theorem length_pending_settle_lt {naming : Naming} {position : Nat} (pending : position ∈ naming.pending)
    (ready : naming.ready? position ≠ none) :
    (naming.settle suffix position).pending.length < naming.pending.length := by
  have shorter : (naming.pending.filter (· != position)).length < naming.pending.length := by
    apply List.length_filter_lt_length_iff_exists.mpr
    exact ⟨position, pending, by simp⟩
  rcases settle_cases suffix naming position with ⟨notReady, _⟩ | ⟨_, _, _, ⟨_, taken⟩ | ⟨_, named⟩⟩
  · exact absurd notReady ready
  · rw [taken]
    exact shorter
  · rw [named]
    exact shorter

/-! ## Rounds -/

/-- Steps through distinct pending collections are a run. -/
theorem reaches_foldl_settle {start : Naming} :
    ∀ (positions : List Nat) (naming : Naming), Reaches suffix start naming → positions.Nodup →
      (∀ position ∈ positions, position ∈ naming.pending) →
      Reaches suffix start (positions.foldl (settle suffix) naming)
  | [], _, reached, _, _ => reached
  | position :: rest, naming, reached, distinct, pending => by
      rw [List.nodup_cons] at distinct
      refine reaches_foldl_settle rest _ (.step reached (pending position List.mem_cons_self)) distinct.2 ?_
      intro other member
      have elsewhere : other ≠ position := by
        intro same
        exact distinct.1 (same ▸ member)
      exact (mem_pending_settle elsewhere).mpr (pending other (List.mem_cons_of_mem _ member))

theorem Reaches.nodup_pending {start reached : Naming} (reaches : Reaches suffix start reached)
    (distinct : start.pending.Nodup) : reached.pending.Nodup := by
  induction reaches with
  | refl => exact distinct
  | step _ _ inductionHypothesis => exact nodup_pending_settle inductionHypothesis

theorem reaches_rounds {start : Naming} (distinct : start.pending.Nodup) :
    ∀ (count : Nat) (naming : Naming), Reaches suffix start naming →
      Reaches suffix start (rounds suffix count naming)
  | 0, _, reached => reached
  | count + 1, naming, reached =>
      reaches_rounds distinct count _
        (reaches_foldl_settle naming.pending naming reached (reached.nodup_pending distinct) fun _ member => member)

/-- Going through some pending collections either finds none of them ready and changes nothing, or ends the waiting
of one. -/
theorem foldl_settle_progress (suffix : String) :
    ∀ (positions : List Nat) (naming : Naming), (∀ position ∈ positions, position ∈ naming.pending) →
      ((∀ position ∈ positions, naming.ready? position = none) ∧
          positions.foldl (settle suffix) naming = naming) ∨
        (positions.foldl (settle suffix) naming).pending.length < naming.pending.length
  | [], _, _ => .inl ⟨by simp, rfl⟩
  | position :: rest, naming, pending => by
      have shrinks : ∀ (others : List Nat) (state : Naming),
          (others.foldl (settle suffix) state).pending.length ≤ state.pending.length := by
        intro others
        induction others with
        | nil => exact fun _ => Nat.le_refl _
        | cons other more inductionHypothesis =>
            exact fun state => Nat.le_trans (inductionHypothesis _) (length_pending_settle_le state other)
      cases notReady : naming.ready? position with
      | none =>
          have same : naming.settle suffix position = naming := by
            rcases settle_cases suffix naming position with ⟨_, same⟩ | ⟨_, _, ready, _⟩
            · exact same
            · rw [notReady] at ready
              cases ready
          rw [List.foldl_cons, same]
          rcases foldl_settle_progress suffix rest naming fun other member =>
              pending other (List.mem_cons_of_mem _ member) with
            ⟨none, kept⟩ | less
          · refine .inl ⟨?_, kept⟩
            intro other member
            rcases List.mem_cons.mp member with here | inRest
            · rw [here]
              exact notReady
            · exact none other inRest
          · exact .inr less
      | some both =>
          refine .inr (Nat.lt_of_le_of_lt (shrinks rest _) ?_)
          exact length_pending_settle_lt (pending position List.mem_cons_self) (by rw [notReady]; simp)

/-- As many rounds as there are pending collections leave none of them ready. -/
theorem ready?_rounds_eq_none :
    ∀ (count : Nat) (naming : Naming), naming.pending.length ≤ count →
      ∀ position ∈ (rounds suffix count naming).pending, (rounds suffix count naming).ready? position = none
  | 0, naming, enough => by
      intro position member
      have nothing : naming.pending = [] := List.eq_nil_of_length_eq_zero (by omega)
      simp [rounds, nothing] at member
  | count + 1, naming, enough => by
      unfold rounds
      rcases foldl_settle_progress suffix naming.pending naming fun _ member => member with
        ⟨stuck, same⟩ | less
      · have still : ∀ more : Nat, rounds suffix more naming = naming := by
          intro more
          induction more with
          | zero => rfl
          | succ more inductionHypothesis =>
              unfold rounds round
              rw [same, inductionHypothesis]
        unfold round
        rw [same, still]
        exact stuck
      · exact ready?_rounds_eq_none count _ (by unfold round; omega)

/-! ## The run from the beginning -/

variable {given : List ResultType}

theorem mem_pending_start {position : Nat} :
    position ∈ (start suffix given).pending ↔
      ∃ resultType, given[position]? = some resultType ∧ resultType.isDeclaredCollection = true := by
  unfold start
  simp only [List.mem_map, List.mem_filter, Prod.exists, exists_eq_right]
  constructor
  · rintro ⟨resultType, member, declared⟩
    exact ⟨resultType, List.mem_zipIdx_iff_getElem?.mp member, declared⟩
  · rintro ⟨resultType, here, declared⟩
    exact ⟨resultType, List.mem_zipIdx_iff_getElem?.mpr here, declared⟩

theorem nodup_pending_start : (start suffix given).pending.Nodup := by
  unfold start
  refine ((List.filter_sublist (l := given.zipIdx)).map Prod.snd).nodup ?_
  rw [List.zipIdx_map_snd]
  exact List.nodup_range' _

theorem reaches_run (suffix : String) (given : List ResultType) :
    Reaches suffix (start suffix given) (run suffix given) :=
  reaches_rounds nodup_pending_start _ _ .refl

/-- At the end of a run no pending collection is ready. -/
theorem ready?_run_eq_none {position : Nat} (pending : position ∈ (run suffix given).pending) :
    (run suffix given).ready? position = none :=
  ready?_rounds_eq_none _ _ (Nat.le_refl _) position pending

@[simp] theorem identifier_nameProvisionally (suffix : String) (resultType : ResultType) :
    (resultType.nameProvisionally suffix).identifier = resultType.identifier := by
  unfold ResultType.nameProvisionally
  split
  · split <;> rfl
  · rfl

@[simp] theorem collection_nameProvisionally (suffix : String) (resultType : ResultType) :
    (resultType.nameProvisionally suffix).collection = resultType.collection := by
  unfold ResultType.nameProvisionally
  split
  · split <;> simp_all
  · simp_all

@[simp] theorem views_nameProvisionally (suffix : String) (resultType : ResultType) :
    (resultType.nameProvisionally suffix).views = resultType.views := by
  unfold ResultType.nameProvisionally
  split
  · split <;> rfl
  · rfl

/-! ## What every run keeps -/

theorem Reaches.length_resultTypes {naming reached : Naming} (reaches : Reaches suffix naming reached) :
    reached.resultTypes.length = naming.resultTypes.length := by
  induction reaches with
  | refl => rfl
  | @step reached position _ _ inductionHypothesis =>
      rcases settle_cases suffix reached position with ⟨_, same⟩ | ⟨_, _, _, ⟨_, taken⟩ | ⟨_, named⟩⟩
      · rw [same, inductionHypothesis]
      · rw [taken]
        exact inductionHypothesis
      · rw [named]
        simpa using inductionHypothesis

/-- Identifiers stay distinct: a collection takes only an identifier that no other result type has. -/
theorem Reaches.nodup_identifiers {naming reached : Naming} (reaches : Reaches suffix naming reached)
    (distinct : (naming.resultTypes.map (·.identifier)).Nodup) :
    (reached.resultTypes.map (·.identifier)).Nodup := by
  induction reaches with
  | refl => exact distinct
  | @step reached position _ _ inductionHypothesis =>
      rcases settle_cases suffix reached position with ⟨_, same⟩ | ⟨collection, element, _, ⟨_, taken⟩ | ⟨free, named⟩⟩
      · rw [same]
        exact inductionHypothesis
      · rw [taken]
        exact inductionHypothesis
      · rw [named]
        simp only [List.map_set]
        refine nodup_set inductionHypothesis ?_
        intro other elsewhere found
        rw [List.getElem?_map] at found
        obtain ⟨resultType, here, same⟩ := Option.map_eq_some_iff.mp found
        have taken := isTaken_eq_true_iff.mpr ⟨other, resultType, elsewhere, here, same⟩
        have sameIdentifier : (collection.nameAfter element suffix).identifier =
            ResultType.collectionIdentifier element.identifier := rfl
        rw [sameIdentifier, free] at taken
        cases taken

/-- Whatever a step respects, for the collection that it names, holds between each result type at the beginning and at
the end of a run. -/
theorem Reaches.related (relation : ResultType → ResultType → Prop)
    (reflexive : ∀ resultType, relation resultType resultType)
    (named : ∀ before collection element, relation before collection →
      relation before (collection.nameAfter element suffix))
    {naming reached : Naming} (reaches : Reaches suffix naming reached) {position : Nat} {before after : ResultType}
    (atStart : naming.resultTypes[position]? = some before) (atEnd : reached.resultTypes[position]? = some after) :
    relation before after := by
  induction reaches generalizing after with
  | refl =>
      rw [atStart] at atEnd
      cases atEnd
      exact reflexive before
  | @step reached place _ _ inductionHypothesis =>
      rcases settle_cases suffix reached place with ⟨_, same⟩ | ⟨collection, element, ready, ⟨_, taken⟩ | ⟨_, set⟩⟩
      · rw [same] at atEnd
        exact inductionHypothesis atEnd
      · rw [taken] at atEnd
        exact inductionHypothesis atEnd
      · rw [set] at atEnd
        by_cases here : place = position
        · subst here
          obtain ⟨there, _⟩ := ready?_eq_some ready
          rw [List.getElem?_set_self (List.getElem?_eq_some_iff.mp there).1] at atEnd
          cases atEnd
          exact named before collection element (inductionHypothesis there)
        · rw [List.getElem?_set_ne here] at atEnd
          exact inductionHypothesis atEnd

/-- Naming changes no views. -/
theorem views_run {position : Nat} {before after : ResultType} (givenHere : given[position]? = some before)
    (here : (run suffix given).resultTypes[position]? = some after) : after.views = before.views := by
  have atStart : (start suffix given).resultTypes[position]? = some (before.nameProvisionally suffix) := by
    simp [start, givenHere]
  rw [← views_nameProvisionally suffix before]
  exact (reaches_run suffix given).related (fun before after => after.views = before.views) (fun _ => rfl)
    (fun _ _ _ same => same) atStart here

end Naming

end ApiDesign
