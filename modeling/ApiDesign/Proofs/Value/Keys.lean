import ApiDesign.Proofs.Sorting
import ApiDesign.Proofs.Value.Order
import ApiDesign.Value.Hashing
import Mathlib.Data.List.Induction

/-!
Contract: values may be the keys of maps, of ordered ones and of hashed ones, the members of sets, and sorted.

The order is total and tells apart all that differs, so being the same is equality; what is equal feeds a hasher the
same. Putting an entry into ascending entries keeps them ascending and changes what is held for its key only, so
a map holds for each key what was put in last. A set holds each value once, and only one order of the positions of
values is ascending and leaves equal values in the order in which they came.

Owns: `IsTotalOrder`, `Value.IsAscending`, `Value.IsLastEntry`, the laws of `Value.same`, `Value.ofEntries`,
`Value.distinct` and `Value.sortedPositions`.
Does not own: the laws of the comparison one by one (`Proofs.Value.Order`).
-/

namespace ApiDesign

open Std (LawfulEqCmp OrientedCmp TransCmp)

/-- A comparison that puts all things into one line, equal ones and no others at one place. -/
structure IsTotalOrder {α : Type} (order : α → α → Ordering) : Prop where
  reversed : ∀ left right, order right left = (order left right).swap
  total : ∀ left right, order left right ≠ .gt ∨ order right left ≠ .gt
  transitive : ∀ first second third, order first second ≠ .gt → order second third ≠ .gt → order first third ≠ .gt
  antisymmetric : ∀ left right, order left right ≠ .gt → order right left ≠ .gt → left = right
  eq_iff : ∀ left right, order left right = .eq ↔ left = right

theorem IsTotalOrder.of_laws {α : Type} {order : α → α → Ordering} [TransCmp order] [LawfulEqCmp order] :
    IsTotalOrder order where
  reversed _ _ := OrientedCmp.eq_swap
  total left right := by
    have reversed : order right left = (order left right).swap := OrientedCmp.eq_swap
    rw [reversed]
    cases order left right <;> decide
  transitive first second third := by
    simp only [← Ordering.isLE_iff_ne_gt]
    exact TransCmp.isLE_trans
  antisymmetric left right before after := by
    have same := OrientedCmp.isLE_antisymm (Ordering.isLE_iff_ne_gt.mpr before) (Ordering.isLE_iff_ne_gt.mpr after)
    exact LawfulEqCmp.eq_of_compare same
  eq_iff _ _ := LawfulEqCmp.compare_eq_iff_eq

theorem Binary64.eq_iff_bits {left right : Binary64} : left = right ↔ left.bits = right.bits := by
  cases left
  cases right
  rw [Binary64.mk.injEq]

namespace Value

@[simp] theorem same_iff {left right : Value} : same left right = true ↔ left = right := by
  rw [same, beq_iff_eq]
  exact LawfulEqCmp.compare_eq_iff_eq

/-! ## Hashing -/

/-- Whether a value holds no further values. -/
def IsFlat (value : Value) : Prop := value.array? = none ∧ value.map? = none

/-- The first thing that a value feeds is its shape. -/
theorem head?_hashWrites (value : Value) : value.hashWrites.head? = some (.shape value.shapeRank) := by
  cases value <;> rfl

/-- A value that holds no further values is known from what it feeds. -/
theorem IsFlat.eq_of_hashWrites {left right : Value} (leftFlat : left.IsFlat) (rightFlat : right.IsFlat)
    (sameWrites : left.hashWrites = right.hashWrites) : left = right := by
  have sameRank : left.shapeRank = right.shapeRank := by
    have sameFirst := congrArg List.head? sameWrites
    rw [head?_hashWrites, head?_hashWrites, Option.some.injEq, HashWrite.shape.injEq] at sameFirst
    exact sameFirst
  cases left with
  | null =>
      cases right with
      | null => rfl
      | _ => cases sameRank
  | bool truth =>
      cases right with
      | bool other => simpa [hashWrites, shapeRank] using sameWrites
      | _ => cases sameRank
  | int number =>
      cases right with
      | int other => simpa [hashWrites, shapeRank] using sameWrites
      | _ => cases sameRank
  | float number =>
      cases right with
      | float other => simpa [hashWrites, shapeRank, Binary64.eq_iff_bits] using sameWrites
      | _ => cases sameRank
  | text content =>
      cases right with
      | text other => simpa [hashWrites, shapeRank] using sameWrites
      | _ => cases sameRank
  | bytes content =>
      cases right with
      | bytes other => simpa [hashWrites, shapeRank] using sameWrites
      | _ => cases sameRank
  | array items => cases leftFlat.1
  | map entries => cases leftFlat.2

/-- How values are nested is not fed, so one that holds others is not known from what it feeds. -/
example : (Value.array [.array [], .null]).hashWrites = (Value.array [.array [.null]]).hashWrites := rfl

/-! ## Maps -/

/-- Entries in ascending order of their keys, which leaves each key one entry. -/
def IsAscending (entries : List (Value × Value)) : Prop :=
  entries.Pairwise fun before after => compare before.1 after.1 = .lt

theorem IsAscending.lt_of_lt_head {head : Value × Value} {rest : List (Value × Value)}
    (ascending : IsAscending (head :: rest)) {key : Value} (before : compare key head.1 = .lt) :
    ∀ other ∈ head :: rest, compare key other.1 = .lt := by
  intro other member
  rcases List.mem_cons.mp member with same | inRest
  · rw [same]
    exact before
  · exact compare_lt_trans _ _ _ before (List.rel_of_pairwise_cons ascending inRest)

theorem ne_of_compare_lt {left right : Value} (before : compare left right = .lt) : right ≠ left := by
  intro same
  rw [same, compare_self] at before
  cases before

/-- What is held after an entry was put in: the entry, and what was held for other keys. -/
theorem mem_insertEntry {entries : List (Value × Value)} (ascending : IsAscending entries)
    {key value : Value} {entry : Value × Value} :
    entry ∈ insertEntry key value entries ↔ entry = (key, value) ∨ entry.1 ≠ key ∧ entry ∈ entries := by
  induction entries with
  | nil => simp [insertEntry]
  | cons head rest inductionHypothesis =>
      obtain ⟨headFirst, restAscending⟩ := List.pairwise_cons.mp ascending
      cases place : compare key head.1 with
      | lt =>
          have others : entry ∈ head :: rest → entry.1 ≠ key :=
            fun member => ne_of_compare_lt (ascending.lt_of_lt_head place entry member)
          rw [insertEntry, place, List.mem_cons, and_iff_right_of_imp others]
      | eq =>
          have sameKey : key = head.1 := eq_of_compare _ _ place
          have headGone : entry.1 ≠ key ∧ entry ∈ head :: rest ↔ entry ∈ rest := by
            rw [List.mem_cons, sameKey]
            constructor
            · rintro ⟨different, isHead | member⟩
              · exact absurd (congrArg Prod.fst isHead) different
              · exact member
            · exact fun member => ⟨ne_of_compare_lt (headFirst entry member), .inr member⟩
          rw [insertEntry, place, List.mem_cons, headGone]
      | gt =>
          have headStays : head.1 ≠ key := (ne_of_compare_lt (OrientedCmp.lt_of_gt place)).symm
          rw [insertEntry, place, List.mem_cons, List.mem_cons, inductionHypothesis restAscending]
          constructor
          · rintro (isHead | isEntry | ⟨different, member⟩)
            · exact .inr ⟨isHead ▸ headStays, .inl isHead⟩
            · exact .inl isEntry
            · exact .inr ⟨different, .inr member⟩
          · rintro (isEntry | ⟨different, isHead | member⟩)
            · exact .inr (.inl isEntry)
            · exact .inl isHead
            · exact .inr (.inr ⟨different, member⟩)

theorem isAscending_insertEntry {entries : List (Value × Value)} (ascending : IsAscending entries)
    (key value : Value) : IsAscending (insertEntry key value entries) := by
  induction entries with
  | nil => exact List.pairwise_singleton _ _
  | cons head rest inductionHypothesis =>
      obtain ⟨headFirst, restAscending⟩ := List.pairwise_cons.mp ascending
      cases place : compare key head.1 with
      | lt =>
          rw [insertEntry, place]
          exact List.Pairwise.cons (ascending.lt_of_lt_head place) ascending
      | eq =>
          rw [insertEntry, place]
          refine List.Pairwise.cons (fun other member => ?_) restAscending
          rw [eq_of_compare _ _ place]
          exact headFirst other member
      | gt =>
          rw [insertEntry, place]
          refine List.Pairwise.cons (fun other member => ?_) (inductionHypothesis restAscending)
          rcases (mem_insertEntry restAscending).mp member with same | ⟨_, inRest⟩
          · rw [same]
            exact OrientedCmp.lt_of_gt place
          · exact headFirst other inRest

/-- Whether an entry is the last one given for its key. -/
def IsLastEntry (entries : List (Value × Value)) (entry : Value × Value) : Prop :=
  ∃ before after, entries = before ++ entry :: after ∧ ∀ later ∈ after, later.1 ≠ entry.1

theorem isLastEntry_concat {entries : List (Value × Value)} {given entry : Value × Value} :
    IsLastEntry (entries ++ [given]) entry ↔ entry = given ∨ entry.1 ≠ given.1 ∧ IsLastEntry entries entry := by
  constructor
  · rintro ⟨before, after, parts, last⟩
    rcases List.eq_nil_or_concat after with rfl | ⟨front, final, rfl⟩
    · exact .inl (List.singleton_inj.mp (List.append_inj_right' parts rfl)).symm
    · have regrouped : entries ++ [given] = (before ++ entry :: front) ++ [final] := by simpa using parts
      obtain ⟨sameFront, sameFinal⟩ := List.append_inj' regrouped rfl
      rw [List.concat_eq_append, List.forall_mem_append, List.forall_mem_singleton,
        ← List.singleton_inj.mp sameFinal] at last
      exact .inr ⟨last.2.symm, before, front, sameFront, last.1⟩
  · rintro (rfl | ⟨different, before, after, rfl, last⟩)
    · exact ⟨entries, [], rfl, fun _ member => nomatch member⟩
    · refine ⟨before, after ++ [given], by simp, ?_⟩
      simp only [List.forall_mem_append, List.forall_mem_singleton]
      exact ⟨last, different.symm⟩

/-- The entries that are built one after the other are ascending, and each key holds what was given for it last. -/
theorem ofEntries_spec (entries : List (Value × Value)) :
    ∃ kept, ofEntries entries = .map kept ∧ IsAscending kept ∧ ∀ entry, entry ∈ kept ↔ IsLastEntry entries entry := by
  refine ⟨_, rfl, ?_⟩
  induction entries using List.reverseRecOn with
  | nil => exact ⟨List.Pairwise.nil, fun entry => by simp [IsLastEntry]⟩
  | append_singleton entries given inductionHypothesis =>
      obtain ⟨ascending, held⟩ := inductionHypothesis
      rw [List.foldl_append, List.foldl_cons, List.foldl_nil]
      refine ⟨isAscending_insertEntry ascending given.1 given.2, fun entry => ?_⟩
      rw [mem_insertEntry ascending, held, isLastEntry_concat]

/-- **The order of values.** It is total, and two values stand at one place exactly if they are the same value, floats
bit by bit. So being the same is an equivalence; the same value feeds a hasher the same, and a value that holds no
others is known from what it feeds; and values may be keys: however many entries are put into a map and in whatever
order, its keys are strictly ascending and each of them has the value that was given for it last. -/
theorem isTotalOrder_compare :
    IsTotalOrder compare ∧ Equivalence (fun left right => same left right = true) ∧
      (∀ left right, same left right = true → left.hashWrites = right.hashWrites) ∧
      (∀ left right : Value, left.IsFlat → right.IsFlat → left.hashWrites = right.hashWrites →
        same left right = true) ∧
      ∀ entries, ∃ kept, ofEntries entries = .map kept ∧ IsAscending kept ∧
        ∀ entry, entry ∈ kept ↔ IsLastEntry entries entry := by
  refine ⟨.of_laws, ?_, ?_, ?_, ofEntries_spec⟩
  · simp only [same_iff]
    exact ⟨fun _ => rfl, Eq.symm, Eq.trans⟩
  · intro left right isSame
    rw [same_iff.mp isSame]
  · intro left right leftFlat rightFlat sameWrites
    exact same_iff.mpr (leftFlat.eq_of_hashWrites rightFlat sameWrites)

/-! ## Sets -/

theorem any_same_iff {kept : List Value} {value : Value} : kept.any (same value) = true ↔ value ∈ kept := by
  simp only [List.any_eq_true, same_iff, exists_eq_right']

theorem distinct_concat (values : List Value) (value : Value) :
    distinct (values ++ [value]) =
      if (distinct values).any (same value) then distinct values else distinct values ++ [value] := by
  rw [distinct, List.foldl_append]
  rfl

/-- A set of values holds exactly these, each of them once and in an order in which they came. -/
theorem distinct_spec (values : List Value) :
    (distinct values).Nodup ∧ (distinct values).Sublist values ∧ ∀ value, value ∈ distinct values ↔ value ∈ values := by
  induction values using List.reverseRecOn with
  | nil => exact ⟨List.nodup_nil, List.Sublist.refl _, fun _ => Iff.rfl⟩
  | append_singleton values given inductionHypothesis =>
      obtain ⟨nodup, sublist, members⟩ := inductionHypothesis
      rw [distinct_concat]
      by_cases known : given ∈ distinct values
      · rw [if_pos (any_same_iff.mpr known)]
        refine ⟨nodup, sublist.trans (List.sublist_append_left _ _), fun value => ?_⟩
        rw [members, List.mem_append, List.mem_singleton]
        exact ⟨.inl, fun either => either.elim id fun isGiven => isGiven ▸ (members given).mp known⟩
      · rw [if_neg (mt any_same_iff.mp known)]
        refine ⟨?_, sublist.append_right _, fun value => ?_⟩
        · refine List.nodup_append.mpr ⟨nodup, List.pairwise_singleton _ _, fun value member other isGiven same => ?_⟩
          rw [same, List.mem_singleton.mp isGiven] at member
          exact known member
        · rw [List.mem_append, List.mem_append, members]

/-- Sets of the same values hold equally many, however often and in whatever order these were put in. -/
theorem distinct_perm {left right : List Value} (sameValues : ∀ value, value ∈ left ↔ value ∈ right) :
    (distinct left).Perm (distinct right) := by
  obtain ⟨leftNodup, _, leftMembers⟩ := distinct_spec left
  obtain ⟨rightNodup, _, rightMembers⟩ := distinct_spec right
  refine (List.perm_ext_iff_of_nodup leftNodup rightNodup).mpr fun value => ?_
  rw [leftMembers, rightMembers, sameValues]

/-! ## Sorting -/

/-- The value at one position stands before the one at another: it is less, or the same and came first. -/
def StandsBefore (values : List Value) (left right : Nat) : Prop :=
  ∃ before after, values[left]? = some before ∧ values[right]? = some after ∧
    (compare before after = .lt ∨ before = after ∧ left < right)

theorem StandsBefore.asymm {values : List Value} {left right : Nat} (forwards : StandsBefore values left right) :
    ¬StandsBefore values right left := by
  rintro ⟨last, first, lastHere, firstHere, backwards⟩
  obtain ⟨before, after, beforeHere, afterHere, ordered⟩ := forwards
  rw [beforeHere, Option.some.injEq] at firstHere
  rw [afterHere, Option.some.injEq] at lastHere
  subst firstHere lastHere
  rcases ordered with less | ⟨same, earlier⟩
  · rcases backwards with greater | ⟨same, _⟩
    · exact absurd (compare_lt_trans _ _ _ less greater) (by rw [compare_self]; decide)
    · exact ne_of_compare_lt less same
  · rcases backwards with less | ⟨_, later⟩
    · exact ne_of_compare_lt less same
    · exact Nat.lt_asymm earlier later

theorem atMost_iff {left right : Value} : atMost left right = true ↔ compare left right ≠ .gt := bne_iff_ne

theorem pairwise_sortedPositions (values : List Value) :
    (sortedPositions values).Pairwise (StandsBefore values) := by
  have order : IsTotalOrder compare := .of_laws
  have came : values.zipIdx.Pairwise fun left right => left.2 < right.2 := by
    rw [← List.pairwise_map (f := Prod.snd), List.zipIdx_map_snd]
    exact List.pairwise_lt_range'
  have sorted : (sortBy (fun left right => atMost left.1 right.1) values.zipIdx).Pairwise
      (StablyPrecedes (fun left right => atMost left.1 right.1) fun left right => left.2 < right.2) := by
    refine pairwise_sortBy (fun left right => ?_) (fun first second third => ?_) came
    · simpa only [atMost_iff] using order.total left.1 right.1
    · simpa only [atMost_iff] using order.transitive first.1 second.1 third.1
  rw [sortedPositions, List.pairwise_map]
  refine sorted.imp_of_mem fun {left right} leftMember rightMember ordered => ?_
  rw [(sortBy_perm _ _).mem_iff, List.mem_zipIdx_iff_getElem?] at leftMember rightMember
  refine ⟨left.1, right.1, leftMember, rightMember, ?_⟩
  cases place : compare left.1 right.1 with
  | lt => exact .inl rfl
  | eq =>
      have same : left.1 = right.1 := eq_of_compare _ _ place
      exact .inr ⟨same, ordered.tie (same ▸ ordered.precedes)⟩
  | gt => exact absurd place (atMost_iff.mp ordered.precedes)

/-- The sorted positions are all positions, in the one order in which the values ascend and equal values stay in the
order in which they came. -/
theorem eq_sortedPositions_iff {values : List Value} {positions : List Nat} :
    positions = sortedPositions values ↔
      positions.Perm (List.range values.length) ∧ positions.Pairwise (StandsBefore values) := by
  have all : (sortedPositions values).Perm (List.range values.length) := by
    rw [List.range_eq_range', ← List.zipIdx_map_snd]
    exact (sortBy_perm _ _).map Prod.snd
  constructor
  · rintro rfl
    exact ⟨all, pairwise_sortedPositions values⟩
  · rintro ⟨alsoAll, ordered⟩
    refine (alsoAll.trans all.symm).eq_of_pairwise ?_ ordered (pairwise_sortedPositions values)
    exact fun _ _ _ _ forwards backwards => absurd backwards forwards.asymm

/-- A set of three values that holds two, and the stable order of their positions. -/
example : (distinct [.text "b", .int 1, .text "b"]).length = 2 ∧
    sortedPositions [.text "b", .int 1, .text "b"] = [1, 0, 2] := by
  decide +kernel

end Value

end ApiDesign
