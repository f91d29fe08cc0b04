import ApiDesign.Sorting

/-!
Contract: sorting loses nothing and is stable; by name, it puts the names in ascending order.

Owns: `sortBy` as a permutation, its order, and the independence of `sortByName` of the order in which the items came
when their names are distinct.
-/

namespace ApiDesign

/-! ## Permutation -/

theorem insertBy_perm {α : Type} (mayPrecede : α → α → Bool) (item : α) (items : List α) :
    (insertBy mayPrecede item items).Perm (item :: items) := by
  induction items with
  | nil => exact List.Perm.refl _
  | cons head rest inductionHypothesis =>
      unfold insertBy
      split
      · exact List.Perm.refl _
      · exact (inductionHypothesis.cons head).trans (List.Perm.swap item head rest)

theorem sortBy_perm {α : Type} (mayPrecede : α → α → Bool) (items : List α) :
    (sortBy mayPrecede items).Perm items := by
  induction items with
  | nil => exact List.Perm.refl _
  | cons head rest inductionHypothesis =>
      unfold sortBy
      exact (insertBy_perm mayPrecede head _).trans (inductionHypothesis.cons head)

/-- Sorting by name neither loses nor adds an item. -/
theorem sortByName_perm {α : Type} (name : α → String) (items : List α) :
    (sortByName name items).Perm items :=
  sortBy_perm _ items

@[simp] theorem mem_sortByName {α : Type} {name : α → String} {items : List α} {item : α} :
    item ∈ sortByName name items ↔ item ∈ items :=
  (sortByName_perm name items).mem_iff

/-! ## Order -/

section Order

variable {α : Type} {mayPrecede : α → α → Bool} {cameFirst : α → α → Prop}

/-- One item stands before another one in a stable order: it may precede it, and if either may precede the other, it
came first. -/
structure StablyPrecedes (mayPrecede : α → α → Bool) (cameFirst : α → α → Prop) (left right : α) : Prop where
  precedes : mayPrecede left right = true
  tie : mayPrecede right left = true → cameFirst left right

variable (total : ∀ left right, mayPrecede left right = true ∨ mayPrecede right left = true)
  (transitive : ∀ first second third, mayPrecede first second = true → mayPrecede second third = true →
    mayPrecede first third = true)

include total transitive

/-- Inserting an item that came before all others keeps a stable order: it stops in front of the first one that it may
precede. -/
theorem pairwise_insertBy {item : α} {items : List α} (came : ∀ other ∈ items, cameFirst item other)
    (sorted : items.Pairwise (StablyPrecedes mayPrecede cameFirst)) :
    (insertBy mayPrecede item items).Pairwise (StablyPrecedes mayPrecede cameFirst) := by
  induction items with
  | nil => exact List.pairwise_singleton _ _
  | cons head rest inductionHypothesis =>
      obtain ⟨headFirst, restSorted⟩ := List.pairwise_cons.mp sorted
      obtain ⟨beforeHead, beforeRest⟩ := List.forall_mem_cons.mp came
      unfold insertBy
      split
      case isTrue precedes =>
        refine List.Pairwise.cons (List.forall_mem_cons.mpr ⟨⟨precedes, fun _ => beforeHead⟩, ?_⟩) sorted
        intro other member
        exact ⟨transitive _ _ _ precedes (headFirst other member).precedes, fun _ => beforeRest other member⟩
      case isFalse goesOn =>
        refine List.Pairwise.cons ?_ (inductionHypothesis beforeRest restSorted)
        intro other member
        rcases List.mem_cons.mp ((insertBy_perm _ item rest).mem_iff.mp member) with same | inRest
        · rw [same]
          exact ⟨(total item head).resolve_left goesOn, fun precedes => absurd precedes goesOn⟩
        · exact headFirst other inRest

/-- Sorting is stable, whatever the order is in which the items came. -/
theorem pairwise_sortBy {items : List α} (came : items.Pairwise cameFirst) :
    (sortBy mayPrecede items).Pairwise (StablyPrecedes mayPrecede cameFirst) := by
  induction items with
  | nil => exact List.Pairwise.nil
  | cons head rest inductionHypothesis =>
      obtain ⟨headCame, restCame⟩ := List.pairwise_cons.mp came
      refine pairwise_insertBy total transitive ?_ (inductionHypothesis restCame)
      exact fun other member => headCame other ((sortBy_perm mayPrecede rest).mem_iff.mp member)

end Order

/-- Sorting by name puts the names in ascending order. -/
theorem pairwise_sortByName {α : Type} (name : α → String) (items : List α) :
    (sortByName name items).Pairwise fun left right => name left ≤ name right := by
  unfold sortByName
  refine (pairwise_sortBy ?total ?transitive (List.pairwise_of_forall fun _ _ => trivial)).imp fun ordered =>
    of_decide_eq_true ordered.precedes
  case total =>
    intro left right
    simpa using String.le_total (name left) (name right)
  case transitive =>
    intro first second third before after
    simp only [decide_eq_true_eq] at before after ⊢
    exact String.le_trans before after

/-- Distinct names stand in strictly ascending order. -/
theorem pairwise_lt_sortByName {α : Type} (name : α → String) (items : List α)
    (distinct : (items.map name).Nodup) :
    (sortByName name items).Pairwise fun left right => name left < name right := by
  have different : (sortByName name items).Pairwise fun left right => name left ≠ name right :=
    List.pairwise_map.mp (((sortByName_perm name items).map name).nodup_iff.mpr distinct)
  refine ((pairwise_sortByName name items).and different).imp ?_
  intro left right both
  rw [← String.not_le]
  intro backwards
  exact both.2 (String.le_antisymm both.1 backwards)

/-- Items with distinct names are in the same order after sorting, in whatever order they came. -/
theorem sortByName_eq_of_perm {α : Type} {name : α → String} {left right : List α}
    (permutation : left.Perm right) (distinct : (left.map name).Nodup) :
    sortByName name left = sortByName name right := by
  have sorted : (sortByName name left).Perm (sortByName name right) :=
    (sortByName_perm name left).trans (permutation.trans (sortByName_perm name right).symm)
  refine sorted.eq_of_pairwise ?_ (pairwise_lt_sortByName name left distinct)
    (pairwise_lt_sortByName name right ((permutation.map name).nodup_iff.mp distinct))
  intro first second _ _ before after
  exact absurd (String.lt_trans before after) (String.lt_irrefl _)

/-- Items that are left out of the sorted ones may as well be left out before. -/
theorem filter_sortByName {α : Type} {name : α → String} (keep : α → Bool) {items : List α}
    (distinct : (items.map name).Nodup) :
    (sortByName name items).filter keep = sortByName name (items.filter keep) := by
  have permutation : ((sortByName name items).filter keep).Perm (sortByName name (items.filter keep)) :=
    ((sortByName_perm name items).filter keep).trans (sortByName_perm name _).symm
  refine permutation.eq_of_pairwise ?_ ((pairwise_lt_sortByName name items distinct).filter keep)
    (pairwise_lt_sortByName name _ (distinct.sublist (List.filter_sublist.map name)))
  intro first second _ _ before after
  exact absurd (String.lt_trans before after) (String.lt_irrefl _)

end ApiDesign
