import ApiDesign.Model.Search

/-!
Contract: over strictly ascending names the binary search finds what a search through all items finds.

Owns: completeness of `searchWithin`, and `search?` as a `find?`.
Does not own: what is found without an order (`Model.Search`), why the arenas of a model are ascending.
-/

namespace ApiDesign

section Searching

variable {α : Type} {name : α → String} {items : Array α} {wanted : String}

/-- Items of the same name stand at the same place. -/
theorem position_unique_of_ascending
    (ascending : items.toList.Pairwise fun left right => name left < name right)
    {first second : Nat} {left right : α} (atFirst : items[first]? = some left)
    (atSecond : items[second]? = some right) (same : name left = name right) : first = second := by
  rw [← Array.getElem?_toList] at atFirst atSecond
  obtain ⟨firstBelow, firstItem⟩ := List.getElem?_eq_some_iff.mp atFirst
  obtain ⟨secondBelow, secondItem⟩ := List.getElem?_eq_some_iff.mp atSecond
  rw [List.pairwise_iff_getElem] at ascending
  rcases Nat.lt_trichotomy first second with before | equal | after
  · have less := ascending first second firstBelow secondBelow before
    rw [firstItem, secondItem, same] at less
    exact absurd less (String.lt_irrefl _)
  · exact equal
  · have less := ascending second first secondBelow firstBelow after
    rw [firstItem, secondItem, same] at less
    exact absurd less (String.lt_irrefl _)

/-- An item between the two places is found. Each halving drops only items whose names lie on the other side of the
wanted one. -/
theorem searchWithin_eq_some
    (ascending : items.toList.Pairwise fun left right => name left < name right)
    {steps low high position : Nat} {item : α} (atPosition : items[position]? = some item)
    (named : name item = wanted) (fromLow : low ≤ position) (belowHigh : position < high)
    (inside : high ≤ items.size) (enough : high - low ≤ steps) :
    searchWithin name items wanted steps low high = some position := by
  induction steps generalizing low high with
  | zero => omega
  | succ steps inductionHypothesis =>
      unfold searchWithin
      rw [if_pos (by omega)]
      obtain ⟨positionBelow, itemIs⟩ := Array.getElem?_eq_some_iff.mp atPosition
      have middleBelow : (low + high) / 2 < items.size := by omega
      simp only [Array.getElem?_eq_getElem middleBelow]
      have ordered := List.pairwise_iff_getElem.mp ascending
      simp only [Array.getElem_toList, Array.length_toList] at ordered
      by_cases same : name items[(low + high) / 2] = wanted
      · rw [if_pos same]
        have equal := position_unique_of_ascending ascending (Array.getElem?_eq_getElem middleBelow) atPosition
          (same.trans named.symm)
        rw [equal]
      · rw [if_neg same]
        by_cases below : name items[(low + high) / 2] < wanted
        · rw [if_pos below]
          have right : (low + high) / 2 < position := by
            rcases Nat.lt_trichotomy ((low + high) / 2) position with before | equal | after
            · exact before
            · subst equal
              exact absurd (itemIs ▸ named) same
            · have less := ordered position _ positionBelow middleBelow after
              rw [itemIs, named] at less
              exact absurd (String.lt_trans less below) (String.lt_irrefl _)
          exact inductionHypothesis (by omega) belowHigh inside (by omega)
        · rw [if_neg below]
          have left : position < (low + high) / 2 := by
            rcases Nat.lt_trichotomy ((low + high) / 2) position with before | equal | after
            · have less := ordered _ position middleBelow positionBelow before
              rw [itemIs, named] at less
              exact absurd less below
            · subst equal
              exact absurd (itemIs ▸ named) same
            · exact after
          exact inductionHypothesis fromLow left (by omega) (by omega)

/-- Over ascending names the binary search answers as a search from the beginning does. -/
theorem search?_eq_find?
    (ascending : items.toList.Pairwise fun left right => name left < name right) :
    search? name items wanted = items.find? fun item => name item == wanted := by
  cases found : items.find? fun item => name item == wanted with
  | none =>
      cases searched : search? name items wanted with
      | none => rfl
      | some item =>
          obtain ⟨member, named⟩ := mem_of_search? searched
          have refused := Array.find?_eq_none.mp found item member
          simp [named] at refused
  | some item =>
      have named : name item = wanted := by simpa using Array.find?_some found
      obtain ⟨position, below, itemIs⟩ := Array.mem_iff_getElem.mp (Array.mem_of_find?_eq_some found)
      have atPosition : items[position]? = some item := by rw [Array.getElem?_eq_getElem below, itemIs]
      have place : searchPosition? name items wanted = some position :=
        searchWithin_eq_some ascending atPosition named (Nat.zero_le _) below (Nat.le_refl _) (Nat.le_refl _)
      rw [search?, place]
      exact atPosition

end Searching

end ApiDesign
