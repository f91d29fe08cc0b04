/-!
Contract: binary search for a name among items that stand in ascending order of their names.

Found items have the name that was searched, whatever the order of the items; that every such item is found needs
the order.
-/

namespace ApiDesign

/-- Searches between two places, the second one excluded, for at most `steps` halvings. -/
def searchWithin {α : Type} (name : α → String) (items : Array α) (wanted : String) :
    Nat → Nat → Nat → Option Nat
  | 0, _, _ => none
  | steps + 1, low, high =>
      if low < high then
        let middle := (low + high) / 2
        match items[middle]? with
        | none => none
        | some item =>
            if name item = wanted then some middle
            else if name item < wanted then searchWithin name items wanted steps (middle + 1) high
            else searchWithin name items wanted steps low middle
      else none

/-- The place of an item of a name. Each halving leaves out at least one item, so as many as there are items
suffice. -/
def searchPosition? {α : Type} (name : α → String) (items : Array α) (wanted : String) : Option Nat :=
  searchWithin name items wanted items.size 0 items.size

/-- The item of a name. -/
def search? {α : Type} (name : α → String) (items : Array α) (wanted : String) : Option α :=
  (searchPosition? name items wanted).bind fun position => items[position]?

/-- A place that is found holds an item of the name. -/
theorem name_of_searchWithin {α : Type} {name : α → String} {items : Array α} {wanted : String}
    {steps low high position : Nat} (found : searchWithin name items wanted steps low high = some position) :
    ∃ item, items[position]? = some item ∧ name item = wanted := by
  induction steps generalizing low high with
  | zero => simp [searchWithin] at found
  | succ steps inductionHypothesis =>
      simp only [searchWithin] at found
      split at found
      · split at found
        · simp at found
        · rename_i item atMiddle
          split at found
          · rename_i same
            simp only [Option.some.injEq] at found
            subst found
            exact ⟨item, atMiddle, same⟩
          · split at found
            · exact inductionHypothesis found
            · exact inductionHypothesis found
      · simp at found

/-- An item that is found is one of the items and has the name. -/
theorem mem_of_search? {α : Type} {name : α → String} {items : Array α} {wanted : String} {item : α}
    (found : search? name items wanted = some item) : item ∈ items ∧ name item = wanted := by
  obtain ⟨position, foundPosition, atPosition⟩ := Option.bind_eq_some_iff.mp found
  obtain ⟨other, otherAtPosition, sameName⟩ := name_of_searchWithin foundPosition
  rw [atPosition] at otherAtPosition
  simp only [Option.some.injEq] at otherAtPosition
  subst otherAtPosition
  exact ⟨Array.mem_of_getElem? atPosition, sameName⟩

end ApiDesign
