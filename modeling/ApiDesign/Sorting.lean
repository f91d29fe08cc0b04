/-!
Contract: stable sorting by structural recursion.

`sortBy` inserts the items one by one into their sorted rest. An item goes in front of the first one that it may
precede, so items which may precede each other keep their order.
-/

namespace ApiDesign

/-- Puts an item in front of the first one that it may precede. -/
def insertBy {α : Type} (mayPrecede : α → α → Bool) (item : α) : List α → List α
  | [] => [item]
  | head :: rest =>
      if mayPrecede item head then item :: head :: rest else head :: insertBy mayPrecede item rest

def sortBy {α : Type} (mayPrecede : α → α → Bool) : List α → List α
  | [] => []
  | item :: rest => insertBy mayPrecede item (sortBy mayPrecede rest)

/-- The items in ascending order of a name they carry. -/
def sortByName {α : Type} (name : α → String) (items : List α) : List α :=
  sortBy (fun left right => decide (name left ≤ name right)) items

end ApiDesign
