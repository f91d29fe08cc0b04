import ApiDesign.Number.Binary64
import ApiDesign.Sorting

/-!
Contract: literal values, as they stand in defaults, examples and enumerations.

Whether a value fits an attribute is decided by the attribute's type, not here. A map keeps its entries in ascending
key order with one entry for each key; `Value.ofEntries` builds such a map from entries in any order.

Owns: the values, their one total order, their shape names and their views.
Does not own: the text of a value (`Value.Text`).
-/

namespace ApiDesign

inductive Value where
  | null
  | bool (truth : Bool)
  | int (number : Int64)
  | float (number : Binary64)
  | text (content : String)
  | bytes (content : List UInt8)
  | array (items : List Value)
  | map (entries : List (Value × Value))
deriving Repr

namespace Value

def shapeName : Value → String
  | .null => "null"
  | .bool _ => "bool"
  | .int _ => "int"
  | .float _ => "float"
  | .text _ => "string"
  | .bytes _ => "bytes"
  | .array _ => "array"
  | .map _ => "map"

/-! ## Order -/

/-- The place of a value's shape among the shapes. -/
def shapeRank : Value → Nat
  | .null => 0
  | .bool _ => 1
  | .int _ => 2
  | .float _ => 3
  | .text _ => 4
  | .bytes _ => 5
  | .array _ => 6
  | .map _ => 7

mutual

/-- The total order of values. Values of different shapes stand in the order of their shapes; texts are ordered by
code points, floats by their rank, sequences and maps by their first difference. -/
def compare : Value → Value → Ordering
  | .bool left, .bool right => Ord.compare left right
  | .int left, .int right => Ord.compare left.toInt right.toInt
  | .float left, .float right => Binary64.compare left right
  | .text left, .text right => Ord.compare left right
  | .bytes left, .bytes right => Ord.compare left right
  | .array left, .array right => compareItems left right
  | .map left, .map right => compareEntries left right
  | left, right => Ord.compare left.shapeRank right.shapeRank

/-- Sequences by their first difference; a beginning stands before what it begins. -/
def compareItems : List Value → List Value → Ordering
  | [], [] => .eq
  | [], _ :: _ => .lt
  | _ :: _, [] => .gt
  | left :: lefts, right :: rights => (compare left right).then (compareItems lefts rights)

/-- Entries by their first difference, the key before the value. -/
def compareEntries : List (Value × Value) → List (Value × Value) → Ordering
  | [], [] => .eq
  | [], _ :: _ => .lt
  | _ :: _, [] => .gt
  | (leftKey, left) :: lefts, (rightKey, right) :: rights =>
      ((compare leftKey rightKey).then (compare left right)).then (compareEntries lefts rights)

end

/-- Whether two values are the same value. -/
def same (left right : Value) : Bool := compare left right == .eq

/-! ## Maps -/

/-- Puts an entry into its place in ascending entries. An entry with an equal key gives way, key and value. -/
def insertEntry (key value : Value) : List (Value × Value) → List (Value × Value)
  | [] => [(key, value)]
  | (otherKey, other) :: rest =>
      match compare key otherKey with
      | .lt => (key, value) :: (otherKey, other) :: rest
      | .eq => (key, value) :: rest
      | .gt => (otherKey, other) :: insertEntry key value rest

/-- The map of some entries, put in one after the other. -/
def ofEntries (entries : List (Value × Value)) : Value :=
  .map (entries.foldl (fun built (key, value) => insertEntry key value built) [])

/-! ## Views -/

def isNull : Value → Bool
  | .null => true
  | _ => false

def bool? : Value → Option Bool
  | .bool truth => some truth
  | _ => none

def int? : Value → Option Int64
  | .int number => some number
  | _ => none

/-- The number as a float; an integer is rounded to the nearest one. -/
def number? : Value → Option Binary64
  | .int number => some (Binary64.ofInt number.toInt)
  | .float number => some number
  | _ => none

def text? : Value → Option String
  | .text content => some content
  | _ => none

def array? : Value → Option (List Value)
  | .array items => some items
  | _ => none

def map? : Value → Option (List (Value × Value))
  | .map entries => some entries
  | _ => none

/-! ## Several values -/

/-- Whether one value stands before another one or is the same. -/
def atMost (left right : Value) : Bool := compare left right != .gt

/-- The values without those that are the same as an earlier one. -/
def distinct (values : List Value) : List Value :=
  values.foldl (fun kept value => if kept.any (same value) then kept else kept ++ [value]) []

/-- The positions of values in ascending order of the values; equal values keep their order. -/
def sortedPositions (values : List Value) : List Nat :=
  (sortBy (fun left right => atMost left.1 right.1) values.zipIdx).map Prod.snd

end Value

end ApiDesign
