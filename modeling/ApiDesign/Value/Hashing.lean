import ApiDesign.Value.Basic

/-!
Contract: what a value feeds to a hasher.

A value feeds its shape and then its content. A sequence feeds its items and a map its keys and values, each followed
by nothing: how many there are is not fed, so values of different nesting may feed the same.

Does not own: the hasher, which makes a code of what it is fed.
-/

namespace ApiDesign

/-- One piece that a hasher is fed. -/
inductive HashWrite where
  | shape (rank : Nat)
  | bool (truth : Bool)
  | int (number : Int64)
  | bits (pattern : UInt64)
  | text (content : String)
  | bytes (content : List UInt8)
deriving DecidableEq, Repr

namespace Value

mutual

/-- What a value feeds, piece after piece. Floats feed their bits. -/
def hashWrites : Value → List HashWrite
  | .null => [.shape Value.null.shapeRank]
  | .bool truth => [.shape (Value.bool truth).shapeRank, .bool truth]
  | .int number => [.shape (Value.int number).shapeRank, .int number]
  | .float number => [.shape (Value.float number).shapeRank, .bits number.bits]
  | .text content => [.shape (Value.text content).shapeRank, .text content]
  | .bytes content => [.shape (Value.bytes content).shapeRank, .bytes content]
  | .array items => .shape (Value.array items).shapeRank :: itemWrites items
  | .map entries => .shape (Value.map entries).shapeRank :: entryWrites entries

/-- What items feed. -/
def itemWrites : List Value → List HashWrite
  | [] => []
  | item :: rest => hashWrites item ++ itemWrites rest

/-- What entries feed, each key before its value. -/
def entryWrites : List (Value × Value) → List HashWrite
  | [] => []
  | (key, value) :: rest => hashWrites key ++ hashWrites value ++ entryWrites rest

end

end Value

end ApiDesign
