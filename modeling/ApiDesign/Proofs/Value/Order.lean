import ApiDesign.Value.Basic

/-!
Contract: the order of values is a total order, and only equal values stand at one place in it.

Two values of different shapes stand in the order of their shapes, so every law is proved shape by shape. For sequences
and maps it is the law of what they hold, taken at the first difference; the recursion is the one of the comparison.

Owns: the laws of `Binary64.compare` and `Value.compare`, as instances of the laws of a comparison.
Does not own: maps built from entries, hashing (`Proofs.Value.Keys`).
-/

namespace ApiDesign

open Std (LawfulEqCmp LawfulEqOrd OrientedCmp OrientedOrd ReflOrd TransCmp TransOrd)

/-! ## Floats -/

namespace Binary64

/-- The sign and the magnitude make the pattern. -/
theorem toNat_bits (number : Binary64) :
    number.bits.toNat = (if number.isNegative then Nat.pow 2 63 else 0) + number.magnitude := by
  have bounded : number.bits.toNat < 2 * Nat.pow 2 63 := number.bits.toNat_lt
  unfold isNegative magnitude
  by_cases negative : Nat.pow 2 63 ≤ number.bits.toNat
  · rw [if_pos (by simpa using negative), Nat.mod_eq_sub_mod negative, Nat.mod_eq_of_lt (by omega)]
    omega
  · rw [if_neg (by simpa using negative), Nat.mod_eq_of_lt (by omega)]
    omega

theorem isNegative_iff_rank_neg (number : Binary64) : number.isNegative = true ↔ number.rank < 0 := by
  unfold rank
  split
  · exact iff_of_true ‹_› (by omega)
  · exact iff_of_false ‹_› (by omega)

/-- Two patterns of one rank are one pattern. -/
theorem rank_injective {left right : Binary64} (sameRank : left.rank = right.rank) : left = right := by
  have sameSign : left.isNegative = right.isNegative := by
    rw [Bool.eq_iff_iff, isNegative_iff_rank_neg, isNegative_iff_rank_neg, sameRank]
  have sameMagnitude : left.magnitude = right.magnitude := by
    unfold rank at sameRank
    rw [sameSign] at sameRank
    split at sameRank <;> omega
  have sameBits : left.bits.toNat = right.bits.toNat := by
    rw [toNat_bits, toNat_bits, sameSign, sameMagnitude]
  exact congrArg Binary64.mk (UInt64.toNat_inj.mp sameBits)

instance : TransCmp compare where
  eq_swap := OrientedOrd.eq_swap (α := Int)
  isLE_trans := TransOrd.isLE_trans (α := Int)

instance : LawfulEqCmp compare where
  compare_self := ReflOrd.compare_self (α := Int)
  eq_of_compare same := rank_injective (LawfulEqOrd.eq_of_compare same)

end Binary64

namespace Value

/-! ## Reversal -/

mutual

/-- The comparison the other way round has the reversed outcome. -/
theorem compare_swap : (left right : Value) → compare right left = (compare left right).swap
  | .null, right => by cases right <;> rfl
  | .bool truth, right => by
      cases right with
      | bool other => exact OrientedOrd.eq_swap
      | _ => rfl
  | .int number, right => by
      cases right with
      | int other => exact OrientedOrd.eq_swap (α := Int)
      | _ => rfl
  | .float number, right => by
      cases right with
      | float other =>
          show Binary64.compare other number = (Binary64.compare number other).swap
          exact OrientedCmp.eq_swap
      | _ => rfl
  | .text content, right => by
      cases right with
      | text other => exact OrientedOrd.eq_swap
      | _ => rfl
  | .bytes content, right => by
      cases right with
      | bytes other => exact OrientedOrd.eq_swap
      | _ => rfl
  | .array items, right => by
      cases right with
      | array others => exact compareItems_swap items others
      | _ => rfl
  | .map entries, right => by
      cases right with
      | map others => exact compareEntries_swap entries others
      | _ => rfl

theorem compareItems_swap : (left right : List Value) → compareItems right left = (compareItems left right).swap
  | [], [] => rfl
  | [], _ :: _ => rfl
  | _ :: _, [] => rfl
  | left :: lefts, right :: rights => by
      rw [compareItems, compareItems, Ordering.swap_then, compare_swap left right, compareItems_swap lefts rights]

theorem compareEntries_swap :
    (left right : List (Value × Value)) → compareEntries right left = (compareEntries left right).swap
  | [], [] => rfl
  | [], _ :: _ => rfl
  | _ :: _, [] => rfl
  | (leftKey, left) :: lefts, (rightKey, right) :: rights => by
      rw [compareEntries, compareEntries, Ordering.swap_then, Ordering.swap_then, compare_swap leftKey rightKey,
        compare_swap left right, compareEntries_swap lefts rights]

end

/-! ## Equality -/

mutual

theorem compare_self : (value : Value) → compare value value = .eq
  | .null => rfl
  | .bool _ => ReflOrd.compare_self
  | .int _ => ReflOrd.compare_self (α := Int)
  | .float number => show Binary64.compare number number = .eq from Std.ReflCmp.compare_self
  | .text _ => ReflOrd.compare_self
  | .bytes _ => ReflOrd.compare_self
  | .array items => compareItems_self items
  | .map entries => compareEntries_self entries

theorem compareItems_self : (items : List Value) → compareItems items items = .eq
  | [] => rfl
  | item :: rest => by rw [compareItems, compare_self item, compareItems_self rest]; rfl

theorem compareEntries_self : (entries : List (Value × Value)) → compareEntries entries entries = .eq
  | [] => rfl
  | (key, value) :: rest => by
      rw [compareEntries, compare_self key, compare_self value, compareEntries_self rest]; rfl

end

mutual

/-- Values that stand at one place are one value. -/
theorem eq_of_compare : (left right : Value) → compare left right = .eq → left = right
  | .null, right, same => by
      cases right with
      | null => rfl
      | _ => nomatch same
  | .bool truth, right, same => by
      cases right with
      | bool other => exact congrArg Value.bool (LawfulEqOrd.eq_of_compare same)
      | _ => nomatch same
  | .int number, right, same => by
      cases right with
      | int other => exact congrArg Value.int (Int64.toInt_inj.mp (LawfulEqOrd.eq_of_compare same))
      | _ => nomatch same
  | .float number, right, same => by
      cases right with
      | float other =>
          have sameNumber : Binary64.compare number other = .eq := same
          exact congrArg Value.float (LawfulEqCmp.eq_of_compare sameNumber)
      | _ => nomatch same
  | .text content, right, same => by
      cases right with
      | text other => exact congrArg Value.text (LawfulEqOrd.eq_of_compare same)
      | _ => nomatch same
  | .bytes content, right, same => by
      cases right with
      | bytes other => exact congrArg Value.bytes (LawfulEqOrd.eq_of_compare same)
      | _ => nomatch same
  | .array items, right, same => by
      cases right with
      | array others => exact congrArg Value.array (eq_of_compareItems items others same)
      | _ => nomatch same
  | .map entries, right, same => by
      cases right with
      | map others => exact congrArg Value.map (eq_of_compareEntries entries others same)
      | _ => nomatch same

theorem eq_of_compareItems : (left right : List Value) → compareItems left right = .eq → left = right
  | [], [], _ => rfl
  | [], _ :: _, same => nomatch same
  | _ :: _, [], same => nomatch same
  | left :: lefts, right :: rights, same => by
      obtain ⟨first, rest⟩ := Ordering.then_eq_eq.mp same
      rw [eq_of_compare left right first, eq_of_compareItems lefts rights rest]

theorem eq_of_compareEntries :
    (left right : List (Value × Value)) → compareEntries left right = .eq → left = right
  | [], [], _ => rfl
  | [], _ :: _, same => nomatch same
  | _ :: _, [], same => nomatch same
  | (leftKey, left) :: lefts, (rightKey, right) :: rights, same => by
      obtain ⟨first, rest⟩ := Ordering.then_eq_eq.mp same
      obtain ⟨key, value⟩ := Ordering.then_eq_eq.mp first
      rw [eq_of_compare leftKey rightKey key, eq_of_compare left right value,
        eq_of_compareEntries lefts rights rest]

end

instance : OrientedCmp compare where
  eq_swap := compare_swap _ _

instance : LawfulEqCmp compare where
  compare_self := compare_self _
  eq_of_compare := eq_of_compare _ _

/-! ## Transitivity -/

/-- Values of different shapes stand in the order of their shapes. -/
theorem compare_of_shapeRank_ne {left right : Value} (different : left.shapeRank ≠ right.shapeRank) :
    compare left right = Ord.compare left.shapeRank right.shapeRank := by
  unfold compare
  split
  case h_8 => rfl
  all_goals exact absurd rfl different

theorem shapeRank_le_of_lt {left right : Value} (before : compare left right = .lt) :
    left.shapeRank ≤ right.shapeRank := by
  by_cases same : left.shapeRank = right.shapeRank
  · exact Nat.le_of_eq same
  · rw [compare_of_shapeRank_ne same] at before
    exact Nat.le_of_lt (Nat.compare_eq_lt.mp before)

/-- Transitivity needs a look into the values only if all three are of one shape. -/
theorem lt_trans_of_shapeRank {first second third : Value} (before : compare first second = .lt)
    (after : compare second third = .lt)
    (within : second.shapeRank = first.shapeRank → third.shapeRank = first.shapeRank → compare first third = .lt) :
    compare first third = .lt := by
  have lower := shapeRank_le_of_lt before
  have upper := shapeRank_le_of_lt after
  by_cases below : first.shapeRank < third.shapeRank
  · rw [compare_of_shapeRank_ne (Nat.ne_of_lt below)]
    exact Nat.compare_eq_lt.mpr below
  · exact within (by omega) (by omega)

/-- A first difference decides, so the comparison by the first difference is transitive if both parts are. -/
theorem then_lt_trans {first second third : Value} {firstRest secondRest thirdRest : Ordering}
    (heads : compare first second = .lt → compare second third = .lt → compare first third = .lt)
    (rests : firstRest = .lt → secondRest = .lt → thirdRest = .lt)
    (before : (compare first second).then firstRest = .lt)
    (after : (compare second third).then secondRest = .lt) : (compare first third).then thirdRest = .lt := by
  rw [Ordering.then_eq_lt] at before after ⊢
  rcases before with before | ⟨same, before⟩
  · refine .inl ?_
    rcases after with after | ⟨same, _⟩
    · exact heads before after
    · rwa [← eq_of_compare _ _ same]
  · rw [eq_of_compare _ _ same]
    exact after.imp_right fun ⟨same, after⟩ => ⟨same, rests before after⟩

mutual

theorem compare_lt_trans : (first second third : Value) → compare first second = .lt →
    compare second third = .lt → compare first third = .lt
  | .null, second, third, before, after => lt_trans_of_shapeRank before after fun sameSecond _ => by
      cases second with
      | null => nomatch before
      | _ => nomatch sameSecond
  | .bool truth, second, third, before, after => lt_trans_of_shapeRank before after fun sameSecond sameThird => by
      cases second with
      | bool other =>
          cases third with
          | bool furthest =>
              show Ord.compare truth furthest = .lt
              exact TransCmp.lt_trans before after
          | _ => nomatch sameThird
      | _ => nomatch sameSecond
  | .int number, second, third, before, after => lt_trans_of_shapeRank before after fun sameSecond sameThird => by
      cases second with
      | int other =>
          cases third with
          | int furthest =>
              show Ord.compare (Int64.toInt number) (Int64.toInt furthest) = .lt
              exact TransCmp.lt_trans before after
          | _ => nomatch sameThird
      | _ => nomatch sameSecond
  | .float number, second, third, before, after => lt_trans_of_shapeRank before after fun sameSecond sameThird => by
      cases second with
      | float other =>
          cases third with
          | float furthest =>
              show Binary64.compare number furthest = .lt
              exact TransCmp.lt_trans before after
          | _ => nomatch sameThird
      | _ => nomatch sameSecond
  | .text content, second, third, before, after => lt_trans_of_shapeRank before after fun sameSecond sameThird => by
      cases second with
      | text other =>
          cases third with
          | text furthest =>
              show Ord.compare content furthest = .lt
              exact TransCmp.lt_trans before after
          | _ => nomatch sameThird
      | _ => nomatch sameSecond
  | .bytes content, second, third, before, after => lt_trans_of_shapeRank before after fun sameSecond sameThird => by
      cases second with
      | bytes other =>
          cases third with
          | bytes furthest =>
              show Ord.compare content furthest = .lt
              exact TransCmp.lt_trans before after
          | _ => nomatch sameThird
      | _ => nomatch sameSecond
  | .array items, second, third, before, after => lt_trans_of_shapeRank before after fun sameSecond sameThird => by
      cases second with
      | array others =>
          cases third with
          | array furthest => exact compareItems_lt_trans items others furthest before after
          | _ => nomatch sameThird
      | _ => nomatch sameSecond
  | .map entries, second, third, before, after => lt_trans_of_shapeRank before after fun sameSecond sameThird => by
      cases second with
      | map others =>
          cases third with
          | map furthest => exact compareEntries_lt_trans entries others furthest before after
          | _ => nomatch sameThird
      | _ => nomatch sameSecond

theorem compareItems_lt_trans : (first second third : List Value) → compareItems first second = .lt →
    compareItems second third = .lt → compareItems first third = .lt
  | [], [], _, before, _ => nomatch before
  | _ :: _, [], _, before, _ => nomatch before
  | _, _ :: _, [], _, after => nomatch after
  | [], _ :: _, _ :: _, _, _ => rfl
  | first :: firsts, second :: seconds, third :: thirds, before, after =>
      then_lt_trans (compare_lt_trans first second third) (compareItems_lt_trans firsts seconds thirds) before after

theorem compareEntries_lt_trans : (first second third : List (Value × Value)) →
    compareEntries first second = .lt → compareEntries second third = .lt → compareEntries first third = .lt
  | [], [], _, before, _ => nomatch before
  | _ :: _, [], _, before, _ => nomatch before
  | _, _ :: _, [], _, after => nomatch after
  | [], _ :: _, _ :: _, _, _ => rfl
  | (firstKey, first) :: firsts, (secondKey, second) :: seconds, (thirdKey, third) :: thirds, before, after => by
      rw [compareEntries, Ordering.then_assoc] at before after ⊢
      exact then_lt_trans (compare_lt_trans firstKey secondKey thirdKey)
        (then_lt_trans (compare_lt_trans first second third) (compareEntries_lt_trans firsts seconds thirds))
        before after

end

instance : TransCmp compare where
  isLE_trans := by
    intro first second third before after
    rw [Ordering.isLE_iff_eq_lt_or_eq_eq] at before after ⊢
    rcases before with before | same
    · refine .inl ?_
      rcases after with after | same
      · exact compare_lt_trans first second third before after
      · rwa [← eq_of_compare _ _ same]
    · rwa [eq_of_compare _ _ same]

end Value

end ApiDesign
