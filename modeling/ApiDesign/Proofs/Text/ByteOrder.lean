import Mathlib.Data.List.Basic
import Mathlib.Data.String.Basic

/-!
Contract: the order of texts by code points is their order by UTF-8 bytes.

The encodings of two characters part at some byte, and at that byte the smaller character has the smaller byte: a longer
encoding begins with a larger byte, and encodings of one length hold the code point digit by digit. What follows in
the two texts does not matter any more.

Owns: `Text.utf8`, `Text.lt_iff_utf8_lt`.
-/

namespace ApiDesign.Text

/-- The bytes of a text in UTF-8. -/
def utf8 (text : String) : List UInt8 := text.toByteArray.data.toList

theorem utf8_eq_flatMap (text : String) : utf8 text = text.toList.flatMap String.utf8EncodeChar := by
  rw [utf8, ← String.utf8Encode_toList, List.utf8Encode, List.toList_data_toByteArray]

/-! ## Where two encodings part -/

/-- Neither sequence of bytes begins the other, and where they part the first one has the smaller byte. -/
inductive PartsBelow : List UInt8 → List UInt8 → Prop
  | here {low high : UInt8} {lows highs : List UInt8} (below : low < high) : PartsBelow (low :: lows) (high :: highs)
  | later {byte : UInt8} {lows highs : List UInt8} (parts : PartsBelow lows highs) :
      PartsBelow (byte :: lows) (byte :: highs)

theorem PartsBelow.append_lt {lows highs : List UInt8} (parts : PartsBelow lows highs) (left right : List UInt8) :
    lows ++ left < highs ++ right := by
  induction parts with
  | here below => exact List.Lex.rel below
  | later _ inductionHypothesis => exact List.Lex.cons inductionHypothesis

/-- Bytes given by numbers part at the first one that differs. -/
theorem PartsBelow.of_le {low high : Nat} {lows highs : List UInt8} (isByte : high < 256) (atMost : low ≤ high)
    (rest : low = high → PartsBelow lows highs) :
    PartsBelow (UInt8.ofNat low :: lows) (UInt8.ofNat high :: highs) := by
  rcases Nat.lt_or_eq_of_le atMost with below | same
  · refine .here ?_
    rw [UInt8.lt_iff_toNat_lt, UInt8.toNat_ofNat', UInt8.toNat_ofNat', Nat.mod_eq_of_lt isByte,
      Nat.mod_eq_of_lt (Nat.lt_trans below isByte)]
    exact below
  · rw [same]
    exact .later (rest same)

/-- How a code point is written, by the number of bytes it takes. -/
inductive Encodes (code : Nat) : List UInt8 → Prop
  | one (small : code < 0x80) : Encodes code [UInt8.ofNat code]
  | two (large : 0x80 ≤ code) (small : code < 0x800) :
      Encodes code [UInt8.ofNat (code / 64 % 0x20 + 0xc0), UInt8.ofNat (code % 64 + 0x80)]
  | three (large : 0x800 ≤ code) (small : code < 0x10000) :
      Encodes code
        [UInt8.ofNat (code / 4096 % 0x10 + 0xe0), UInt8.ofNat (code / 64 % 0x40 + 0x80),
          UInt8.ofNat (code % 0x40 + 0x80)]
  | four (large : 0x10000 ≤ code) (small : code < 0x110000) :
      Encodes code
        [UInt8.ofNat (code / 262144 % 0x08 + 0xf0), UInt8.ofNat (code / 4096 % 0x40 + 0x80),
          UInt8.ofNat (code / 64 % 0x40 + 0x80), UInt8.ofNat (code % 0x40 + 0x80)]

theorem encodes_utf8EncodeChar (character : Char) :
    Encodes character.val.toNat (String.utf8EncodeChar character) := by
  have bounded : character.val.toNat < 0x110000 := by
    rcases character.valid with small | large
    · exact Nat.lt_trans small (by decide)
    · exact large.2
  unfold String.utf8EncodeChar
  simp only
  split
  · exact .one (by omega)
  · split
    · exact .two (by omega) (by omega)
    · split
      · exact .three (by omega) (by omega)
      · exact .four (by omega) bounded

/-- The encodings of two code points part. A shorter one begins with a smaller byte; in two of one length, each byte
holds further digits of the code point. -/
theorem Encodes.partsBelow {low high : Nat} {lows highs : List UInt8} (lowIs : Encodes low lows)
    (highIs : Encodes high highs) (below : low < high) : PartsBelow lows highs := by
  cases lowIs with
  | one =>
      cases highIs with
      | one => exact .of_le (by omega) (by omega) (by omega)
      | two => exact .of_le (by omega) (by omega) (by omega)
      | three => exact .of_le (by omega) (by omega) (by omega)
      | four => exact .of_le (by omega) (by omega) (by omega)
  | two =>
      cases highIs with
      | one => omega
      | two => exact .of_le (by omega) (by omega) fun _ => .of_le (by omega) (by omega) (by omega)
      | three => exact .of_le (by omega) (by omega) (by omega)
      | four => exact .of_le (by omega) (by omega) (by omega)
  | three =>
      cases highIs with
      | one => omega
      | two => omega
      | three =>
          exact .of_le (by omega) (by omega) fun _ => .of_le (by omega) (by omega) fun _ =>
            .of_le (by omega) (by omega) (by omega)
      | four => exact .of_le (by omega) (by omega) (by omega)
  | four =>
      cases highIs with
      | one => omega
      | two => omega
      | three => omega
      | four =>
          exact .of_le (by omega) (by omega) fun _ => .of_le (by omega) (by omega) fun _ =>
            .of_le (by omega) (by omega) fun _ => .of_le (by omega) (by omega) (by omega)

theorem partsBelow_utf8EncodeChar {low high : Char} (below : low < high) :
    PartsBelow (String.utf8EncodeChar low) (String.utf8EncodeChar high) :=
  (encodes_utf8EncodeChar low).partsBelow (encodes_utf8EncodeChar high) (UInt32.lt_iff_toNat_lt.mp below)

/-! ## Texts -/

theorem flatMap_utf8EncodeChar_lt {left right : List Char} (before : left < right) :
    left.flatMap String.utf8EncodeChar < right.flatMap String.utf8EncodeChar := by
  induction before with
  | @nil character rest =>
      rw [List.flatMap_nil, List.flatMap_cons]
      cases encoding : String.utf8EncodeChar character with
      | nil => exact absurd encoding String.utf8EncodeChar_ne_nil
      | cons byte bytes => exact List.Lex.nil
  | rel below =>
      rw [List.flatMap_cons, List.flatMap_cons]
      exact (partsBelow_utf8EncodeChar below).append_lt _ _
  | cons _ inductionHypothesis =>
      rw [List.flatMap_cons, List.flatMap_cons]
      exact List.Lex.append_left _ inductionHypothesis _

/-- A text stands before another one exactly if its bytes do. -/
theorem lt_iff_utf8_lt (left right : String) : left < right ↔ utf8 left < utf8 right := by
  rw [utf8_eq_flatMap, utf8_eq_flatMap]
  refine ⟨fun before => flatMap_utf8EncodeChar_lt before, fun before => ?_⟩
  rcases lt_trichotomy left right with below | same | above
  · exact below
  · rw [same] at before
    exact absurd before (List.lt_irrefl _)
  · exact absurd before (List.lt_asymm (flatMap_utf8EncodeChar_lt above))

end ApiDesign.Text
