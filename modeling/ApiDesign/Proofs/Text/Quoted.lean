import ApiDesign.Text.Quoted
import Mathlib.Data.List.Forall2
import Mathlib.Data.Nat.Digits.Defs

/-!
Contract: different texts are written differently.

A written character tells by its beginning which form it has: the character itself, a backslash with one mark, or a
code between braces. Each form determines its character, and what follows it begins where the form ends. So a written
text can be read back from the left, character by character, whichever of its forms each character has.

Owns: the forms of characters and of texts between quotes, what is written as an injection.
Does not own: frames (`Proofs.Kind`).
-/

namespace ApiDesign.Text

/-! ## Hexadecimal digits -/

/-- The digits of a number determine it: the last one is its remainder, the others are those of its quotient. -/
theorem toDigits_injective : ∀ {left right : Nat}, Nat.toDigits 16 left = Nat.toDigits 16 right → left = right := by
  have digits : ∀ left < 16, ∀ right < 16, Nat.digitChar left = Nat.digitChar right → left = right := by decide
  intro left
  induction left using Nat.strong_induction_on with
  | _ left inductionHypothesis =>
      intro right same
      rw [Nat.toDigits_eq_if (by omega), Nat.toDigits_eq_if (n := right) (by omega)] at same
      split at same
      next leftSmall =>
        split at same
        next rightSmall => exact digits left leftSmall right rightSmall (List.singleton_inj.mp same)
        next => simp [List.singleton_eq_append_iff, Nat.toDigits_ne_nil] at same
      next leftLarge =>
        split at same
        next => simp [List.append_eq_singleton_iff, Nat.toDigits_ne_nil] at same
        next rightLarge =>
          obtain ⟨quotients, remainders⟩ := List.append_inj' same rfl
          have sameQuotient := inductionHypothesis (left / 16) (by omega) quotients
          have sameRemainder := digits _ (Nat.mod_lt _ (by omega)) _ (Nat.mod_lt _ (by omega))
            (List.singleton_inj.mp remainders)
          omega

/-- No digit is a closing brace. -/
theorem closingBrace_not_mem_toDigits (number : Nat) : '\x7d' ∉ Nat.toDigits 16 number := by
  have digits : ∀ digit < 16, '\x7d' ≠ Nat.digitChar digit := by decide
  induction number using Nat.strong_induction_on with
  | _ number inductionHypothesis =>
      rw [Nat.toDigits_eq_if (by omega)]
      split
      next small => simp [digits number small]
      next large =>
        rw [List.mem_append, List.mem_singleton]
        rintro (inQuotient | isRemainder)
        · exact inductionHypothesis (number / 16) (by omega) inQuotient
        · exact digits _ (Nat.mod_lt _ (by omega)) isRemainder

/-! ## Forms of escapes -/

/-- The characters that are written as a backslash with one mark, each with its mark. -/
def markedEscapes : List (Char × Char) :=
  [('"', '"'), ('\\', '\\'), ('\n', 'n'), ('\r', 'r'), ('\t', 't'), ('\x00', '0')]

/-- The forms in which a character may stand between quotes: as itself unless it is the quote or the backslash, as a
backslash with its mark, or as its code. -/
inductive IsWritten (character : Char) : List Char → Prop where
  | plain (notQuote : character ≠ '"') (notBackslash : character ≠ '\\') : IsWritten character [character]
  | marked (mark : Char) (member : (character, mark) ∈ markedEscapes) : IsWritten character ['\\', mark]
  | code : IsWritten character (codeEscape character)

theorem isWritten_escape (character : Char) : IsWritten character (escape character) := by
  have marks : ∀ entry ∈ markedEscapes, escape entry.1 = ['\\', entry.2] := by decide
  by_cases isMarked : character ∈ markedEscapes.map Prod.fst
  · obtain ⟨⟨marked, mark⟩, member, rfl⟩ := List.mem_map.mp isMarked
    exact marks _ member ▸ .marked mark member
  · simp only [markedEscapes, List.map_cons, List.map_nil, List.mem_cons, List.not_mem_nil, or_false, not_or]
      at isMarked
    simp only [escape, isMarked, if_false]
    split
    next => exact .code
    next => exact .plain isMarked.1 isMarked.2.1

/-- A marked escape is no code, and its mark determines the character. -/
theorem markedEscapes_spec : ∀ entry ∈ markedEscapes, entry.2 ≠ 'u' ∧
    ∀ other ∈ markedEscapes, entry.2 = other.2 → entry.1 = other.1 := by decide

/-- What stands before the first occurrence of a character and what stands after it are determined by the whole. -/
theorem append_cons_inj_of_not_mem {mark : Char} : ∀ {left right leftRest rightRest : List Char},
    mark ∉ left → mark ∉ right → left ++ mark :: leftRest = right ++ mark :: rightRest →
      left = right ∧ leftRest = rightRest
  | [], [], _, _, _, _, same => ⟨rfl, (List.cons.inj same).2⟩
  | [], head :: _, _, _, _, absent, same => absurd (List.mem_cons.mpr (.inl (List.cons.inj same).1)) absent
  | head :: _, [], _, _, absent, _, same => absurd (List.mem_cons.mpr (.inl (List.cons.inj same).1.symm)) absent
  | _ :: left, _ :: right, _, _, leftAbsent, rightAbsent, same => by
      obtain ⟨rfl, sameRest⟩ := List.cons.inj same
      obtain ⟨rfl, rests⟩ := append_cons_inj_of_not_mem (List.not_mem_of_not_mem_cons leftAbsent)
        (List.not_mem_of_not_mem_cons rightAbsent) sameRest
      exact ⟨rfl, rests⟩

/-- A code determines the character, and it ends with the first closing brace. -/
theorem codeEscape_append_inj {left right : Char} {leftRest rightRest : List Char}
    (same : codeEscape left ++ leftRest = codeEscape right ++ rightRest) : left = right ∧ leftRest = rightRest := by
  simp only [codeEscape, List.cons_append, List.append_assoc, List.cons.injEq, true_and, List.nil_append] at same
  obtain ⟨digits, closed⟩ := append_cons_inj_of_not_mem (closingBrace_not_mem_toDigits _)
    (closingBrace_not_mem_toDigits _) same
  exact ⟨Char.toNat_inj.mp (toDigits_injective digits), closed⟩

/-- What begins with a written character begins with no other, and goes on in one way. -/
theorem IsWritten.append_inj {left right : Char} {leftForm rightForm leftRest rightRest : List Char}
    (leftWritten : IsWritten left leftForm) (rightWritten : IsWritten right rightForm)
    (same : leftForm ++ leftRest = rightForm ++ rightRest) : left = right ∧ leftRest = rightRest := by
  cases leftWritten <;> cases rightWritten
  case code.code => exact codeEscape_append_inj same
  all_goals
    simp only [codeEscape, List.cons_append, List.nil_append, List.cons.injEq] at same
  case plain.plain => exact same
  case marked.marked leftMark leftMember rightMark rightMember =>
    exact ⟨(markedEscapes_spec _ leftMember).2 _ rightMember same.2.1, same.2.2⟩
  case plain.marked leftPlain _ _ => exact absurd same.1 leftPlain
  case plain.code leftPlain => exact absurd same.1 leftPlain
  case marked.plain rightPlain => exact absurd same.1.symm rightPlain
  case code.plain rightPlain => exact absurd same.1.symm rightPlain
  case marked.code leftMark leftMember => exact absurd same.2.1 (markedEscapes_spec _ leftMember).1
  case code.marked rightMark rightMember => exact absurd same.2.1.symm (markedEscapes_spec _ rightMember).1

theorem IsWritten.ne_nil {character : Char} {form : List Char} (written : IsWritten character form) : form ≠ [] := by
  cases written <;> simp [codeEscape]

/-! ## Texts -/

/-- Written characters one after the other are read back one by one. -/
theorem forall₂_isWritten_injective : ∀ {left right : List Char} {leftForms rightForms : List (List Char)},
    List.Forall₂ IsWritten left leftForms → List.Forall₂ IsWritten right rightForms →
      leftForms.flatten = rightForms.flatten → left = right
  | [], [], _, _, _, _, _ => rfl
  | [], _ :: _, _, _, .nil, .cons written _, same =>
      absurd (List.append_eq_nil_iff.mp same.symm).1 written.ne_nil
  | _ :: _, [], _, _, .cons written _, .nil, same =>
      absurd (List.append_eq_nil_iff.mp same).1 written.ne_nil
  | _ :: leftRest, _ :: rightRest, _, _, .cons leftFirst leftWritten, .cons rightFirst rightWritten, same => by
      obtain ⟨rfl, sameRest⟩ := leftFirst.append_inj rightFirst same
      rw [forall₂_isWritten_injective leftWritten rightWritten sameRest]

/-- Whether a text may be written like this between quotes, each of its characters in any of its forms. -/
def IsQuoted (text written : String) : Prop :=
  ∃ forms, List.Forall₂ IsWritten text.toList forms ∧ written.toList = '"' :: (forms.flatten ++ ['"'])

theorem isQuoted_quote (text : String) : IsQuoted text (quote text) := by
  refine ⟨text.toList.map escape, ?_, by rw [quote, String.toList_ofList, quoteChars, List.flatMap_def]⟩
  exact List.forall₂_map_right_iff.mpr (List.forall₂_same.mpr fun character _ => isWritten_escape character)

theorem IsQuoted.exists_toList {text written : String} (quoted : IsQuoted text written) :
    ∃ rest, written.toList = '"' :: rest := by
  obtain ⟨forms, -, toList⟩ := quoted
  exact ⟨_, toList⟩

/-- What is written between quotes is read back as one text, whichever forms its characters have. -/
theorem IsQuoted.unique {left right written : String} (leftQuoted : IsQuoted left written)
    (rightQuoted : IsQuoted right written) : left = right := by
  obtain ⟨leftForms, leftWritten, leftText⟩ := leftQuoted
  obtain ⟨rightForms, rightWritten, rightText⟩ := rightQuoted
  have same := (List.cons.inj (leftText.symm.trans rightText)).2
  exact String.toList_injective
    (forall₂_isWritten_injective leftWritten rightWritten (List.append_cancel_right same))

end ApiDesign.Text
