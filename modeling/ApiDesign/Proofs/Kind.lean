import ApiDesign.Kind
import ApiDesign.Proofs.Text.Quoted
import Mathlib.Data.List.Nodup

/-!
Contract: a frame tells the kind and the name of the expression it names.

The keyword of a kind has no quotation mark, so the first one of a frame opens the name; what stands before it is the
keyword, and what it opens is the name as it is written.

Owns: frames as an injection.
Does not own: which findings carry which frames (`Proofs.Evaluation.Trails`).
-/

namespace ApiDesign.Kind

theorem mem_all (kind : Kind) : kind ∈ all := by
  cases kind <;> decide

theorem keyword_injective {left right : Kind} (same : left.keyword = right.keyword) : left = right := by
  have distinct : (all.map keyword).Nodup := by decide
  exact List.inj_on_of_nodup_map distinct (mem_all left) (mem_all right) same

/-- The keyword of a kind and the blank after it have no quotation mark. -/
theorem quotationMark_not_mem_keyword : ∀ kind : Kind, '"' ∉ (kind.keyword ++ " ").toList := by
  intro kind
  cases kind <;> decide

/-- Whether this may be the frame of an expression, with the characters of its name in any of their forms. -/
def IsFrame (kind : Kind) (name written : String) : Prop :=
  ∃ quoted, Text.IsQuoted name quoted ∧ written = kind.keyword ++ " " ++ quoted

theorem isFrame_frame (kind : Kind) (name : String) : kind.IsFrame name (kind.frame name) :=
  ⟨Text.quote name, Text.isQuoted_quote name, rfl⟩

/-- A frame is read back as one kind and one name. -/
theorem IsFrame.unique {kind other : Kind} {name otherName written : String} (framed : kind.IsFrame name written)
    (otherFramed : other.IsFrame otherName written) : kind = other ∧ name = otherName := by
  obtain ⟨quoted, isQuoted, rfl⟩ := framed
  obtain ⟨otherQuoted, isOtherQuoted, same⟩ := otherFramed
  obtain ⟨rest, toList⟩ := isQuoted.exists_toList
  obtain ⟨otherRest, otherToList⟩ := isOtherQuoted.exists_toList
  have sameChars : (kind.keyword ++ " ").toList ++ quoted.toList =
      (other.keyword ++ " ").toList ++ otherQuoted.toList := by
    simpa only [String.toList_append] using congrArg String.toList same
  rw [toList, otherToList] at sameChars
  obtain ⟨keywords, names⟩ := Text.append_cons_inj_of_not_mem (quotationMark_not_mem_keyword kind)
    (quotationMark_not_mem_keyword other) sameChars
  have sameQuoted : quoted = otherQuoted := String.toList_injective (by rw [toList, otherToList, names])
  exact ⟨keyword_injective ((String.append_left_inj _).mp (String.toList_injective keywords)),
    isQuoted.unique (sameQuoted ▸ isOtherQuoted)⟩

/-- Different expressions have different frames. -/
theorem frame_inj {kind other : Kind} {name otherName : String} :
    kind.frame name = other.frame otherName ↔ kind = other ∧ name = otherName :=
  ⟨fun same => (isFrame_frame kind name).unique (same ▸ isFrame_frame other otherName),
    fun ⟨sameKind, sameName⟩ => by rw [sameKind, sameName]⟩

/-- A frame identifies its expression. Two expressions with the same frame have the same kind and the same name, and
that does not depend on which characters are escaped: it holds of all frames in which the quotes and the backslashes of
the name are, and every other character stands for itself or is escaped as well. -/
theorem frame_identifies (kind other : Kind) (name otherName : String) :
    (kind.frame name = other.frame otherName → kind = other ∧ name = otherName) ∧
      kind.IsFrame name (kind.frame name) ∧
      ∀ written, kind.IsFrame name written → other.IsFrame otherName written → kind = other ∧ name = otherName :=
  ⟨frame_inj.mp, isFrame_frame kind name, fun _ framed otherFramed => framed.unique otherFramed⟩

example : view.IsFrame "a" "view \"\\u\x7b61\x7d\"" :=
  ⟨"\"\\u\x7b61\x7d\"", ⟨[Text.codeEscape 'a'], .cons .code .nil, by decide⟩, by decide⟩

end ApiDesign.Kind
