import ApiDesign.ResultType.TypeName
import Mathlib.Data.List.TakeWhile

/-!
Contract: type names derived from ASCII identifiers.

A derived type name is a camel case text: letters and digits, of which the first is no lower-case letter. Deriving
leaves such a text as it is, so a type name followed by letters and digits derives to itself.

Owns: `TypeName.IsCamelCase`, what deriving makes of ASCII texts and of letters and digits.
Does not own: texts beyond ASCII.
-/

namespace ApiDesign.TypeName

/-! ## ASCII characters -/

/-- What a check finds of every ASCII code holds of every ASCII character. -/
theorem of_all_ascii (property : Char → Bool)
    (all : (List.range 0x80).all (fun code => property (Char.ofNat code)) = true) {character : Char}
    (ascii : character.toNat < 0x80) : property character = true := by
  have found := List.all_eq_true.mp all character.toNat (List.mem_range.mpr ascii)
  rwa [Char.ofNat_toNat] at found

theorem toNat_lt_of_isAlphanum {character : Char} (alphanumeric : character.isAlphanum = true) :
    character.toNat < 0x80 := by
  delta Char.isAlphanum Char.isAlpha Char.isUpper Char.isLower Char.isDigit at alphanumeric
  simp only [Bool.or_eq_true, Bool.and_eq_true, decide_eq_true_eq, ge_iff_le, UInt32.le_iff_toNat_le] at alphanumeric
  simp only [Char.toNat]
  rcases alphanumeric with (⟨_, below⟩ | ⟨_, below⟩) | ⟨_, below⟩ <;> exact Nat.lt_of_le_of_lt below (by decide)

/-- A letter or digit in upper case is one again, not in lower case, and the same unless it was. -/
theorem toUpper_spec {character : Char} (alphanumeric : character.isAlphanum = true) :
    character.toUpper.isAlphanum = true ∧ character.toUpper.isLower = false ∧
      (character.isLower = false → character.toUpper = character) := by
  have checked := of_all_ascii (fun other => !other.isAlphanum ||
      (other.toUpper.isAlphanum && !other.toUpper.isLower && (other.isLower || other.toUpper == other)))
    (by decide +kernel) (toNat_lt_of_isAlphanum alphanumeric)
  simp only [alphanumeric, Bool.not_true, Bool.false_or, Bool.and_eq_true, Bool.not_eq_true', Bool.or_eq_true,
    beq_iff_eq] at checked
  exact ⟨checked.1.1, checked.1.2, fun notLower => checked.2.resolve_left (by simp [notLower])⟩

theorem not_isBlank_of_isAlphanum {character : Char} (alphanumeric : character.isAlphanum = true) :
    Text.isBlank character = false := by
  have checked := of_all_ascii (fun other => !other.isAlphanum || !Text.isBlank other) (by decide +kernel)
    (toNat_lt_of_isAlphanum alphanumeric)
  simpa [alphanumeric] using checked

theorem ne_of_isAlphanum {character other : Char} (alphanumeric : character.isAlphanum = true)
    (notAlphanumeric : other.isAlphanum = false) : character ≠ other := by
  rintro rfl
  rw [alphanumeric] at notAlphanumeric
  cases notAlphanumeric

/-! ## Camel case -/

/-- All characters of a text are ASCII. -/
def IsAscii (text : List Char) : Prop := ∀ character ∈ text, character.toNat < 0x80

/-- All characters of a text are ASCII letters and digits. -/
def IsAlphanumeric (text : List Char) : Prop := ∀ character ∈ text, character.isAlphanum = true

instance (text : List Char) : Decidable (IsAscii text) :=
  List.decidableBAll (fun character : Char => character.toNat < 0x80) text

instance (text : List Char) : Decidable (IsAlphanumeric text) :=
  List.decidableBAll (fun character : Char => character.isAlphanum = true) text

/-- Letters and digits, at least one, of which the first is no lower-case letter. -/
structure IsCamelCase (text : List Char) : Prop where
  alphanumeric : IsAlphanumeric text
  head : ∃ first rest, text = first :: rest ∧ first.isLower = false

theorem IsCamelCase.ne_nil {text : List Char} (camelCase : IsCamelCase text) : text ≠ [] := by
  obtain ⟨first, rest, rfl, _⟩ := camelCase.head
  simp

theorem IsCamelCase.append {text more : List Char} (camelCase : IsCamelCase text) (alphanumeric : IsAlphanumeric more) :
    IsCamelCase (text ++ more) := by
  obtain ⟨first, rest, rfl, notLower⟩ := camelCase.head
  refine ⟨fun character member => ?_, first, rest ++ more, rfl, notLower⟩
  rcases List.mem_append.mp member with inText | inMore
  · exact camelCase.alphanumeric character inText
  · exact alphanumeric character inMore

/-- A word of letters and digits in camel case has the same length, and is the same if it was in camel case. -/
theorem capitalize_spec {text : List Char} (alphanumeric : IsAlphanumeric text) (nonempty : text ≠ []) :
    IsCamelCase (capitalize text) ∧ (capitalize text).length = text.length ∧
      (IsCamelCase text → capitalize text = text) := by
  cases text with
  | nil => exact absurd rfl nonempty
  | cons first rest =>
      have isFirst := alphanumeric first List.mem_cons_self
      obtain ⟨upperAlphanumeric, notLower, same⟩ := toUpper_spec isFirst
      have upper : capitalize (first :: rest) = first.toUpper :: rest := by
        simp [capitalize, Text.uppercase, toNat_lt_of_isAlphanum isFirst]
      rw [upper]
      refine ⟨⟨fun character member => ?_, _, _, rfl, notLower⟩, rfl, fun camelCase => ?_⟩
      · rcases List.mem_cons.mp member with isUpper | inRest
        · rw [isUpper]
          exact upperAlphanumeric
        · exact alphanumeric character (List.mem_cons_of_mem _ inRest)
      · obtain ⟨_, _, split, firstNotLower⟩ := camelCase.head
        cases split
        rw [same firstNotLower]

/-! ## Words -/

theorem isAlphanumeric_of_ascii {character : Char} (ascii : character.toNat < 0x80) :
    Text.isAlphanumeric character = character.isAlphanum := by
  unfold Text.isAlphanumeric
  rw [if_pos ascii]

/-- The words of an ASCII text consist of letters and digits, and none is empty. -/
theorem wordsFrom_spec :
    ∀ {word text : List Char}, IsAlphanumeric word → IsAscii text →
      ∀ found ∈ wordsFrom word text, IsAlphanumeric found ∧ found ≠ []
  | word, [], alphanumeric, _, found, member => by
      unfold wordsFrom at member
      split at member
      · cases member
      · rename_i nonempty
        rw [List.mem_singleton.mp member]
        exact ⟨fun character inWord => alphanumeric character (List.mem_reverse.mp inWord), by simpa using nonempty⟩
  | word, character :: rest, alphanumeric, ascii, found, member => by
      have restAscii : IsAscii rest := fun other inRest => ascii other (List.mem_cons_of_mem _ inRest)
      unfold wordsFrom at member
      split at member
      · rename_i isAlphanumeric
        rw [isAlphanumeric_of_ascii (ascii character List.mem_cons_self)] at isAlphanumeric
        refine wordsFrom_spec (fun other inWord => ?_) restAscii found member
        rcases List.mem_cons.mp inWord with same | earlier
        · rw [same]
          exact isAlphanumeric
        · exact alphanumeric other earlier
      · have others : ∀ found ∈ wordsFrom [] rest, IsAlphanumeric found ∧ found ≠ [] :=
          wordsFrom_spec (by simp [IsAlphanumeric]) restAscii
        split at member
        · exact others found member
        · rename_i nonempty
          rcases List.mem_cons.mp member with isWord | inRest
          · rw [isWord]
            exact ⟨fun other inWord => alphanumeric other (List.mem_reverse.mp inWord), by simpa using nonempty⟩
          · exact others found inRest

/-- An ASCII text in camel case is empty or a camel case text. -/
theorem camelCase_spec {text : List Char} (ascii : IsAscii text) :
    camelCase text = [] ∨ IsCamelCase (camelCase text) := by
  have words : ∀ found ∈ wordsFrom [] text, IsAlphanumeric found ∧ found ≠ [] :=
    wordsFrom_spec (by simp [IsAlphanumeric]) ascii
  unfold camelCase
  generalize wordsFrom [] text = found at words
  cases found with
  | nil => exact .inl rfl
  | cons first rest =>
      obtain ⟨firstAlphanumeric, nonempty⟩ := words first List.mem_cons_self
      rw [List.flatMap_cons]
      refine .inr ((capitalize_spec firstAlphanumeric nonempty).1.append ?_)
      intro character member
      obtain ⟨word, inRest, inWord⟩ := List.mem_flatMap.mp member
      obtain ⟨wordAlphanumeric, wordNonempty⟩ := words word (List.mem_cons_of_mem _ inRest)
      exact (capitalize_spec wordAlphanumeric wordNonempty).1.alphanumeric character inWord

/-- Letters and digits go on with the word that is being read. -/
theorem wordsFrom_of_isAlphanumeric :
    ∀ {word text : List Char}, IsAlphanumeric text → word ++ text ≠ [] →
      wordsFrom word text = [word.reverse ++ text]
  | word, [], _, nonempty => by
      have notEmpty : word ≠ [] := by simpa using nonempty
      simp [wordsFrom, notEmpty]
  | word, character :: rest, alphanumeric, _ => by
      have isAlphanumeric := alphanumeric character List.mem_cons_self
      rw [wordsFrom, isAlphanumeric_of_ascii (toNat_lt_of_isAlphanum isAlphanumeric), if_pos isAlphanumeric,
        wordsFrom_of_isAlphanumeric (fun other inRest => alphanumeric other (List.mem_cons_of_mem _ inRest)) (by simp)]
      simp

/-! ## Derived names -/

theorem IsAscii.mono {text part : List Char} (ascii : IsAscii text) (subset : part ⊆ text) : IsAscii part :=
  fun character member => ascii character (subset member)

theorem base_subset (identifier : List Char) : base identifier ⊆ identifier := by
  unfold base Text.trim
  intro character member
  have inner := List.mem_reverse.mp ((List.dropWhile_sublist _).subset (List.mem_reverse.mp member))
  exact (List.takeWhile_sublist _).subset ((List.dropWhile_sublist _).subset inner)

theorem core_subset (text : List Char) : core text ⊆ text := by
  have withoutVendor_subset : ∀ part : List Char, withoutVendor part ⊆ part := by
    intro part
    unfold withoutVendor
    split
    · intro character member
      simp [member]
    · exact fun _ member => member
  intro character member
  have inner := (List.takeWhile_sublist _).subset (withoutVendor_subset _ member)
  exact List.mem_reverse.mp ((List.takeWhile_sublist _).subset (List.mem_reverse.mp inner))

/-- The name derived from an ASCII identifier is in camel case. -/
theorem isCamelCase_deriveChars {identifier : List Char} (ascii : IsAscii identifier) :
    IsCamelCase (deriveChars identifier) := by
  have baseAscii : IsAscii (base identifier) := ascii.mono (base_subset identifier)
  have named := camelCase_spec (baseAscii.mono (core_subset _))
  have whole := camelCase_spec baseAscii
  unfold deriveChars
  simp only [List.isEmpty_iff]
  split
  · split
    · exact ⟨by decide, 'R', "esultType".toList, by decide, by decide⟩
    · rename_i nonempty
      exact whole.resolve_left nonempty
  · rename_i nonempty
    exact named.resolve_left nonempty

/-- Letters and digits are neither separated nor surrounded by anything. -/
theorem base_of_isAlphanumeric {text : List Char} (alphanumeric : IsAlphanumeric text) : base text = text := by
  have before : text.takeWhile (· ≠ ';') = text := by
    rw [List.takeWhile_eq_self_iff]
    intro character member
    simpa using ne_of_isAlphanum (alphanumeric character member) (by decide)
  have trimmed : ∀ other : List Char, IsAlphanumeric other → other.dropWhile Text.isBlank = other := by
    intro other isAlphanumeric
    cases other with
    | nil => rfl
    | cons first rest =>
        rw [List.dropWhile_cons, not_isBlank_of_isAlphanum (isAlphanumeric first List.mem_cons_self)]
        rfl
  have reversed : IsAlphanumeric text.reverse :=
    fun character member => alphanumeric character (List.mem_reverse.mp member)
  rw [base, before, Text.trim, trimmed text alphanumeric, trimmed text.reverse reversed, List.reverse_reverse]

theorem core_of_isAlphanumeric {text : List Char} (alphanumeric : IsAlphanumeric text) : core text = text := by
  have after : afterLastSlash text = text := by
    have none : text.reverse.takeWhile (· ≠ '/') = text.reverse := by
      rw [List.takeWhile_eq_self_iff]
      intro character member
      simpa using ne_of_isAlphanum (alphanumeric character (List.mem_reverse.mp member)) (by decide)
    rw [afterLastSlash, none, List.reverse_reverse]
  have before : text.takeWhile (· ≠ '+') = text := by
    rw [List.takeWhile_eq_self_iff]
    intro character member
    simpa using ne_of_isAlphanum (alphanumeric character member) (by decide)
  rw [core, after, before]
  unfold withoutVendor
  split
  · exact absurd rfl (ne_of_isAlphanum (alphanumeric '.' (by simp)) (by decide))
  · rfl

/-- The name derived from letters and digits is these, as a word in camel case. -/
theorem deriveChars_of_isAlphanumeric {text : List Char} (alphanumeric : IsAlphanumeric text) (nonempty : text ≠ []) :
    deriveChars text = capitalize text := by
  have oneWord : camelCase text = capitalize text := by
    rw [camelCase, wordsFrom_of_isAlphanumeric alphanumeric (by simpa using nonempty)]
    simp
  unfold deriveChars
  rw [base_of_isAlphanumeric alphanumeric, core_of_isAlphanumeric alphanumeric, oneWord]
  simp [(capitalize_spec alphanumeric nonempty).1.ne_nil]

/-! ## Names as strings -/

theorem isCamelCase_derive {identifier : String} (ascii : IsAscii identifier.toList) :
    IsCamelCase (derive identifier).toList := by
  rw [derive, String.toList_ofList]
  exact isCamelCase_deriveChars ascii

/-- Letters and digits derive to a name of the same length. -/
theorem length_derive {text : String} (alphanumeric : IsAlphanumeric text.toList) (nonempty : text.toList ≠ []) :
    (derive text).length = text.length := by
  rw [← String.length_toList, derive, String.toList_ofList, deriveChars_of_isAlphanumeric alphanumeric nonempty,
    (capitalize_spec alphanumeric nonempty).2.1, String.length_toList]

/-- A text in camel case derives to itself. -/
theorem derive_eq_self {text : String} (camelCase : IsCamelCase text.toList) : derive text = text := by
  rw [derive, deriveChars_of_isAlphanumeric camelCase.alphanumeric camelCase.ne_nil,
    (capitalize_spec camelCase.alphanumeric camelCase.ne_nil).2.2 camelCase, String.ofList_toList]

end ApiDesign.TypeName
