import ApiDesign.Proofs.ResultType.TypeName
import ApiDesign.ResultType.Basic
import Mathlib.Logic.Function.Iterate

/-!
Contract: the laws of derived type names.

Deriving reads an identifier up to its first semicolon, so parameters change nothing, that of collections least of all.
Whatever the identifier is, some name is derived; the name of an ASCII identifier is a camel case text, from which
deriving makes itself. So it does not matter by which of its two names a result type is referred to.

Owns: the laws for all texts.
Does not own: camel case (`Proofs.ResultType.TypeName`).
-/

namespace ApiDesign.TypeName

/-- The part before the first semicolon does not see what stands behind a semicolon. -/
theorem base_append_parameters (identifier parameters : List Char) :
    base (identifier ++ ';' :: parameters) = base identifier := by
  have before : (identifier ++ ';' :: parameters).takeWhile (· ≠ ';') = identifier.takeWhile (· ≠ ';') := by
    rw [List.takeWhile_append]
    split
    · rename_i whole
      rw [List.takeWhile_cons_of_neg (by simp), List.append_nil]
      exact (List.takeWhile_prefix _).eq_of_length whole |>.symm
    · rfl
  rw [base, before, base]

/-- Parameters do not change the derived name. -/
theorem derive_append_parameters (identifier parameters : String) :
    derive (identifier ++ ";" ++ parameters) = derive identifier := by
  have sameBase := base_append_parameters identifier.toList parameters.toList
  have characters : (identifier ++ ";" ++ parameters).toList = identifier.toList ++ ';' :: parameters.toList := by
    simp
  rw [derive, derive, deriveChars, deriveChars, characters, sameBase]

theorem derive_collectionIdentifier (identifier : String) :
    derive (ResultType.collectionIdentifier identifier) = derive identifier := by
  have parameters : ResultType.collectionIdentifier identifier = identifier ++ ";" ++ " type=collection" := by
    rw [String.append_assoc]
    rfl
  rw [parameters, derive_append_parameters]

/-- Any number of collections of a result type have the type name that its own identifier derives to. -/
theorem derive_collectionIdentifier_iterate (identifier : String) :
    ∀ count, derive (ResultType.collectionIdentifier^[count] identifier) = derive identifier
  | 0 => rfl
  | count + 1 => by
      rw [Function.iterate_succ_apply', derive_collectionIdentifier,
        derive_collectionIdentifier_iterate identifier count]

/-- Some name is always derived: failing everything else, it is that of result types as such. -/
theorem derive_ne_empty (identifier : String) : derive identifier ≠ "" := by
  have nonempty : deriveChars identifier.toList ≠ [] := by
    unfold deriveChars
    simp only [List.isEmpty_iff]
    split
    · split
      · decide
      · assumption
    · assumption
  intro empty
  rw [derive, String.ofList_eq_empty_iff] at empty
  exact nonempty empty

/-- A name is derived from every identifier, and parameters do not change it. An ASCII identifier derives to letters
and digits, of which the first is no lower-case letter; deriving leaves that name as it is, so both names of the result
type of the identifier derive to it. -/
theorem derive_laws (identifier : String) :
    derive identifier ≠ "" ∧
      (∀ count, derive (ResultType.collectionIdentifier^[count] identifier) = derive identifier) ∧
      (IsAscii identifier.toList →
        IsCamelCase (derive identifier).toList ∧ derive (derive identifier) = derive identifier ∧
          ∀ name, (ResultType.named identifier).isNamed name = true → derive name = derive identifier) := by
  refine ⟨derive_ne_empty identifier, derive_collectionIdentifier_iterate identifier, fun ascii => ?_⟩
  have camelCase := isCamelCase_derive ascii
  have fixed := derive_eq_self camelCase
  refine ⟨camelCase, fixed, fun name named => ?_⟩
  simp only [ResultType.isNamed, ResultType.named, Bool.or_eq_true, beq_iff_eq] at named
  rcases named with isIdentifier | isTypeName
  · rw [isIdentifier]
  · rw [← isTypeName, fixed]

example : derive "application/vnd.goa.bottle+json; type=collection; type=collection" = "GoaBottle" := by
  decide +kernel

end ApiDesign.TypeName
