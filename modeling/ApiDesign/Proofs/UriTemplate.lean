import ApiDesign.Api
import ApiDesign.Proofs.Evaluation.Shortcuts
import ApiDesign.Proofs.Text.Quoted
import Mathlib.Data.List.Induction

/-!
Contract: a URI template has one reading, and the scan for placeholders finds what that reading names.

Read from left to right, a template is literal text and placeholders in turn. Literal text ends at the first opening
brace, the name of a placeholder at the first closing brace, whatever stands between; what follows an opening brace
that is never closed belongs to no placeholder. A part ends at the first brace of its kind, so no other reading gives
the same text.

Owns: `UriTemplate.Reading` and its uniqueness, the parameters of a host as first appearances.
Does not own: whether a parameter has a variable (`Proofs.Model.HostUris`).
-/

namespace ApiDesign

/-! ## Readings -/

namespace UriTemplate

/-- A template read from left to right. -/
inductive Reading where
  /-- Literal text to the end. -/
  | literal (characters : List Char) (unopened : '\x7b' ∉ characters)
  /-- Literal text, and an opening brace that is never closed. -/
  | unterminated (before rest : List Char) (unopened : '\x7b' ∉ before) (unclosed : '\x7d' ∉ rest)
  /-- Literal text, a placeholder between braces, and what follows it. -/
  | placeholder (before name : List Char) (rest : Reading) (unopened : '\x7b' ∉ before) (unclosed : '\x7d' ∉ name)

namespace Reading

/-- The template that is read. -/
def text : Reading → List Char
  | .literal characters _ => characters
  | .unterminated before rest _ _ => before ++ '\x7b' :: rest
  | .placeholder before name rest _ _ => before ++ '\x7b' :: (name ++ '\x7d' :: rest.text)

/-- The names between braces, from left to right. -/
def names : Reading → List (List Char)
  | .literal _ _ => []
  | .unterminated _ _ _ _ => []
  | .placeholder _ name rest _ _ => name :: rest.names

/-- A template is read in one way only. -/
theorem text_injective : {left right : Reading} → left.text = right.text → left = right
  | .literal left notLeft, .literal right notRight, same => by
      cases same
      rfl
  | .literal left notLeft, .unterminated before rest _ _, same
  | .literal left notLeft, .placeholder before name rest _ _, same => by
      rw [show left = _ from same] at notLeft
      exact (notLeft (List.mem_append_right _ List.mem_cons_self)).elim
  | .unterminated before rest _ _, .literal right notRight, same
  | .placeholder before name rest _ _, .literal right notRight, same => by
      rw [show right = _ from same.symm] at notRight
      exact (notRight (List.mem_append_right _ List.mem_cons_self)).elim
  | .unterminated left leftRest notLeft notLeftRest, .unterminated right rightRest notRight notRightRest, same => by
      obtain ⟨rfl, rfl⟩ := Text.append_cons_inj_of_not_mem notLeft notRight same
      rfl
  | .unterminated left leftRest notLeft notLeftRest, .placeholder right name rest notRight notName, same => by
      obtain ⟨rfl, rfl⟩ := Text.append_cons_inj_of_not_mem notLeft notRight same
      exact (notLeftRest (by simp)).elim
  | .placeholder left name rest notLeft notName, .unterminated right rightRest notRight notRightRest, same => by
      obtain ⟨rfl, rfl⟩ := Text.append_cons_inj_of_not_mem notLeft notRight same
      exact (notRightRest (by simp)).elim
  | .placeholder left leftName leftRest notLeft notLeftName, .placeholder right rightName rightRest notRight
      notRightName, same => by
      obtain ⟨rfl, sameRest⟩ := Text.append_cons_inj_of_not_mem notLeft notRight same
      obtain ⟨rfl, sameText⟩ := Text.append_cons_inj_of_not_mem notLeftName notRightName sameRest
      rw [text_injective sameText]

/-- Every template can be read. -/
theorem exists_text_eq (template : List Char) : ∃ reading : Reading, reading.text = template := by
  induction size : template.length using Nat.strongRecOn generalizing template with
  | ind length inductionHypothesis =>
      by_cases opens : '\x7b' ∈ template
      · obtain ⟨before, rest, rfl, unopened⟩ := List.eq_append_cons_of_mem opens
        by_cases closes : '\x7d' ∈ rest
        · obtain ⟨name, after, rfl, unclosed⟩ := List.eq_append_cons_of_mem closes
          have shorter : after.length < length := by
            simp only [List.length_append, List.length_cons] at size
            omega
          obtain ⟨reading, rfl⟩ := inductionHypothesis after.length shorter after rfl
          exact ⟨.placeholder before name reading unopened unclosed, rfl⟩
        · exact ⟨.unterminated before rest unopened closes, rfl⟩
      · exact ⟨.literal template opens, rfl⟩

theorem existsUnique (template : List Char) : ∃! reading : Reading, reading.text = template := by
  obtain ⟨reading, isText⟩ := exists_text_eq template
  exact ⟨reading, isText, fun other isOther => text_injective (isOther.trans isText.symm)⟩

end Reading

/-! ## The scan -/

theorem placeholdersFrom_literal {before : List Char} (unopened : '\x7b' ∉ before) (rest : List Char) :
    placeholdersFrom none (before ++ rest) = placeholdersFrom none rest := by
  induction before with
  | nil => rfl
  | cons character before inductionHypothesis =>
      obtain ⟨differs, unopenedRest⟩ := not_or.mp (mt List.mem_cons.mpr unopened)
      rw [List.cons_append, placeholdersFrom, if_neg (Ne.symm differs), inductionHypothesis unopenedRest]

theorem placeholdersFrom_name {name : List Char} (unclosed : '\x7d' ∉ name) (opened rest : List Char) :
    placeholdersFrom (some opened) (name ++ '\x7d' :: rest) =
      (opened.reverse ++ name) :: placeholdersFrom none rest := by
  induction name generalizing opened with
  | nil => simp [placeholdersFrom]
  | cons character name inductionHypothesis =>
      obtain ⟨differs, unclosedRest⟩ := not_or.mp (mt List.mem_cons.mpr unclosed)
      rw [List.cons_append, placeholdersFrom, if_neg (Ne.symm differs), inductionHypothesis unclosedRest]
      simp

theorem placeholdersFrom_unclosed {rest : List Char} (unclosed : '\x7d' ∉ rest) (opened : List Char) :
    placeholdersFrom (some opened) rest = [] := by
  induction rest generalizing opened with
  | nil => rfl
  | cons character rest inductionHypothesis =>
      obtain ⟨differs, unclosedRest⟩ := not_or.mp (mt List.mem_cons.mpr unclosed)
      rw [placeholdersFrom, if_neg (Ne.symm differs), inductionHypothesis unclosedRest]

/-- The scan finds the names that the reading of a template has between braces. -/
theorem placeholdersFrom_text : (reading : Reading) → placeholdersFrom none reading.text = reading.names
  | .literal characters unopened => by
      have scanned := placeholdersFrom_literal unopened []
      rwa [List.append_nil] at scanned
  | .unterminated before rest unopened unclosed => by
      rw [Reading.text, placeholdersFrom_literal unopened, placeholdersFrom, if_pos rfl,
        placeholdersFrom_unclosed unclosed]
      rfl
  | .placeholder before name rest unopened unclosed => by
      rw [Reading.text, placeholdersFrom_literal unopened, placeholdersFrom, if_pos rfl,
        placeholdersFrom_name unclosed, placeholdersFrom_text rest]
      rfl

/-- The names between braces that are not empty, from left to right. -/
def Reading.parameters (reading : Reading) : List String :=
  (reading.names.filter fun name => !name.isEmpty).map String.ofList

theorem parameters_eq {reading : Reading} {template : String} (reads : reading.text = template.toList) :
    parameters template = reading.parameters := by
  rw [parameters, ← reads, placeholdersFrom_text]
  rfl

end UriTemplate

/-! ## First appearances -/

/-- A list has the names of another one, each once, in the order in which they first appear there. -/
structure ListsFirsts (listed names : List String) : Prop where
  nodup : listed.Nodup
  mem_iff : ∀ name, name ∈ listed ↔ name ∈ names
  inOrder : listed.Pairwise fun earlier later => names.idxOf earlier < names.idxOf later

/-- Adding names one by one, each unless it is there, lists their first appearances. -/
theorem listsFirsts_addNames (names : List String) : ListsFirsts (addNames names []) names where
  nodup := nodup_addNames List.nodup_nil
  mem_iff := by simp [mem_addNames]
  inOrder := by
    induction names using List.reverseRecOn with
    | nil => exact .nil
    | append_singleton names last inductionHypothesis =>
        have members : ∀ name, name ∈ addNames names [] ↔ name ∈ names := by simp [mem_addNames]
        have step : addNames (names ++ [last]) [] =
            if (addNames names []).contains last then addNames names [] else addNames names [] ++ [last] := by
          rw [addNames, List.foldl_append]
          rfl
        -- A name that was there already appears where it appeared before.
        have keeps : (addNames names []).Pairwise fun earlier later =>
            (names ++ [last]).idxOf earlier < (names ++ [last]).idxOf later := by
          refine inductionHypothesis.imp_of_mem fun {earlier later} isEarlier isLater before => ?_
          rwa [List.idxOf_append_of_mem ((members earlier).mp isEarlier),
            List.idxOf_append_of_mem ((members later).mp isLater)]
        rw [step]
        split
        · exact keeps
        · rename_i isNew
          have notThere : last ∉ names := by
            rw [← members]
            simpa using isNew
          refine List.pairwise_append.mpr ⟨keeps, List.pairwise_singleton _ _, ?_⟩
          intro earlier isEarlier later isLast
          have isThere := (members earlier).mp isEarlier
          rw [List.mem_singleton.mp isLast, List.idxOf_append_of_mem isThere,
            List.idxOf_append_of_notMem notThere]
          exact Nat.lt_of_lt_of_le (List.idxOf_lt_length_of_mem isThere) (Nat.le_add_right _ _)

/-- The parameters of a host are those of the readings of its templates, in the order of their first appearance. -/
theorem Host.listsFirsts_uriParameters {host : Host} {readings : List UriTemplate.Reading}
    (reads : List.Forall₂ (fun reading uri => reading.text = uri.toList) readings host.uris) :
    ListsFirsts host.uriParameters (readings.flatMap (·.parameters)) := by
  have sameNames : host.uris.flatMap UriTemplate.parameters = readings.flatMap (·.parameters) := by
    generalize host.uris = uris at reads
    induction reads with
    | nil => rfl
    | cons isText _ inductionHypothesis =>
        rw [List.flatMap_cons, List.flatMap_cons, inductionHypothesis, UriTemplate.parameters_eq isText]
  rw [uriParameters, sameNames]
  exact listsFirsts_addNames _

end ApiDesign
