import ApiDesign.Evaluation.Defaults

/-!
Contract: which errors a method gets from its service.

While errors are handed over, one look-up decides about each: it finds the method's own errors and the copies handed
over before. So what is added is one copy of the first error of each name that the method lacks, in the order of the
service, and nothing is added a second time.

Owns: `ErrorAnswer.copiesBeside`, the equation for a fold of `Method.inherit`.
Does not own: that names are distinct in a model (`Proofs.Evaluation.DistinctNames`).
-/

namespace ApiDesign

namespace ErrorAnswer

/-- One copy, marked as inherited, of the first error of each name that is not known. -/
def copiesBeside (known : List String) (errors : List ErrorAnswer) : List ErrorAnswer :=
  ((errors.filter fun error => error.name ∉ known).eraseDupsBy fun error other => error.name == other.name).map
    fun error => { error with inherited := true }

@[simp] theorem copiesBeside_nil (known : List String) : copiesBeside known [] = [] := rfl

theorem copiesBeside_cons_of_mem {known : List String} {head : ErrorAnswer} (isKnown : head.name ∈ known)
    (rest : List ErrorAnswer) : copiesBeside known (head :: rest) = copiesBeside known rest := by
  unfold copiesBeside
  rw [List.filter_cons_of_neg (by simpa using isKnown)]

/-- The copy of an error of a new name comes first; from there on its name is known. -/
theorem copiesBeside_cons_of_notMem {known : List String} {head : ErrorAnswer} (isNew : head.name ∉ known)
    (rest : List ErrorAnswer) :
    copiesBeside known (head :: rest) =
      { head with inherited := true } :: copiesBeside (known ++ [head.name]) rest := by
  unfold copiesBeside
  rw [List.filter_cons_of_pos (by simpa using isNew), List.eraseDupsBy_cons, List.map_cons, List.filter_filter]
  congr 4
  funext other
  by_cases same : other.name = head.name
  · simp [same]
  · simp [same]

/-- Every copy is one of an error with a name that is not known. -/
theorem exists_of_mem_copiesBeside {error : ErrorAnswer} : ∀ {errors : List ErrorAnswer} {known : List String},
    error ∈ copiesBeside known errors →
      ∃ original ∈ errors, original.name ∉ known ∧ error = { original with inherited := true }
  | head :: rest, known, member => by
      by_cases isKnown : head.name ∈ known
      · rw [copiesBeside_cons_of_mem isKnown] at member
        obtain ⟨original, inRest, copied⟩ := exists_of_mem_copiesBeside member
        exact ⟨original, List.mem_cons_of_mem _ inRest, copied⟩
      · rw [copiesBeside_cons_of_notMem isKnown, List.mem_cons] at member
        rcases member with isHead | inRest
        · exact ⟨head, List.mem_cons_self, isKnown, isHead⟩
        · obtain ⟨original, inRest, isNew, isCopy⟩ := exists_of_mem_copiesBeside inRest
          exact ⟨original, List.mem_cons_of_mem _ inRest, fun knownBefore => isNew (List.mem_append_left _ knownBefore),
            isCopy⟩

/-- There is a copy for exactly the names that are not known. -/
theorem mem_names_copiesBeside {name : String} : ∀ {errors : List ErrorAnswer} {known : List String},
    name ∈ (copiesBeside known errors).map (·.name) ↔ name ∈ errors.map (·.name) ∧ name ∉ known
  | [], _ => by simp
  | head :: rest, known => by
      by_cases isKnown : head.name ∈ known
      · rw [copiesBeside_cons_of_mem isKnown, mem_names_copiesBeside, List.map_cons, List.mem_cons]
        constructor
        · exact fun ⟨inRest, isNew⟩ => ⟨.inr inRest, isNew⟩
        · rintro ⟨rfl | inRest, isNew⟩
          · exact absurd isKnown isNew
          · exact ⟨inRest, isNew⟩
      · rw [copiesBeside_cons_of_notMem isKnown, List.map_cons, List.map_cons, List.mem_cons, List.mem_cons,
          mem_names_copiesBeside, List.mem_append, List.mem_singleton]
        constructor
        · rintro (rfl | ⟨inRest, isNew⟩)
          · exact ⟨.inl rfl, isKnown⟩
          · exact ⟨.inr inRest, fun knownBefore => isNew (.inl knownBefore)⟩
        · rintro ⟨isHead | inRest, isNew⟩
          · exact .inl isHead
          · by_cases isHead : name = head.name
            · exact .inl isHead
            · exact .inr ⟨inRest, by simp [isNew, isHead]⟩

/-- No name is copied twice. -/
theorem nodup_names_copiesBeside : ∀ (errors : List ErrorAnswer) (known : List String),
    ((copiesBeside known errors).map (·.name)).Nodup
  | [], _ => List.nodup_nil
  | head :: rest, known => by
      by_cases isKnown : head.name ∈ known
      · rw [copiesBeside_cons_of_mem isKnown]
        exact nodup_names_copiesBeside rest known
      · rw [copiesBeside_cons_of_notMem isKnown, List.map_cons, List.nodup_cons, mem_names_copiesBeside]
        exact ⟨by simp, nodup_names_copiesBeside rest _⟩

/-- Where all names are known, nothing is copied. -/
theorem copiesBeside_eq_nil {known : List String} {errors : List ErrorAnswer}
    (allKnown : ∀ error ∈ errors, error.name ∈ known) : copiesBeside known errors = [] := by
  unfold copiesBeside
  rw [List.filter_eq_nil_iff.mpr fun error member => by simp [allKnown error member]]
  rfl

end ErrorAnswer

namespace Method

theorem isSome_error?_iff {method : Method} {name : String} :
    (method.error? name).isSome ↔ name ∈ method.errors.map (·.name) := by
  simp [error?, List.find?_isSome]

/-- Handing errors to a method puts copies of those it lacks behind its own and changes nothing else. -/
theorem foldl_inherit (errors : List ErrorAnswer) (method : Method) :
    errors.foldl Method.inherit method =
      { method with
        errors := method.errors ++ ErrorAnswer.copiesBeside (method.errors.map (·.name)) errors } := by
  induction errors generalizing method with
  | nil => simp
  | cons head rest inductionHypothesis =>
      rw [List.foldl_cons, inductionHypothesis]
      unfold Method.inherit
      by_cases isKnown : head.name ∈ method.errors.map (·.name)
      · rw [if_pos (isSome_error?_iff.mpr isKnown), ErrorAnswer.copiesBeside_cons_of_mem isKnown]
      · rw [if_neg (fun found => isKnown (isSome_error?_iff.mp found)), ErrorAnswer.copiesBeside_cons_of_notMem isKnown]
        simp

/-- A method that was handed errors lacks none of them: handing them over again changes nothing. -/
theorem foldl_inherit_foldl_inherit (errors : List ErrorAnswer) (method : Method) :
    errors.foldl Method.inherit (errors.foldl Method.inherit method) = errors.foldl Method.inherit method := by
  rw [foldl_inherit errors method, foldl_inherit]
  have allKnown : ∀ error ∈ errors, error.name ∈
      (method.errors ++ ErrorAnswer.copiesBeside (method.errors.map (·.name)) errors).map (·.name) := by
    intro error member
    rw [List.map_append, List.mem_append, ErrorAnswer.mem_names_copiesBeside]
    by_cases isKnown : error.name ∈ method.errors.map (·.name)
    · exact .inl isKnown
    · exact .inr ⟨List.mem_map_of_mem member, isKnown⟩
  rw [ErrorAnswer.copiesBeside_eq_nil allKnown, List.append_nil]

end Method

end ApiDesign
