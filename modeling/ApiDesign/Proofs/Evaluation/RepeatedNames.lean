import ApiDesign.Evaluation.Findings
import Mathlib.Data.List.Count
import Mathlib.Data.List.Nodup

/-!
Contract: each name that comes more than once is found, and found once.

The scan remembers the names it has seen and those it has found. A name is found at its second occurrence, since it was
seen before, and never again, since it was found before.

Owns: what is repeated among names, and when nothing is.
Does not own: which names are compared (`Proofs.Evaluation.DistinctNames`, `Proofs.Evaluation.Exactness`).
-/

namespace ApiDesign

/-- What is repeated and not found yet: a name that was seen and comes again, or one that comes twice. -/
theorem mem_repeatedFrom_iff {name : String} {seen reported names : List String} :
    name ∈ repeatedFrom seen reported names ↔
      name ∉ reported ∧ (name ∈ seen ∧ name ∈ names ∨ 1 < names.count name) := by
  induction names generalizing seen reported with
  | nil => simp [repeatedFrom]
  | cons first rest inductionHypothesis =>
      have occurs : name ∈ rest ↔ 0 < rest.count name := List.count_pos_iff.symm
      rw [repeatedFrom, List.count_cons]
      split
      · split <;> grind
      · grind

theorem nodup_repeatedFrom : {seen reported names : List String} → (repeatedFrom seen reported names).Nodup
  | _, _, [] => List.nodup_nil
  | seen, reported, first :: rest => by
      rw [repeatedFrom]
      split
      · split
        · exact nodup_repeatedFrom
        · refine List.nodup_cons.mpr ⟨?_, nodup_repeatedFrom⟩
          rw [mem_repeatedFrom_iff]
          simp
      · exact nodup_repeatedFrom

theorem mem_repeatedNames_iff {name : String} {names : List String} :
    name ∈ repeatedNames names ↔ 1 < names.count name := by
  simp [repeatedNames, mem_repeatedFrom_iff]

theorem mem_duplicateFindings_iff {trail : List String} {kind : Kind} {names : List String} {diagnostic : Diagnostic} :
    diagnostic ∈ duplicateFindings trail kind names ↔
      ∃ name, 1 < names.count name ∧ diagnostic = .located trail (.duplicateName kind.keyword name) := by
  simp [duplicateFindings, mem_repeatedNames_iff, eq_comm]

/-- Names have no finding exactly if they are distinct. -/
theorem duplicateFindings_eq_nil_iff {trail : List String} {kind : Kind} {names : List String} :
    duplicateFindings trail kind names = [] ↔ names.Nodup := by
  rw [duplicateFindings, List.map_eq_nil_iff, List.eq_nil_iff_forall_not_mem, List.nodup_iff_count_le_one]
  simp only [mem_repeatedNames_iff, Nat.not_lt]

/-- A name that comes more than once is reported once, and only where the names stand. -/
theorem count_duplicateFindings (trail path : List String) (kind : Kind) (names : List String) (name : String) :
    (duplicateFindings trail kind names).count (.located path (.duplicateName kind.keyword name)) =
      if trail = path ∧ 1 < names.count name then 1 else 0 := by
  have distinct : (duplicateFindings trail kind names).Nodup := by
    refine nodup_repeatedFrom.map fun left right same => ?_
    simpa [Diagnostic.located] using same
  have present : Diagnostic.located path (.duplicateName kind.keyword name) ∈ duplicateFindings trail kind names ↔
      trail = path ∧ 1 < names.count name := by
    rw [mem_duplicateFindings_iff]
    simp only [Diagnostic.located, Diagnostic.mk.injEq, Cause.duplicateName.injEq, Option.some.injEq]
    grind
  simp only [distinct.count, present]

end ApiDesign
