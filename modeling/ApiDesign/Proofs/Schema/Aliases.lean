import ApiDesign.Proofs.Schema.Acceptance
import Mathlib.Logic.Relation

/-!
Contract: aliases come to an end or run into a cycle.

Following aliases meets known names only, and there are finitely many of them. So a chain of aliases that meets no name
twice comes to an end: at a type that is no reference, where every name that is met is known and stands for no
shortcut.

Owns: `Vocabulary.IsAlias`, `Vocabulary.RunsIntoCycle`, the dichotomy.
Does not own: following with a bound (`Proofs.Schema.Acceptance`).
-/

namespace ApiDesign.Vocabulary

variable {vocabulary : Vocabulary}

/-- A name stands for a reference to another name. -/
def IsAlias (vocabulary : Vocabulary) (name other : String) : Prop :=
  ∃ shape reference, vocabulary.shapeOf name = some shape ∧ shape.type = .named reference ∧ reference.name = other

/-- A type is a reference, and its aliases come to a name that stands for itself in the end. -/
def RunsIntoCycle (vocabulary : Vocabulary) (type : DataType) : Prop :=
  ∃ reference name, type = .named reference ∧ Relation.ReflTransGen vocabulary.IsAlias reference.name name ∧
    Relation.TransGen vocabulary.IsAlias name name

/-- A type is no reference to an unknown name. -/
def Knows (vocabulary : Vocabulary) (type : DataType) : Prop :=
  ∀ reference, type = .named reference → (vocabulary.shapeOf reference.name).isSome

/-- No name stands for a reference to an unknown name. -/
def IsClosed (vocabulary : Vocabulary) : Prop :=
  ∀ name shape, vocabulary.shapeOf name = some shape → vocabulary.Knows shape.type

/-- There are at least as many names as have been seen. -/
theorem length_le_of_seen {seen : List String} (distinct : seen.Nodup)
    (known : ∀ name ∈ seen, (vocabulary.shapeOf name).isSome) : seen.length ≤ vocabulary.names.length :=
  (List.subperm_of_subset distinct fun name member => vocabulary.covers name (known name member)).length_le

/-- After some distinct names, each of which leads to where the chain is now, a chain comes to an end or meets one of
them again. -/
theorem leads_or_runsIntoCycle_after (noShortcuts : vocabulary.HasNoShortcuts) (closed : vocabulary.IsClosed)
    {bound : Nat} {seen : List String} {type : DataType} (enough : vocabulary.names.length < bound + seen.length)
    (distinct : seen.Nodup) (known : ∀ name ∈ seen, (vocabulary.shapeOf name).isSome)
    (behind : ∀ name ∈ seen, ∀ reference, type = .named reference →
      Relation.TransGen vocabulary.IsAlias name reference.name)
    (notShortcut : type.shortcut? = none) (knows : vocabulary.Knows type) :
    (∃ steps final, vocabulary.Leads steps type final) ∨ vocabulary.RunsIntoCycle type := by
  -- Each step meets a name that is known and new, so the steps do not run out before the names do.
  induction bound generalizing seen type with
  | zero =>
      have bounded := length_le_of_seen distinct known
      omega
  | succ bound inductionHypothesis =>
      cases type with
      | collection shortcut => cases notShortcut
      | named reference =>
          by_cases met : reference.name ∈ seen
          · exact .inr ⟨reference, reference.name, rfl, .refl, behind _ met reference rfl⟩
          · obtain ⟨shape, stands⟩ := Option.isSome_iff_exists.mp (knows reference rfl)
            have step : ∀ next, shape.type = .named next → vocabulary.IsAlias reference.name next.name :=
              fun next isNext => ⟨shape, next, stands, isNext, rfl⟩
            have stillBehind : ∀ name ∈ reference.name :: seen, ∀ next, shape.type = .named next →
                Relation.TransGen vocabulary.IsAlias name next.name := by
              intro name member next isNext
              rcases List.mem_cons.mp member with rfl | before
              · exact .single (step next isNext)
              · exact (behind name before reference rfl).tail (step next isNext)
            have onward := inductionHypothesis (by rw [List.length_cons]; omega) (List.nodup_cons.mpr ⟨met, distinct⟩)
              (by simpa [stands] using known) stillBehind (noShortcuts _ shape stands) (closed _ shape stands)
            rcases onward with ⟨steps, final, leads⟩ | ⟨next, name, isNext, reaches, cycle⟩
            · exact .inl ⟨steps + 1, final, .through stands leads⟩
            · exact .inr ⟨reference, name, rfl, reaches.head (step next isNext), cycle⟩
      | _ => exact .inl ⟨0, _, .concrete rfl⟩

/-- Where every name is known and none stands for a shortcut, aliases come to an end or run into a cycle. -/
theorem leads_or_runsIntoCycle (noShortcuts : vocabulary.HasNoShortcuts) (closed : vocabulary.IsClosed)
    {type : DataType} (notShortcut : type.shortcut? = none) (knows : vocabulary.Knows type) :
    (∃ steps final, vocabulary.Leads steps type final) ∨ vocabulary.RunsIntoCycle type :=
  leads_or_runsIntoCycle_after noShortcuts closed (Nat.lt_succ_self _ : vocabulary.names.length < _ + [].length)
    List.nodup_nil (by simp) (by simp) notShortcut knows

end ApiDesign.Vocabulary
