import ApiDesign.Proofs.Model.Vocabulary
import ApiDesign.Proofs.Schema.Visits

/-!
Contract: a name means the shape it stands for.

Asked about any value, a reference answers what the shape of its name answers, a shortcut asks a reference about each
item of an array, and a name that is unknown or whose aliases never end allows every value. An alias on a circle leads
nowhere: it would have to lead to the end of its chain in fewer steps than it does.

Owns: `Vocabulary.NamesMeanShapes`, for vocabularies without shortcuts and so for every model.
Does not own: that the calls come to an end (`Proofs.Schema.Visits`).
-/

namespace ApiDesign

namespace Vocabulary

variable {vocabulary : Vocabulary}

/-! ## Aliases on a circle -/

/-- What a reference leads to depends on its name only. -/
theorem Leads.of_name_eq {steps : Nat} {left right : TypeRef} {final : DataType}
    (leads : vocabulary.Leads steps (.named left) final) (sameName : left.name = right.name) :
    vocabulary.Leads steps (.named right) final := by
  cases leads with
  | concrete isConcrete => cases isConcrete
  | through known onward => exact .through (sameName ▸ known) onward

/-- Where a name leads, the names it is an alias of lead in fewer steps. -/
theorem Leads.of_transGen {steps : Nat} {name other : String} {final : DataType}
    (leads : vocabulary.Leads steps (.named ⟨name, none⟩) final)
    (onward : Relation.TransGen vocabulary.IsAlias name other) :
    ∃ fewer, fewer < steps ∧ vocabulary.Leads fewer (.named ⟨other, none⟩) final := by
  have step : ∀ {steps name other}, vocabulary.Leads steps (.named ⟨name, none⟩) final →
      vocabulary.IsAlias name other →
      ∃ fewer, fewer < steps ∧ vocabulary.Leads fewer (.named ⟨other, none⟩) final := by
    rintro steps name other leads ⟨shape, reference, stands, isReference, rfl⟩
    cases leads with
    | concrete isConcrete => cases isConcrete
    | through known rest =>
        cases stands.symm.trans known
        rw [isReference] at rest
        exact ⟨_, Nat.lt_succ_self _, rest.of_name_eq rfl⟩
  induction onward with
  | single isAlias => exact step leads isAlias
  | tail _ isAlias inductionHypothesis =>
      obtain ⟨fewer, less, leadsOn⟩ := inductionHypothesis
      obtain ⟨fewest, lesser, leadsFurther⟩ := step leadsOn isAlias
      exact ⟨fewest, Nat.lt_trans lesser less, leadsFurther⟩

/-- Aliases that run into a cycle lead nowhere. -/
theorem RunsIntoCycle.not_leads {type final : DataType} {steps : Nat} (cycle : vocabulary.RunsIntoCycle type) :
    ¬ vocabulary.Leads steps type final := by
  obtain ⟨reference, name, rfl, reaches, around⟩ := cycle
  intro leads
  have start : vocabulary.Leads steps (.named ⟨reference.name, none⟩) final := leads.of_name_eq rfl
  obtain ⟨atName, leadsThere⟩ : ∃ atName, vocabulary.Leads atName (.named ⟨name, none⟩) final := by
    rcases Relation.reflTransGen_iff_eq_or_transGen.mp reaches with rfl | further
    · exact ⟨steps, start⟩
    · obtain ⟨fewer, _, leadsOn⟩ := start.of_transGen further
      exact ⟨fewer, leadsOn⟩
  obtain ⟨fewer, less, leadsAgain⟩ := leadsThere.of_transGen around
  have sameSteps := (leadsThere.unique leadsAgain rfl).1
  omega

/-- Aliases that run into a cycle mean nothing definite. -/
theorem RunsIntoCycle.meaning_eq (noShortcuts : vocabulary.HasNoShortcuts) {reference : TypeRef}
    (cycle : vocabulary.RunsIntoCycle (.named reference)) : vocabulary.meaning (.named reference) = .anything := by
  rcases follow_cases noShortcuts vocabulary.names.length [] (.named reference) rfl with
    nothing | ⟨steps, final, _, leads⟩
  · exact nothing
  · exact (cycle.not_leads leads).elim

/-! ## Names and their shapes -/

/-- A reference to an unknown name means nothing definite. -/
theorem meaning_unknown {reference : TypeRef} (unknown : vocabulary.shapeOf reference.name = none) :
    vocabulary.meaning (.named reference) = .anything := by
  unfold meaning follow
  simp only [List.contains_nil, Bool.false_eq_true, if_false, unknown]

/-- A shortcut for a known name accepts the arrays of what a reference to that name accepts. -/
theorem accepts_shortcut_iff (noShortcuts : vocabulary.HasNoShortcuts) {reference : TypeRef} {shape : Attribute}
    (known : vocabulary.shapeOf reference.name = some shape) (value : Value) :
    vocabulary.accepts (.collection reference) value = true ↔
      ∃ items, value = .array items ∧ ∀ item ∈ items, vocabulary.accepts (.named reference) item = true := by
  have meansItems : vocabulary.meaning (.collection reference) = .itemsOf shape.type := by
    rw [meaning_shortcut, known]
    rfl
  cases value with
  | array items =>
      have onItems : vocabulary.accepts (.collection reference) (.array items) =
          items.all (vocabulary.accepts shape.type) := by
        simp only [accepts, meansItems, acceptsItems_eq_all]
      rw [onItems, List.all_eq_true]
      constructor
      · intro each
        exact ⟨items, rfl, fun item member => (accepts_named noShortcuts known item).trans (each item member)⟩
      · rintro ⟨_, same, each⟩ item member
        cases same
        exact (accepts_named noShortcuts known item).symm.trans (each item member)
  | _ => simp [accepts, meansItems]

/-- Names mean the shapes they stand for, whatever value is asked about. -/
structure NamesMeanShapes (vocabulary : Vocabulary) : Prop where
  /-- Every question comes to an end, at the same answer from some depth of calls on. -/
  terminates : ∀ type value, ∃ enough, ∀ depth, enough ≤ depth →
    vocabulary.acceptsWithin? depth [] type value = some (vocabulary.accepts type value)
  named : ∀ reference shape, vocabulary.shapeOf reference.name = some shape → ∀ value,
    vocabulary.accepts (.named reference) value = vocabulary.accepts shape.type value
  collection : ∀ reference shape, vocabulary.shapeOf reference.name = some shape → ∀ value,
    (vocabulary.accepts (.collection reference) value = true ↔
      ∃ items, value = .array items ∧ ∀ item ∈ items, vocabulary.accepts (.named reference) item = true)
  unknown : ∀ reference, vocabulary.shapeOf reference.name = none → ∀ value,
    vocabulary.accepts (.named reference) value = true ∧ vocabulary.accepts (.collection reference) value = true
  cyclic : ∀ reference, vocabulary.RunsIntoCycle (.named reference) → ∀ value,
    vocabulary.accepts (.named reference) value = true

end Vocabulary

/-- Names mean the shapes they stand for in every vocabulary where no name stands for a shortcut. The vocabularies of
models are such. -/
theorem namesMeanShapes :
    (∀ vocabulary : Vocabulary, vocabulary.HasNoShortcuts → vocabulary.NamesMeanShapes) ∧
      ∀ settings declarations model, evaluate settings declarations = .ok model →
        model.vocabulary.HasNoShortcuts := by
  constructor
  · intro vocabulary noShortcuts
    exact {
      terminates := fun type value =>
        ⟨(vocabulary.names.length + 1) * value.height, fun _ enough => Vocabulary.acceptsWithin?_eq type value enough⟩
      named := fun _ _ known value => Vocabulary.accepts_named noShortcuts known value
      collection := fun _ _ known value => Vocabulary.accepts_shortcut_iff noShortcuts known value
      unknown := by
        intro reference unknown value
        refine ⟨Vocabulary.accepts_of_anything (Vocabulary.meaning_unknown unknown) value, ?_⟩
        refine Vocabulary.accepts_of_anything ?_ value
        rw [Vocabulary.meaning_shortcut, unknown]
        rfl
      cyclic := fun _ cycle value => Vocabulary.accepts_of_anything (cycle.meaning_eq noShortcuts) value }
  · intro settings declarations model evaluated
    obtain ⟨registry, declares, succeeds, rfl⟩ := evaluate_eq_ok_iff.mp evaluated
    exact (succeeds.isConsistent declares.isDeclared).hasNoShortcuts

/-- A type that refers to itself, an alias of it, and two aliases of each other. -/
theorem namesMeanShapes_grove :
    ∃ model,
      evaluate {}
        [.userType "Tree" [.type (.object [("height", .ofType (.primitive .int32)),
          ("branches", .ofType (.array (.ofType (.reference "Tree"))))])],
        .userType "Oak" [.type (.reference "Tree")],
        .userType "Hen" [.type (.reference "Egg")], .userType "Egg" [.type (.reference "Hen")]] = .ok model ∧
      model.vocabulary.HasNoShortcuts ∧ model.vocabulary.NamesMeanShapes ∧
      model.vocabulary.accepts (.reference "Oak") (.map [(.text "branches", .array [.map [], .null])]) = false ∧
      model.vocabulary.accepts (.collectionOf "Oak") (.array [.map [(.text "branches", .array [.map []])]]) = true ∧
      model.vocabulary.accepts (.reference "Hen") (.array [.null]) = true := by
  refine exists_model (fun model =>
    !model.vocabulary.accepts (.reference "Oak") (.map [(.text "branches", .array [.map [], .null])]) &&
      model.vocabulary.accepts (.collectionOf "Oak") (.array [.map [(.text "branches", .array [.map []])]]) &&
      model.vocabulary.accepts (.reference "Hen") (.array [.null]))
    (by decide +kernel) fun model evaluated answers => ?_
  have noShortcuts := namesMeanShapes.2 _ _ model evaluated
  rw [Bool.and_eq_true, Bool.and_eq_true, Bool.not_eq_true'] at answers
  exact ⟨noShortcuts, namesMeanShapes.1 _ noShortcuts, answers.1.1, answers.1.2, answers.2⟩

end ApiDesign
