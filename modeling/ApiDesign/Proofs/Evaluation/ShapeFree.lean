import ApiDesign.Evaluation.Views
import ApiDesign.Proofs.Evaluation.Agreement

/-!
Contract: derivation of views does not look at shapes.

A step reads identifiers, views and the places of elements, so it does to result types with other shapes what it does
to the given ones. Linking by two indices that agree changes result types alike, but for their shapes; so the same is
found about their views.

Owns: `ResultType.withoutShape`, derivation under a change of shapes.
Does not own: which views are derived (`Proofs.Evaluation.Views`).
-/

namespace ApiDesign

/-! ## Derivation under a change of shapes -/

namespace Derivation

/-- A state of derivation with every shape changed. -/
def mapShape (change : Attribute → Attribute) (derivation : Derivation) : Derivation :=
  { derivation with resultTypes := derivation.resultTypes.map (ResultType.mapShape change) }

variable (change : Attribute → Attribute)

theorem start_mapShape (resultTypes : List ResultType) :
    start (resultTypes.map (ResultType.mapShape change)) = (start resultTypes).mapShape change := by
  simp only [start, mapShape, List.zipIdx_map, List.filterMap_map, List.length_map]
  rfl

theorem inherit_mapShape (derivation : Derivation) (position element : Nat) (collection : ResultType)
    (views : List View) :
    (derivation.mapShape change).inherit position element (collection.mapShape change) views =
      (derivation.inherit position element collection views).mapShape change := by
  have sameDefault : ({ collection.mapShape change with views := views } : ResultType).hasDefaultView =
      ({ collection with views := views } : ResultType).hasDefaultView := rfl
  unfold inherit
  simp only [sameDefault]
  split <;> simp [mapShape, ResultType.mapShape, List.map_set]

theorem complete_mapShape (derivation : Derivation) (position : Nat) (collection : ResultType) (views : List View) :
    (derivation.mapShape change).complete position (collection.mapShape change) views =
      (derivation.complete position collection views).mapShape change := by
  simp [complete, mapShape, ResultType.mapShape, List.map_set]

/-- A step does the same whatever the shapes are. -/
theorem derive_mapShape (derivation : Derivation) (entry : Nat × Nat) :
    (derivation.mapShape change).derive entry = (derivation.derive entry).mapShape change := by
  obtain ⟨position, element⟩ := entry
  have atPlace : ∀ place, (derivation.mapShape change).resultTypes[place]? =
      derivation.resultTypes[place]?.map (ResultType.mapShape change) := fun place => List.getElem?_map
  unfold derive
  dsimp only
  rw [atPlace, atPlace]
  cases derivation.resultTypes[position]? with
  | none => rfl
  | some collection =>
      cases derivation.resultTypes[element]? with
      | none => rfl
      | some source =>
          have sameSort : (collection.mapShape change).inheritsViews = collection.inheritsViews := rfl
          let rest := { derivation with pending := derivation.pending.filter fun other => other.1 != position }
          simp only [Option.map_some, sameSort]
          split
          · exact inherit_mapShape change rest position element collection source.views
          · exact complete_mapShape change rest position collection source.views

theorem foldl_derive_mapShape (entries : List (Nat × Nat)) (derivation : Derivation) :
    entries.foldl derive (derivation.mapShape change) = (entries.foldl derive derivation).mapShape change := by
  induction entries generalizing derivation with
  | nil => rfl
  | cons entry rest inductionHypothesis =>
      rw [List.foldl_cons, List.foldl_cons, derive_mapShape, inductionHypothesis]

theorem rounds_mapShape (count : Nat) (derivation : Derivation) :
    rounds count (derivation.mapShape change) = (rounds count derivation).mapShape change := by
  induction count generalizing derivation with
  | zero => rfl
  | succ count inductionHypothesis =>
      have sameRound : (derivation.mapShape change).round = derivation.round.mapShape change :=
        foldl_derive_mapShape change derivation.ready derivation
      rw [rounds, sameRound, inductionHypothesis, rounds]

/-- A whole run does the same whatever the shapes are. -/
theorem run_mapShape (resultTypes : List ResultType) :
    run (resultTypes.map (ResultType.mapShape change)) = (run resultTypes).mapShape change := by
  rw [run, start_mapShape]
  exact rounds_mapShape change _ _

end Derivation

/-! ## Result types without their shapes -/

/-- A result type with nothing said about its shape. -/
def ResultType.withoutShape (resultType : ResultType) : ResultType :=
  resultType.mapShape fun _ => ⟨.emptyObject, {}⟩

/-- Result types that differ in shapes only give rise to the same findings about views. -/
theorem Derivation.diagnostics_run_eq {left right : List ResultType}
    (same : left.map (·.withoutShape) = right.map (·.withoutShape)) :
    (run left).diagnostics = (run right).diagnostics := by
  have unchanged : ∀ resultTypes : List ResultType,
      (run (resultTypes.map (·.withoutShape))).diagnostics = (run resultTypes).diagnostics := by
    intro resultTypes
    unfold ResultType.withoutShape
    rw [run_mapShape]
    rfl
  rw [← unchanged left, same, unchanged right]

/-- Linked by indices that agree on the names of its elements, a result type differs in its shape only. -/
theorem TypeIndex.AgreeOn.withoutShape_link {names : String → Prop} {left right : TypeIndex}
    (agree : AgreeOn names left right) {resultType : ResultType}
    (isName : ∀ facts ∈ resultType.collection, names facts.element.name) :
    (resultType.link left).withoutShape = (resultType.link right).withoutShape := by
  unfold ResultType.link
  cases collects : resultType.collection with
  | none => rfl
  | some facts =>
      dsimp only
      rw [agree.elementTarget?_eq (isName facts collects)]
      cases facts.elementTarget? right <;> rfl

end ApiDesign
