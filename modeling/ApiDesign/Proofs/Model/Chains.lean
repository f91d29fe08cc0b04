import ApiDesign.Proofs.Evaluation.Staging
import ApiDesign.Proofs.Evaluation.ViewFlow
import ApiDesign.Proofs.Model.DefaultViews

/-!
Contract: the chain of elements of a result type, as a model shows it.

`Model.ChainEnds` follows the links of a model from a collection to its element until it comes to a result type that is
no collection. Along such a chain, views are what the equation of derivation makes of the views of the element.

Owns: `Model.ChainEnds`, the views of collections in terms of the linked registry.
Does not own: which views were declared (`Proofs.Model.Views`), what they select (`Proofs.Model.Selections`).
-/

namespace ApiDesign

/-- The chain of elements that starts at a result type ends at a result type that is no collection. -/
inductive Model.ChainEnds (model : Model) : ResultType → ResultType → Prop
  | plain {resultType : ResultType} (notCollection : resultType.isCollection = false) :
      ChainEnds model resultType resultType
  | following {collection element innermost : ResultType} {facts : Collection}
      (collects : collection.collection = some facts)
      (leads : model.resolve? facts.element = some (.result element)) (onward : ChainEnds model element innermost) :
      ChainEnds model collection innermost

namespace Model

variable {model : Model}

/-- An element that a collection is linked to stands at the place that derivation reads. -/
theorem exists_elementPosition? {collection element : ResultType} {facts : Collection}
    (collects : collection.collection = some facts) (leads : model.resolve? facts.element = some (.result element)) :
    ∃ position, collection.elementPosition? = some position ∧ model.resultTypes[position]? = some element := by
  unfold resolve? at leads
  unfold ResultType.elementPosition?
  rw [collects, Option.bind_some]
  cases target : facts.element.target with
  | none => simp [target] at leads
  | some place =>
      cases place with
      | user position => simp [target] at leads
      | result position =>
          simp only [target, Option.map_eq_some_iff, TypeDeclaration.result.injEq, exists_eq_right] at leads
          exact ⟨position, rfl, leads⟩

theorem ChainEnds.isGrounded {resultType innermost : ResultType} (ends : model.ChainEnds resultType innermost)
    {position : Nat} (here : model.resultTypes[position]? = some resultType) :
    IsGrounded model.resultTypes.toList position := by
  induction ends generalizing position with
  | plain notCollection => exact .plain (by simpa using here) notCollection
  | following collects leads _ inductionHypothesis =>
      obtain ⟨place, isElement, there⟩ := exists_elementPosition? collects leads
      exact .following (by simpa using here) isElement (inductionHypothesis there)

/-- Whether some collection of a model passes a check together with its element, which is no collection. -/
def anyShallowCollection (check : ResultType → ResultType → Bool) (model : Model) : Bool :=
  model.anyCollection fun collection element => !element.isCollection && check collection element

theorem exists_of_anyShallowCollection {model : Model} {check : ResultType → ResultType → Bool}
    (passes : model.anyShallowCollection check = true) :
    ∃ collection ∈ model.resultTypes, ∃ facts element, collection.collection = some facts ∧
      model.resolve? facts.element = some (.result element) ∧ model.ChainEnds collection element ∧
      check collection element = true := by
  obtain ⟨collection, member, facts, element, collects, leads, both⟩ := exists_of_anyCollection passes
  simp only [Bool.and_eq_true, Bool.not_eq_true'] at both
  exact ⟨collection, member, facts, element, collects, leads, .following collects leads (.plain both.1), both.2⟩

end Model

namespace Registry

variable {settings : Settings} {registry : Registry}

/-- In a model, a collection whose chain of elements ends has the views that derivation makes of those its element
has. -/
theorem Succeeds.views_eq (succeeds : registry.Succeeds settings) (declared : registry.IsDeclared)
    {position element : Nat} {before after source : ResultType}
    (linkedHere : (registry.linked settings).resultTypes[position]? = some before)
    (here : (registry.derived settings).resultTypes[position]? = some after)
    (there : (registry.derived settings).resultTypes[element]? = some source)
    (leads : after.elementPosition? = some element)
    (grounded : IsGrounded (registry.derived settings).resultTypes position) :
    after.views = before.viewsFrom source.views ∧ before.HasSources source.views := by
  have inPlace := declared.elementsInPlace succeeds.noUnresolved
  have sameViews := Derivation.map_withoutViews_run (registry.linked settings).resultTypes
  obtain ⟨other, linkedAgain, same⟩ := exists_linked here
  rw [linkedHere] at linkedAgain
  cases linkedAgain
  rw [resultTypes_derived] at here there grounded
  rw [Derivation.elementPosition?_of_withoutViews same] at leads
  exact Derivation.views_run inPlace succeeds.noViewFinding linkedHere leads (grounded.of_withoutViews sameViews) here
    there

/-- In a model, a result type that is no collection has the views it had before derivation. -/
theorem Succeeds.eq_of_not_isCollection (succeeds : registry.Succeeds settings) (declared : registry.IsDeclared)
    {position : Nat} {before after : ResultType}
    (linkedHere : (registry.linked settings).resultTypes[position]? = some before)
    (here : (registry.derived settings).resultTypes[position]? = some after)
    (notCollection : after.isCollection = false) : after = before := by
  have inPlace := declared.elementsInPlace succeeds.noUnresolved
  obtain ⟨other, linkedAgain, same⟩ := exists_linked here
  rw [linkedHere] at linkedAgain
  cases linkedAgain
  rw [Derivation.isCollection_of_withoutViews same] at notCollection
  have noElement := ResultType.elementPosition?_eq_none notCollection
  rw [resultTypes_derived, Derivation.run_of_elementPosition?_eq_none inPlace linkedHere noElement] at here
  exact (Option.some.inj here).symm

end Registry

end ApiDesign
