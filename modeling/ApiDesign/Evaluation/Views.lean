import ApiDesign.Kind
import ApiDesign.Diagnostic
import ApiDesign.Registry.Basic

/-!
Contract: the views of collections, derived from the views of their elements.

A collection that inherits takes over the views of its element. One with views of its own completes each of them that
selects nothing by the element's view of the same name. An element may be a collection itself, so collections are
derived in rounds, each after its element; those on a cycle are never derived. A missing default view is reported
where it is missed first, not again along the chain.
-/

namespace ApiDesign

/-- Derivation in progress: the result types, the collections that are still to be derived with the places of their
elements, the places of those left without a default view, and what was found on the way. -/
structure Derivation where
  resultTypes : List ResultType
  pending : List (Nat × Nat) := []
  failed : List Nat := []
  diagnostics : List Diagnostic := []
deriving Repr

/-- The place of the element that a collection is linked to. -/
def ResultType.elementPosition? (resultType : ResultType) : Option Nat :=
  match resultType.collection.bind fun facts => facts.element.target with
  | some (.result position) => some position
  | _ => none

/-- A view that selects nothing, completed by the element's view of its name. -/
def View.completed (elementViews : List View) (view : View) : View :=
  if view.attributes.isEmpty then
    match elementViews.find? (·.name == view.name) with
    | some source =>
        { view with attributes := source.attributes, description := view.description.or source.description }
    | none => view
  else view

/-- Whether a view selects nothing and the element has no view of its name. -/
def View.lacksSource (elementViews : List View) (view : View) : Bool :=
  view.attributes.isEmpty && (elementViews.find? (·.name == view.name)).isNone

namespace Derivation

/-- Derivation at its beginning: every collection is pending whose element is in place. -/
def start (resultTypes : List ResultType) : Derivation where
  resultTypes := resultTypes
  pending := resultTypes.zipIdx.filterMap fun (resultType, position) =>
    match resultType.elementPosition? with
    | some element => if element < resultTypes.length then some (position, element) else none
    | none => none

/-- Gives a collection the views of its element. -/
def inherit (derivation : Derivation) (position element : Nat) (collection : ResultType) (views : List View) :
    Derivation :=
  let changed := { collection with views := views }
  let taken := { derivation with resultTypes := derivation.resultTypes.set position changed }
  if changed.hasDefaultView then taken
  else
    { taken with
      failed := position :: derivation.failed
      diagnostics := derivation.diagnostics ++
        if derivation.failed.contains element then []
        else [.located [Kind.resultType.frame collection.identifier] (.missingDefaultView collection.identifier)] }

/-- Completes the views of a collection by those of its element. -/
def complete (derivation : Derivation) (position : Nat) (collection : ResultType) (views : List View) :
    Derivation :=
  { derivation with
    resultTypes := derivation.resultTypes.set position
      { collection with views := collection.views.map (View.completed views) }
    diagnostics := derivation.diagnostics ++
      (collection.views.filter (View.lacksSource views)).map fun view =>
        .located [Kind.resultType.frame collection.identifier, Kind.view.frame view.name]
          (.unresolvedReference view.name) }

/-- Derives the views of the collection at a place. -/
def derive (derivation : Derivation) (entry : Nat × Nat) : Derivation :=
  let (position, element) := entry
  let rest := { derivation with pending := derivation.pending.filter fun other => other.1 != position }
  match derivation.resultTypes[position]?, derivation.resultTypes[element]? with
  | some collection, some source =>
      if collection.inheritsViews then rest.inherit position element collection source.views
      else rest.complete position collection source.views
  | _, _ => rest

/-- The pending collections whose element is not pending. -/
def ready (derivation : Derivation) : List (Nat × Nat) :=
  derivation.pending.filter fun (_, element) => !(derivation.pending.map Prod.fst).contains element

/-- Derives the collections that are ready at the beginning of the round. -/
def round (derivation : Derivation) : Derivation :=
  derivation.ready.foldl derive derivation

/-- Goes through a number of rounds. -/
def rounds : Nat → Derivation → Derivation
  | 0, derivation => derivation
  | count + 1, derivation => rounds count derivation.round

/-- Derives the views of all collections that have an innermost element. A round that derives none changes nothing,
so as many rounds as there are collections suffice. -/
def run (resultTypes : List ResultType) : Derivation :=
  let derivation := start resultTypes
  rounds derivation.pending.length derivation

end Derivation

namespace Registry

/-- The registry with derived views, and what was found on the way. -/
def deriveViews (registry : Registry) : Registry × List Diagnostic :=
  let derivation := Derivation.run registry.resultTypes
  ({ registry with resultTypes := derivation.resultTypes }, derivation.diagnostics)

end Registry

end ApiDesign
