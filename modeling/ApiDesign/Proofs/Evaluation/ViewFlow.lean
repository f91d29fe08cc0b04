import ApiDesign.Proofs.Evaluation.Views

/-!
Contract: views flow from the innermost element outwards, each step from views that are final already.

Derivation changes the arena it reads from. A collection is derived only after its element, and nothing touches the
element afterwards; so at the end, every collection whose chain of elements ends has the views that the equation
`ResultType.viewsFrom` gives it from the final views of its element.

Owns: `ResultType.viewsFrom`, the equation of one step, the invariant `Derivation.Flows`.
Does not own: which chains end and which default views are missing (`Proofs.Evaluation.Views`).
-/

namespace ApiDesign

/-- The views of a collection, given those of its element: the element's if it inherits, otherwise its own, each
completed by the element's. -/
def ResultType.viewsFrom (elementViews : List View) (collection : ResultType) : List View :=
  if collection.inheritsViews then elementViews else collection.views.map (View.completed elementViews)

/-- A view that is completed lacks no source: it selects something itself, or the element has a view of its name. -/
def ResultType.HasSources (elementViews : List View) (collection : ResultType) : Prop :=
  collection.inheritsViews = true ∨ ∀ view ∈ collection.views, view.lacksSource elementViews = false

namespace Derivation

/-! ## One step -/

/-- With collection and element in place, a step gives the collection its views. -/
theorem resultTypes_derive {derivation : Derivation} {position element : Nat} {collection source : ResultType}
    (here : derivation.resultTypes[position]? = some collection)
    (there : derivation.resultTypes[element]? = some source) :
    (derivation.derive (position, element)).resultTypes =
      derivation.resultTypes.set position { collection with views := collection.viewsFrom source.views } := by
  unfold derive ResultType.viewsFrom
  simp only [here, there]
  cases collection.inheritsViews with
  | true =>
      simp only [if_true, inherit]
      split <;> rfl
  | false => rfl

/-- A step forgets no diagnostic. -/
theorem diagnostics_eq_nil_of_derive {derivation : Derivation} {entry : Nat × Nat}
    (nothing : (derivation.derive entry).diagnostics = []) : derivation.diagnostics = [] := by
  unfold derive at nothing
  simp only at nothing
  split at nothing
  · split at nothing
    · unfold inherit at nothing
      simp only at nothing
      split at nothing
      · exact nothing
      · exact (List.append_eq_nil_iff.mp nothing).1
    · exact (List.append_eq_nil_iff.mp nothing).1
  · exact nothing

/-- A step that reports nothing found a source for every view it completed. -/
theorem hasSources_of_derive {derivation : Derivation} {position element : Nat} {collection source : ResultType}
    (here : derivation.resultTypes[position]? = some collection)
    (there : derivation.resultTypes[element]? = some source)
    (nothing : (derivation.derive (position, element)).diagnostics = []) : collection.HasSources source.views := by
  unfold derive at nothing
  simp only [here, there] at nothing
  cases inherits : collection.inheritsViews with
  | true => exact .inl inherits
  | false =>
      simp only [inherits, Bool.false_eq_true, if_false, complete] at nothing
      have noneLacking := List.map_eq_nil_iff.mp (List.append_eq_nil_iff.mp nothing).2
      refine .inr fun view member => ?_
      simpa using List.filter_eq_nil_iff.mp noneLacking view member

/-! ## The invariant -/

/-- A state of derivation over the result types it began with: a result type without an element is untouched, and a
collection that is no longer pending has its views from those that its element has now, and keeps. -/
structure Flows (given : List ResultType) (derivation : Derivation) : Prop where
  plain : ∀ {position : Nat} {before : ResultType}, given[position]? = some before →
    before.elementPosition? = none → derivation.resultTypes[position]? = some before
  derived : ∀ {position element : Nat} {before : ResultType}, given[position]? = some before →
    before.elementPosition? = some element → position ∉ derivation.waiting →
    element ∉ derivation.waiting ∧ ∃ source, derivation.resultTypes[element]? = some source ∧
      derivation.resultTypes[position]? = some { before with views := before.viewsFrom source.views } ∧
      (derivation.diagnostics = [] → before.HasSources source.views)

theorem flows_start {given : List ResultType} (inPlace : ElementsInPlace given) : Flows given (start given) where
  plain := fun here _ => here
  derived := fun here leads notWaiting =>
    absurd (mem_waiting_start inPlace here (isCollection_of_elementPosition? leads)) notWaiting

/-- A step whose element is settled lets the views flow on. -/
theorem Flows.derive {given : List ResultType} {derivation : Derivation} {position element : Nat}
    (flows : Flows given derivation) (faithful : Faithful given derivation)
    (pending : (position, element) ∈ derivation.pending) (settled : element ∉ derivation.waiting)
    (inPlace : ElementsInPlace given) : Flows given (derivation.derive (position, element)) := by
  obtain ⟨collection, source, givenHere, leads, here, there⟩ := faithful.exists_of_pending inPlace pending
  have waits : position ∈ derivation.waiting := List.mem_map_of_mem (f := Prod.fst) pending
  have changed := resultTypes_derive here there
  have elsewhere : ∀ {other : Nat}, other ≠ position →
      (derivation.derive (position, element)).resultTypes[other]? = derivation.resultTypes[other]? := by
    intro other different
    rw [changed, List.getElem?_set_ne (Ne.symm different)]
  have apart : ∀ {other : Nat}, other ∉ derivation.waiting → other ≠ position :=
    fun notWaiting same => notWaiting (same ▸ waits)
  have staysSettled : ∀ {other : Nat}, other ∉ derivation.waiting →
      other ∉ (derivation.derive (position, element)).waiting :=
    fun notWaiting still => notWaiting (mem_waiting_derive.mp still).1
  refine ⟨?plain, ?derived⟩
  case plain =>
    intro other before atGiven noElement
    rw [elsewhere]
    · exact flows.plain atGiven noElement
    · intro same
      rw [same, givenHere] at atGiven
      cases atGiven
      rw [leads] at noElement
      cases noElement
  case derived =>
    intro other otherElement before atGiven otherLeads notWaiting
    by_cases isPosition : other = position
    · subst isPosition
      rw [givenHere] at atGiven
      cases atGiven
      rw [leads] at otherLeads
      cases otherLeads
      refine ⟨staysSettled settled, source, by rw [elsewhere (apart settled), there], ?_,
        hasSources_of_derive here there⟩
      rw [changed, List.getElem?_set_self (List.getElem?_eq_some_iff.mp here).1]
    · have wasSettled : other ∉ derivation.waiting :=
        fun otherWaits => notWaiting (mem_waiting_derive.mpr ⟨otherWaits, isPosition⟩)
      obtain ⟨elementSettled, otherSource, atElement, atOther, sources⟩ := flows.derived atGiven otherLeads wasSettled
      exact ⟨staysSettled elementSettled, otherSource, by rw [elsewhere (apart elementSettled), atElement],
        by rw [elsewhere isPosition, atOther], fun nothing => sources (diagnostics_eq_nil_of_derive nothing)⟩

theorem Reaches.flows {given : List ResultType} {reached : Derivation} (reaches : Reaches (start given) reached)
    (inPlace : ElementsInPlace given) : Flows given reached := by
  induction reaches with
  | refl => exact flows_start inPlace
  | @step before entry reachesBefore pending settled inductionHypothesis =>
      exact inductionHypothesis.derive (reachesBefore.faithful (faithful_start inPlace) inPlace) pending settled inPlace

/-! ## The end of a run -/

/-- A run that finds nothing gives every collection whose chain of elements ends its views from the final views of its
element. -/
theorem views_run {given : List ResultType} (inPlace : ElementsInPlace given) (nothing : (run given).diagnostics = [])
    {position element : Nat} {before after source : ResultType} (givenHere : given[position]? = some before)
    (leads : before.elementPosition? = some element) (grounded : IsGrounded given position)
    (here : (run given).resultTypes[position]? = some after)
    (there : (run given).resultTypes[element]? = some source) :
    after.views = before.viewsFrom source.views ∧ before.HasSources source.views := by
  have faithful := (reaches_run given).faithful (faithful_start inPlace) inPlace
  have notWaiting := not_mem_waiting_of_isGrounded faithful (ready_run_eq_nil given) grounded
  obtain ⟨_, otherSource, atElement, atPosition, sources⟩ :=
    ((reaches_run given).flows inPlace).derived givenHere leads notWaiting
  rw [there] at atElement
  cases atElement
  rw [here] at atPosition
  cases atPosition
  exact ⟨rfl, sources nothing⟩

/-- A run leaves result types without an element as they are. -/
theorem run_of_elementPosition?_eq_none {given : List ResultType} (inPlace : ElementsInPlace given) {position : Nat}
    {before : ResultType} (givenHere : given[position]? = some before) (noElement : before.elementPosition? = none) :
    (run given).resultTypes[position]? = some before :=
  ((reaches_run given).flows inPlace).plain givenHere noElement

/-- A run leaves a result type as it is or, if it is a collection, gives it the views that it has from an element. -/
theorem run_cases {given : List ResultType} (inPlace : ElementsInPlace given) {position : Nat}
    {before after : ResultType} (givenHere : given[position]? = some before)
    (here : (run given).resultTypes[position]? = some after) :
    after = before ∨
      before.isCollection = true ∧ ∃ elementViews, after = { before with views := before.viewsFrom elementViews } := by
  by_cases waits : position ∈ (run given).waiting
  · have untouched := ((reaches_run given).faithful (faithful_start inPlace) inPlace).untouched waits
    rw [here, givenHere] at untouched
    exact .inl (Option.some.inj untouched)
  · cases leads : before.elementPosition? with
    | none =>
        rw [run_of_elementPosition?_eq_none inPlace givenHere leads] at here
        exact .inl (Option.some.inj here).symm
    | some element =>
        obtain ⟨_, source, _, changed, _⟩ := ((reaches_run given).flows inPlace).derived givenHere leads waits
        rw [changed] at here
        exact .inr ⟨isCollection_of_elementPosition? leads, source.views, (Option.some.inj here).symm⟩

end Derivation

end ApiDesign
