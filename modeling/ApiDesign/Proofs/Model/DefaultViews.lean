import ApiDesign.Proofs.Model.Links

/-!
Contract: which result types of a model have a default view.

A result type that does not inherit its views is checked before references are followed, one that inherits when its
views are derived. Between the two lie the collections whose chain of elements never ends: they inherit, so they are
not checked, and they are never derived. These, and no others, stand in a model without a default view.

Owns: the exact condition, and a design that meets it.
-/

namespace ApiDesign

namespace Registry

variable {settings : Settings} {registry : Registry}

/-- A result type of a prepared registry inherits its views only if it has none. -/
theorem views_eq_nil_of_inheritsViews {resultType : ResultType}
    (member : resultType ∈ (registry.prepared settings).resultTypes) (inherits : resultType.inheritsViews = true) :
    resultType.views = [] := by
  have inCanonical : resultType ∈ ((registry.generated settings).markExamples settings).canonicalViews.resultTypes := by
    unfold prepared completed at member
    exact mem_sortByName.mp member
  obtain ⟨before, _, rfl⟩ := List.mem_map.mp inCanonical
  unfold ResultType.inheritsViews ResultType.canonicalViews at inherits
  cases collects : before.collection with
  | none => simp [collects] at inherits
  | some facts =>
      simp only [collects, Option.map_some, Option.any_some, List.isEmpty_iff] at inherits
      simp [ResultType.canonicalViews, inherits]

/-- Where nothing is found, a result type that does not inherit its views has a default view. -/
theorem hasDefaultView_of_findings {registry : Registry} (nothing : registry.findings = []) {resultType : ResultType}
    (member : resultType ∈ registry.resultTypes) (own : resultType.inheritsViews = false) :
    resultType.hasDefaultView = true := by
  simp only [findings, List.append_eq_nil_iff, List.flatMap_eq_nil_iff] at nothing
  have nothingHere := nothing.2 resultType member
  simp only [resultTypeFindings, List.append_eq_nil_iff] at nothingHere
  have notMissing := nothingHere.1.2
  cases default : resultType.hasDefaultView with
  | true => rfl
  | false => simp [own, default] at notMissing

/-- Where nothing is unresolved, linking puts every collection's element in place. -/
theorem IsDeclared.elementsInPlace (declared : registry.IsDeclared)
    (nothing : (registry.prepared settings).unresolved (registry.prepared settings).typeIndex = []) :
    Derivation.ElementsInPlace (registry.linked settings).resultTypes := by
  intro resultType member collects
  unfold linked at member ⊢
  obtain ⟨facts, has⟩ := Option.isSome_iff_exists.mp collects
  obtain ⟨position, target, found⟩ := element_of_mem_resultTypes_link nothing member has
  refine ⟨position, by simp [ResultType.elementPosition?, has, target], ?_⟩
  rw [declared.isIndexed_prepared.find?_typeIndex] at found
  have inRange := Model.isSome_declaration?_of_denoted? found
  rw [resultTypes_link, List.length_map]
  rw [← Bool.not_eq_false] at inRange
  by_contra beyond
  refine inRange ?_
  simp [Model.declaration?, Model.ofRegistry, List.getElem?_eq_none (Nat.le_of_not_lt beyond)]

end Registry

/-- Before views are derived, a result type has a default view, or inherits its views and has none. -/
theorem Registry.Succeeds.views_linked {settings : Settings} {registry : Registry}
    (succeeds : registry.Succeeds settings) {resultType : ResultType}
    (member : resultType ∈ (registry.linked settings).resultTypes) :
    (resultType.inheritsViews = true → resultType.views = []) ∧
      (resultType.inheritsViews = false → resultType.hasDefaultView = true) := by
  unfold Registry.linked at member
  rw [Registry.resultTypes_link] at member
  obtain ⟨prepared, inPrepared, rfl⟩ := List.mem_map.mp member
  unfold ResultType.hasDefaultView ResultType.view?
  rw [ResultType.inheritsViews_link, ResultType.views_link]
  exact ⟨Registry.views_eq_nil_of_inheritsViews inPrepared,
    Registry.hasDefaultView_of_findings succeeds.noFinding inPrepared⟩

/-- In every model, a result type has a default view exactly if it does not inherit its views or its chain of elements
ends. -/
theorem hasDefaultView_iff {settings : Settings} {declarations : List Declaration} {model : Model}
    (evaluated : evaluate settings declarations = .ok model) {position : Nat} {resultType : ResultType}
    (here : model.resultTypes[position]? = some resultType) :
    resultType.hasDefaultView = true ↔
      (resultType.inheritsViews = true → IsGrounded model.resultTypes.toList position) := by
  obtain ⟨registry, declares, succeeds, rfl⟩ := evaluate_eq_ok_iff.mp evaluated
  have inPlace := declares.isDeclared.elementsInPlace succeeds.noUnresolved
  have noFinding : (Derivation.run (registry.linked settings).resultTypes).diagnostics = [] := succeeds.noViewFinding
  have sameViews := Derivation.map_withoutViews_run (registry.linked settings).resultTypes
  have derived : (registry.derived settings).resultTypes =
      (Derivation.run (registry.linked settings).resultTypes).resultTypes := by
    unfold Registry.derived
    rfl
  have atPosition : (Derivation.run (registry.linked settings).resultTypes).resultTypes[position]? =
      some resultType := by
    rw [← derived]
    simpa [Model.ofRegistry] using here
  have corresponds := congrArg (fun items => items[position]?) sameViews
  simp only [List.getElem?_map, atPosition, Option.map_some] at corresponds
  obtain ⟨before, givenHere, same⟩ := Option.map_eq_some_iff.mp corresponds.symm
  obtain ⟨noViews, ownDefault⟩ := succeeds.views_linked (List.mem_of_getElem? givenHere)
  have groundedIff : IsGrounded (registry.linked settings).resultTypes position ↔
      IsGrounded (Model.ofRegistry (registry.derived settings)).resultTypes.toList position := by
    have arena : (Model.ofRegistry (registry.derived settings)).resultTypes.toList =
        (Derivation.run (registry.linked settings).resultTypes).resultTypes := by
      rw [← derived]
      rfl
    rw [arena]
    exact ⟨IsGrounded.of_withoutViews sameViews.symm, IsGrounded.of_withoutViews sameViews⟩
  rw [Derivation.hasDefaultView_run inPlace noFinding givenHere atPosition noViews,
    Derivation.inheritsViews_of_withoutViews same.symm, ← groundedIff]
  cases inherits : before.inheritsViews with
  | true => simp
  | false => simp [ownDefault inherits]

/-- A collection whose element has a default view inherits it, so its chain of elements ends. -/
theorem isGrounded_bottles :
    ∃ model,
      evaluate {} [.collectionOf "vnd.bottle" [], .resultType "vnd.bottle" [.block (.view "default") []]] = .ok model ∧
        ∃ collection, model.resultTypes[1]? = some collection ∧ collection.inheritsViews = true ∧
          IsGrounded model.resultTypes.toList 1 := by
  refine exists_model (fun model => model.resultTypes[1]?.any fun collection =>
    collection.inheritsViews && collection.hasDefaultView) (by decide +kernel) fun model evaluated passes => ?_
  obtain ⟨collection, here, both⟩ := (Option.any_eq_true _ _).mp passes
  obtain ⟨inherits, hasDefault⟩ := Bool.and_eq_true_iff.mp both
  exact ⟨collection, here, inherits, (hasDefaultView_iff evaluated here).mp hasDefault inherits⟩

/-- Without a suffix, a collection may take the type name of its element for its own: it is its own element, inherits
its views from itself and ends without any. -/
theorem exists_without_defaultView :
    ∃ model, evaluate { collectionSuffix := "" } [.collectionOf "X" []] = .ok model ∧
      ∃ resultType ∈ model.resultTypes, resultType.hasDefaultView = false := by
  refine exists_model (fun model => model.resultTypes.any fun resultType => !resultType.hasDefaultView)
    (by decide +kernel) fun model _ passes => ?_
  obtain ⟨resultType, member, missing⟩ := Array.any_eq_true'.mp passes
  exact ⟨resultType, member, by simpa using missing⟩

end ApiDesign
