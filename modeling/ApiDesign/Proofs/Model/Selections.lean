import ApiDesign.Proofs.Model.Chains
import ApiDesign.Proofs.Model.Vocabulary
import ApiDesign.Proofs.Registry.Elements

/-!
Contract: views select only what is there.

The views that are declared are checked before references are linked, against the shape of the innermost element, found
by name. The views that a collection ends with come later, from the views of its element, found by links. Names and
links lead along the same chain to the same innermost element, so every view along the chain selects fields of its
shape.

Owns: the chain by links as a chain by names, the selections of all views of a model.
Does not own: the equation of derived views (`Proofs.Model.Chains`).
-/

namespace ApiDesign

namespace Registry

variable {settings : Settings} {registry : Registry}

theorem exists_prepared {position : Nat} {before : ResultType}
    (linkedHere : (registry.linked settings).resultTypes[position]? = some before) :
    ∃ prior, (registry.prepared settings).resultTypes[position]? = some prior ∧
      prior.link (registry.prepared settings).typeIndex = before := by
  unfold linked at linkedHere
  rw [resultTypes_link, List.getElem?_map] at linkedHere
  exact Option.map_eq_some_iff.mp linkedHere

/-! ## Chains before linking -/

/-- A chain that ends in the model ends before linking too, where elements are found by name, at the result type that
becomes the same innermost one. -/
theorem Succeeds.exists_ends (succeeds : registry.Succeeds settings) (declared : registry.IsDeclared)
    {resultType innermost : ResultType}
    (ends : (Model.ofRegistry (registry.derived settings)).ChainEnds resultType innermost) {position : Nat}
    (here : (registry.derived settings).resultTypes[position]? = some resultType) :
    ∃ prior steps priorInnermost, (registry.prepared settings).resultTypes[position]? = some prior ∧
      (registry.prepared settings).Ends steps prior priorInnermost ∧
      innermost.shape = priorInnermost.shape.link (registry.prepared settings).typeIndex := by
  induction ends generalizing position with
  | @plain resultType notCollection =>
      obtain ⟨before, linkedHere, same⟩ := exists_linked here
      obtain ⟨prior, preparedHere, rfl⟩ := exists_prepared linkedHere
      rw [Derivation.isCollection_of_withoutViews same, ResultType.isCollection_link] at notCollection
      have collectsNothing : prior.collection = none := by
        unfold ResultType.isCollection at notCollection
        simpa using notCollection
      have shape := congrArg ResultType.shape same
      change resultType.shape = (prior.link (registry.prepared settings).typeIndex).shape at shape
      rw [ResultType.link, collectsNothing] at shape
      exact ⟨prior, 0, prior, preparedHere, .plain collectsNothing, shape⟩
  | @following collection element innermost facts collects leads _ inductionHypothesis =>
      obtain ⟨before, linkedHere, same⟩ := exists_linked here
      obtain ⟨prior, preparedHere, rfl⟩ := exists_prepared linkedHere
      obtain ⟨place, isLinked, found⟩ := succeeds.isLinked_element (List.mem_of_getElem? here) collects
      have there : (registry.derived settings).resultTypes[place]? = some element := by
        obtain ⟨other, isElement, atOther⟩ := Model.exists_elementPosition? collects leads
        simp only [ResultType.elementPosition?, collects, Option.bind_some, isLinked, Option.some.injEq] at isElement
        rw [isElement]
        simpa [Model.ofRegistry] using atOther
      obtain ⟨priorElement, steps, priorInnermost, preparedThere, onward, shape⟩ := inductionHypothesis there
      rw [Derivation.collection_of_withoutViews same] at collects
      obtain ⟨given, has, sameName⟩ := ResultType.exists_collection_of_link collects
      rw [declared.isIndexed_prepared.find?_typeIndex, ← sameName] at found
      have byName := declared.isIndexed_prepared.resultType?_of_denoted? found
      exact ⟨prior, steps + 1, priorInnermost, preparedHere,
        .following has (byName.trans preparedThere) onward, shape⟩

/-! ## Selections -/

/-- Where nothing is found, views select fields of the innermost element. -/
theorem mem_fields_of_findings {registry : Registry} (nothing : registry.findings = []) {resultType : ResultType}
    (member : resultType ∈ registry.resultTypes) {innermost : ResultType}
    (isInnermost : registry.innermost? resultType = some innermost) {fields : List (String × Attribute)}
    (known : registry.vocabulary.fieldsOf? innermost.shape.type = some fields) :
    ∀ view ∈ resultType.views, ∀ name ∈ view.attributes, name ∈ fields.map Prod.fst := by
  simp only [findings, List.append_eq_nil_iff, List.flatMap_eq_nil_iff] at nothing
  have nothingHere := nothing.2 resultType member
  simp only [resultTypeFindings, List.append_eq_nil_iff] at nothingHere
  have noSelection := nothingHere.2
  simp only [selectionFindings, isInnermost, Option.bind_some, known, List.flatMap_eq_nil_iff, View.findings,
    List.map_eq_nil_iff, List.filter_eq_nil_iff] at noSelection
  intro view inViews name selected
  simpa using noSelection view inViews name selected

/-- Before views are derived, every view on a chain that ends selects fields of its end. -/
theorem Succeeds.mem_fields_linked (succeeds : registry.Succeeds settings) (declared : registry.IsDeclared)
    {resultType innermost : ResultType}
    (ends : (Model.ofRegistry (registry.derived settings)).ChainEnds resultType innermost) {position : Nat}
    (here : (registry.derived settings).resultTypes[position]? = some resultType) {before : ResultType}
    (linkedHere : (registry.linked settings).resultTypes[position]? = some before)
    {fields : List (String × Attribute)}
    (known : (Model.ofRegistry (registry.derived settings)).vocabulary.fieldsOf? innermost.shape.type = some fields) :
    ∀ view ∈ before.views, ∀ name ∈ view.attributes, name ∈ fields.map Prod.fst := by
  obtain ⟨prior, steps, priorInnermost, preparedHere, chain, shape⟩ := succeeds.exists_ends declared ends here
  obtain ⟨samePrior, preparedAgain, rfl⟩ := exists_prepared linkedHere
  rw [preparedHere] at preparedAgain
  cases preparedAgain
  rw [shape, Attribute.type_link,
    (succeeds.relinks declared).fieldsOf?_transform (succeeds.hasNoShortcuts_prepared declared)] at known
  obtain ⟨priorFields, knownBefore, rfl⟩ := Option.map_eq_some_iff.mp known
  rw [ResultType.views_link, DataType.map_fst_transformFields]
  exact mem_fields_of_findings succeeds.noFinding (List.mem_of_getElem? preparedHere)
    (innermost?_eq_some_iff.mpr ⟨steps, chain⟩) knownBefore

/-- What a completed view selects, it selected before, or the element's view of its name does. -/
theorem mem_attributes_completed {elementViews : List View} {view : View} {name : String}
    (selected : name ∈ (view.completed elementViews).attributes) :
    name ∈ view.attributes ∨ ∃ source ∈ elementViews, name ∈ source.attributes := by
  unfold View.completed at selected
  split at selected
  · split at selected
    · rename_i source found
      exact .inr ⟨source, List.mem_of_find?_eq_some found, selected⟩
    · exact .inl selected
  · exact .inl selected

/-- Every view on a chain that ends selects fields of its end: selections flow along with the views. -/
theorem Succeeds.mem_fields (succeeds : registry.Succeeds settings) (declared : registry.IsDeclared)
    {resultType innermost : ResultType}
    (ends : (Model.ofRegistry (registry.derived settings)).ChainEnds resultType innermost) {position : Nat}
    (here : (registry.derived settings).resultTypes[position]? = some resultType)
    {fields : List (String × Attribute)}
    (known : (Model.ofRegistry (registry.derived settings)).vocabulary.fieldsOf? innermost.shape.type = some fields) :
    ∀ view ∈ resultType.views, ∀ name ∈ view.attributes, name ∈ fields.map Prod.fst := by
  induction ends generalizing position with
  | plain notCollection =>
      obtain ⟨before, linkedHere, _⟩ := exists_linked here
      rw [succeeds.eq_of_not_isCollection declared linkedHere here notCollection]
      exact succeeds.mem_fields_linked declared (.plain notCollection) here linkedHere known
  | following collects leads onward inductionHypothesis =>
      have chain := Model.ChainEnds.following collects leads onward
      obtain ⟨place, isElement, atPlace⟩ := Model.exists_elementPosition? collects leads
      have there := atPlace
      simp only [Model.ofRegistry, List.getElem?_toArray] at there
      obtain ⟨before, linkedHere, _⟩ := exists_linked here
      have grounded := chain.isGrounded (by simpa [Model.ofRegistry] using here)
      obtain ⟨views, _⟩ := succeeds.views_eq declared linkedHere here there isElement grounded
      have ofElement := inductionHypothesis there known
      have own := succeeds.mem_fields_linked declared chain here linkedHere known
      intro view inViews name selected
      rw [views, ResultType.viewsFrom] at inViews
      split at inViews
      · exact ofElement view inViews name selected
      · obtain ⟨declaredView, inDeclared, rfl⟩ := List.mem_map.mp inViews
        rcases mem_attributes_completed selected with selectedBefore | ⟨source, inSource, selectedThere⟩
        · exact own declaredView inDeclared name selectedBefore
        · exact ofElement source inSource name selectedThere

end Registry

/-! ## Models -/

/-- In every model, the views of a result type whose chain of elements ends select fields of the type that the shape of
its innermost element stands for, and nothing if that type is no object. -/
theorem selects_fields {settings : Settings} {declarations : List Declaration} {model : Model}
    (evaluated : evaluate settings declarations = .ok model) {resultType innermost : ResultType}
    (member : resultType ∈ model.resultTypes) (ends : model.ChainEnds resultType innermost) {steps : Nat}
    {final : DataType} (leads : model.vocabulary.Leads steps innermost.shape.type final) :
    (∀ fields, final = .object fields →
        ∀ view ∈ resultType.views, ∀ name ∈ view.attributes, name ∈ fields.map Prod.fst) ∧
      (final.isObject = false → ∀ view ∈ resultType.views, view.attributes = []) := by
  obtain ⟨registry, declares, succeeds, rfl⟩ := evaluate_eq_ok_iff.mp evaluated
  obtain ⟨position, here⟩ := Array.mem_iff_getElem?.mp member
  simp only [Model.ofRegistry, List.getElem?_toArray] at here
  have meaning := Vocabulary.meaning_eq_concrete leads
  constructor
  · intro fields isObject
    refine succeeds.mem_fields declares.isDeclared ends here ?_
    rw [Vocabulary.fieldsOf?, meaning, isObject]
  · intro noObject view inViews
    have known : (Model.ofRegistry (registry.derived settings)).vocabulary.fieldsOf? innermost.shape.type =
        some [] := by
      rw [Vocabulary.fieldsOf?, meaning]
      cases final with
      | object fields => cases noObject
      | _ => rfl
    refine List.eq_nil_iff_forall_not_mem.mpr fun name selected => ?_
    simpa using succeeds.mem_fields declares.isDeclared ends here known view inViews name selected

/-- A collection inherits the views of bottles, whose shape is the alias of an object. -/
theorem selects_fields_labelledBottles :
    ∃ model,
      evaluate {}
        [.userType "Label" [.clauses [.child "id" [], .child "year" [.type (.primitive .int32)]]],
          .resultType "vnd.bottle"
            [.setting (.type (.reference "Label")), .block (.view "default") [.child "id" [], .child "year" []]],
          .collectionOf "Bottle" []] = .ok model ∧
        ∃ collection ∈ model.resultTypes, ∃ innermost reference fields, model.ChainEnds collection innermost ∧
          innermost.shape.type = .named reference ∧ model.vocabulary.Leads 1 (.named reference) (.object fields) ∧
          (∃ view ∈ collection.views, view.attributes = ["id", "year"]) ∧
          ∀ view ∈ collection.views, ∀ name ∈ view.attributes, name ∈ fields.map Prod.fst := by
  refine exists_model (fun model => model.anyShallowCollection fun collection innermost =>
    (collection.views.any fun view => view.attributes == ["id", "year"]) &&
      (innermost.shape.type.shortcut?.isNone && innermost.shape.type.reference?.any fun reference =>
        (model.shapeOf? reference.name).any fun shape => shape.type.isObject))
    (by decide +kernel) fun model evaluated passes => ?_
  obtain ⟨collection, member, facts, innermost, _, _, ends, checked⟩ := Model.exists_of_anyShallowCollection passes
  obtain ⟨selecting, isAlias⟩ := Bool.and_eq_true_iff.mp checked
  obtain ⟨view, inViews, selected⟩ := List.any_eq_true.mp selecting
  cases type : innermost.shape.type with
  | named reference =>
      simp only [type, DataType.shortcut?, DataType.reference?, Option.isNone_none, Option.any_some,
        Bool.true_and] at isAlias
      obtain ⟨shape, known, isObject⟩ := (Option.any_eq_true _ _).mp isAlias
      cases shapeType : shape.type with
      | object fields =>
          have leads : model.vocabulary.Leads 1 (.named reference) (.object fields) := by
            refine .through known ?_
            rw [shapeType]
            exact .concrete rfl
          exact ⟨collection, member, innermost, reference, fields, ends, type, leads,
            ⟨view, inViews, beq_iff_eq.mp selected⟩,
            (selects_fields evaluated member ends (type ▸ leads)).1 fields rfl⟩
      | _ => simp [shapeType, DataType.isObject] at isObject
  | _ => simp [type, DataType.shortcut?, DataType.reference?] at isAlias

end ApiDesign
