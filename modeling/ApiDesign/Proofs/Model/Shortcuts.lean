import ApiDesign.Proofs.Evaluation.Shortcuts
import ApiDesign.Proofs.Evaluation.Staging
import ApiDesign.Proofs.Model.Places
import ApiDesign.Proofs.Model.Vocabulary

/-!
Contract: what becomes of a shortcut, and when it keeps its meaning.

A shortcut is looked up twice. What it accepts is decided by its element's name among all types, user types first; what
it is replaced by is decided among result types alone, and the replacement is looked up among all types again. So a
shortcut becomes a reference to the collection of a result type of the given name, and that reference accepts the same
values where these look-ups do not drift apart.

Owns: the place of a shortcut in the model, the reference that stands there, the condition for the same values.
-/

namespace ApiDesign

namespace Registry

variable {settings : Settings} {registry : Registry}

/-- The holder under the names that naming gives. -/
def settledHolder? (settings : Settings) (holder : Holder) (registry : Registry) : Option Holder :=
  match holder with
  | .resultType identifier =>
      (registry.resultTypes.findIdx? (·.identifier == identifier)).bind fun position =>
        (registry.named settings).resultTypes[position]?.map fun resultType => .resultType resultType.identifier
  | other => some other

/-- After naming, a shape is found under the new name of its holder, with its shortcuts where they were. -/
theorem IsDeclared.shapeHeld?_named (settings : Settings) (declared : registry.IsDeclared) {holder : Holder}
    {shape : Attribute} (held : registry.shapeHeld? holder = some shape) :
    ∃ settled named, registry.settledHolder? settings holder = some settled ∧
      (registry.named settings).shapeHeld? settled = some named ∧ shape.KeepsShortcuts named := by
  have same : ∀ other : Holder, (∀ identifier, other ≠ .resultType identifier) →
      (registry.named settings).shapeHeld? other = registry.shapeHeld? other := by
    intro other notResultType
    rw [declared.named_eq]
    unfold shapeHeld?
    cases other with
    | resultType identifier => exact absurd rfl (notResultType identifier)
    | _ => rfl
  cases holder with
  | resultType identifier =>
      simp only [shapeHeld?, Holder.shapeAmong?] at held
      obtain ⟨before, found, rfl⟩ := Option.map_eq_some_iff.mp held
      rw [List.find?_eq_bind_findIdx?_getElem?] at found
      obtain ⟨position, first, declaredHere⟩ := Option.bind_eq_some_iff.mp found
      have below : position < (registry.named settings).resultTypes.length := by
        rw [declared.length_named]
        exact (List.getElem?_eq_some_iff.mp declaredHere).1
      obtain ⟨after, here⟩ : ∃ after, (registry.named settings).resultTypes[position]? = some after :=
        ⟨_, List.getElem?_eq_getElem below⟩
      refine ⟨.resultType after.identifier, after.shape, ?_, ?_, ?_⟩
      · simp only [settledHolder?, first, Option.bind_some, here, Option.map_some]
      · simp only [shapeHeld?, Holder.shapeAmong?]
        rw [(find?_eq_some_iff_mem (declared.isIndexed_named.nodup .resultType)).mpr
          ⟨List.mem_of_getElem? here, rfl⟩]
        rfl
      · rw [declared.resultTypes_named] at here
        exact (Naming.related_run declaredHere here).1
  | apiHost server host => exact ⟨_, shape, rfl, by rw [same _ (by simp)]; exact held, .refl shape⟩
  | service name part => exact ⟨_, shape, rfl, by rw [same _ (by simp)]; exact held, .refl shape⟩
  | userType name => exact ⟨_, shape, rfl, by rw [same _ (by simp)]; exact held, .refl shape⟩

/-! ## Shapes after naming -/

/-- What happens to a shape after naming: shortcuts are replaced, examples marked, references linked. -/
def finish (settings : Settings) (registry : Registry) (shape : Attribute) : Attribute :=
  ((shape.transform (Generation.resolution (registry.generation settings).targets)).transform
    (registry.marking settings)).transform (linking (registry.prepared settings).typeIndex)

theorem nodes_finish (shape : Attribute) :
    (registry.finish settings shape).nodes = shape.nodes.map (registry.finish settings) := by
  unfold finish
  rw [Attribute.nodes_transform (keepsForm_linking _), Attribute.nodes_transform ⟨fun _ => rfl, fun _ => rfl⟩,
    Attribute.nodes_transform (Generation.keepsForm_resolution _), List.map_map, List.map_map]
  rfl

/-- Generation adds result types behind those that are there. -/
theorem Extends.shapeHeld? {base extended : Registry} (extends_ : base.Extends extended) {holder : Holder}
    {shape : Attribute} (held : base.shapeHeld? holder = some shape) : extended.shapeHeld? holder = some shape := by
  unfold Registry.shapeHeld? at held ⊢
  rw [extends_.api, extends_.services, extends_.userTypes]
  cases holder with
  | resultType identifier =>
      obtain ⟨added, same, _⟩ := extends_.resultTypes
      simp only [Holder.shapeAmong?] at held ⊢
      obtain ⟨found, first, shapeIs⟩ := Option.map_eq_some_iff.mp held
      rw [same, List.find?_append, first]
      simp [shapeIs]
  | _ => exact held

/-- The shape at a holder of the model is the finished shape at that holder after naming. -/
theorem IsDeclared.shapeHeld?_derived (declared : registry.IsDeclared)
    (nothing : (registry.prepared settings).unresolved (registry.prepared settings).typeIndex = [])
    {holder : Holder} {shape : Attribute} (held : (registry.named settings).shapeHeld? holder = some shape) :
    (registry.derived settings).shapeHeld? holder = some (registry.finish settings shape) := by
  have generated : (registry.generated settings).shapeHeld? holder =
      some (shape.transform (Generation.resolution (registry.generation settings).targets)) := by
    rw [declared.generated_eq, shapeHeld?_mapShapes, declared.isSound_generation.extended.shapeHeld? held]
    rfl
  have completed : (registry.completed settings).shapeHeld? holder =
      some ((shape.transform (Generation.resolution (registry.generation settings).targets)).transform
        (registry.marking settings)) := by
    unfold completed markExamples
    apply shapeHeld?_shareErrors
    rw [shapeHeld?_canonicalViews, shapeHeld?_mapShapes, generated]
    rfl
  unfold derived linked
  rw [shapeHeld?_deriveViews, shapeHeld?_link (exists_elementTarget_of_unresolved nothing)]
  have prepared : (registry.prepared settings).shapeHeld? holder = (registry.completed settings).shapeHeld? holder := by
    unfold prepared
    exact shapeHeld?_toSealed declared.isIndexed_completed
  rw [prepared, completed]
  rfl

/-- A finished shortcut is a reference to the identifier that generation found for its name, or still a shortcut. -/
theorem type_finish (settings : Settings) (registry : Registry) {node : Attribute} {shortcut : TypeRef}
    (isShortcut : node.type = .collection shortcut) :
    (∃ reference, (registry.finish settings node).type = .named reference ∧
        (shortcut.name, reference.name) ∈ (registry.generation settings).targets) ∨
      (registry.finish settings node).type.shortcut? = some shortcut.name := by
  obtain ⟨type, details⟩ := node
  simp only at isShortcut
  subst isShortcut
  simp only [finish, Attribute.transform, DataType.transform, Generation.resolution]
  cases found : (registry.generation settings).targets.lookup shortcut.name with
  | none => exact .inr rfl
  | some identifier =>
      refine .inl ⟨(⟨identifier, none⟩ : TypeRef).link (registry.prepared settings).typeIndex, rfl, ?_⟩
      have sameName :
          ((⟨identifier, none⟩ : TypeRef).link (registry.prepared settings).typeIndex).name = identifier := by
        unfold TypeRef.link
        split <;> rfl
      rw [sameName]
      exact mem_of_lookup found

end Registry

/-! ## Generated collections -/

/-- An array of references stays one under a transformation that keeps references under their names. -/
theorem ResultType.IsArrayOf.mapShape {name : String} {resultType : ResultType} (isArray : resultType.IsArrayOf name)
    (transformation : Transformation)
    (keepsNames : ∀ reference, ∃ other, transformation.named reference = .named other ∧ other.name = reference.name) :
    (resultType.mapShape (Attribute.transform transformation)).IsArrayOf name := by
  obtain ⟨reference, elementDetails, details, sameName, shape⟩ := isArray
  obtain ⟨other, becomes, otherName⟩ := keepsNames reference
  refine ⟨other, transformation.details elementDetails, transformation.details details, otherName.trans sameName, ?_⟩
  simp [ResultType.mapShape, shape, Attribute.transform, DataType.transform, becomes]

theorem ResultType.IsArrayOf.canonicalViews {name : String} {resultType : ResultType}
    (isArray : resultType.IsArrayOf name) : resultType.canonicalViews.IsArrayOf name := isArray

theorem ResultType.IsArrayOf.link {name : String} {resultType : ResultType} (isArray : resultType.IsArrayOf name)
    (index : TypeIndex) : (resultType.link index).IsArrayOf name := by
  have linked : (resultType.mapShape (Attribute.link index)).IsArrayOf name :=
    isArray.mapShape (linking index) (keepsNames_linking index).named
  unfold ResultType.link
  split
  · exact linked
  · split
    · exact linked
    · exact isArray

namespace Registry

variable {settings : Settings} {registry : Registry}

theorem isArrayOf_staged (settings : Settings) (registry : Registry) {name : String} {resultType : ResultType}
    (isArray : resultType.IsArrayOf name) :
    (registry.staged settings resultType).IsArrayOf name := by
  have resolved := isArray.mapShape (Generation.resolution (registry.generation settings).targets)
    fun reference => ⟨reference, rfl, rfl⟩
  have marked := resolved.mapShape (registry.marking settings) fun reference => ⟨reference, rfl, rfl⟩
  unfold staged
  exact marked.canonicalViews.link _

/-- A result type that is marked as generated was generated, for no declaration makes such a one. -/
theorem IsDeclared.isArrayOf_of_generated (declared : registry.IsDeclared) {resultType : ResultType} {element : String}
    (member : resultType ∈ (registry.generation settings).registry.resultTypes)
    (identifier : resultType.identifier = ResultType.collectionIdentifier element)
    (generated : resultType.collection.map (·.generated) = some true) : resultType.IsArrayOf element := by
  have sound : (registry.generation settings).IsSound (registry.named settings) := declared.isSound_generation
  obtain ⟨added, same, allGenerated⟩ := sound.extended.resultTypes
  rw [same] at member
  rcases List.mem_append.mp member with fromNaming | isAdded
  · exact absurd generated (declared.not_generated_of_named fromNaming)
  · obtain ⟨other, isGenerated⟩ := allGenerated resultType isAdded
    have sameElement : other = element :=
      ResultType.collectionIdentifier_injective (isGenerated.identifier.symm.trans identifier)
    rw [← sameElement]
    exact isGenerated.shape

end Registry

/-! ## Models -/

namespace Model

/-- A reference stands for a shortcut: it is the identifier of the collection of an element, and the element is a result
type of the shortcut's name. -/
structure StandsFor (model : Model) (reference shortcut : TypeRef) (element collection : ResultType) : Prop where
  elementMember : element ∈ model.resultTypes
  named : element.isNamed shortcut.name = true
  collectionMember : collection ∈ model.resultTypes
  identifier : collection.identifier = ResultType.collectionIdentifier element.identifier
  reference : reference.name = collection.identifier

/-- The look-ups of a shortcut and of the reference in its place do not drift apart: no user type hides the
collection, the shortcut's name and the element's identifier denote the same declaration, and the collection is an
array of references to the element, as every generated one is. -/
structure LooksUpAlike (model : Model) (shortcut : TypeRef) (element collection : ResultType) : Prop where
  notHidden : model.userType? collection.identifier = none
  sameElement : model.denoted? shortcut.name = model.denoted? element.identifier
  isArray : collection.collection.map (·.generated) = some true ∨ collection.IsArrayOf element.identifier

theorem denoted?_isSome_of_mem {model : Model} {element : ResultType} (member : element ∈ model.resultTypes) :
    (model.denoted? element.identifier).isSome = true := by
  unfold denoted?
  simp only [Option.isSome_or, Option.isSome_map, Bool.or_eq_true]
  refine .inr (.inl ?_)
  rw [Array.find?_isSome]
  exact ⟨element, member, by simp⟩

/-- Where look-ups do not drift apart and the collection is an array of references, the reference accepts what the
shortcut accepts. -/
theorem IsConsistent.accepts_of_standsFor {model : Model} (consistent : model.IsConsistent)
    {reference shortcut : TypeRef} {element collection : ResultType}
    (standsFor : model.StandsFor reference shortcut element collection)
    (notHidden : model.userType? collection.identifier = none)
    (sameElement : model.denoted? shortcut.name = model.denoted? element.identifier)
    (isArray : collection.IsArrayOf element.identifier) (value : Value) :
    model.vocabulary.accepts (.named reference) value = model.vocabulary.accepts (.collection shortcut) value := by
  obtain ⟨inner, elementDetails, details, innerName, shape⟩ := isArray
  have ofCollection : model.shapeOf? reference.name = some ⟨.array ⟨.named inner, elementDetails⟩, details⟩ := by
    rw [standsFor.reference, Model.shapeOf?, notHidden, consistent.resultType,
      consistent.ascending.find?_identifier standsFor.collectionMember]
    simp [shape]
  obtain ⟨declaration, denotes⟩ := Option.isSome_iff_exists.mp (denoted?_isSome_of_mem standsFor.elementMember)
  have ofElement : model.shapeOf? inner.name = some declaration.shape := by
    rw [innerName, consistent.shapeOf, denotes]
    rfl
  have ofShortcut : model.shapeOf? shortcut.name = some declaration.shape := by
    rw [consistent.shapeOf, sameElement, denotes]
    rfl
  exact Vocabulary.accepts_collection consistent.hasNoShortcuts ofCollection ofElement ofShortcut value

end Model

/-- What generation puts in place of a shortcut stands for it in the model; and if the collection was generated, it is
an array of references to the element. -/
theorem Registry.IsDeclared.exists_standsFor {settings : Settings} {registry : Registry}
    (declared : registry.IsDeclared) {shortcut reference : TypeRef}
    (isTarget : (shortcut.name, reference.name) ∈ (registry.generation settings).targets) :
    ∃ element collection,
      (Model.ofRegistry (registry.derived settings)).StandsFor reference shortcut element collection ∧
        (collection.collection.map (·.generated) = some true → collection.IsArrayOf element.identifier) := by
  obtain ⟨element, inGeneration, isNamed, target, collection, collectionInGeneration, identifier⟩ :=
    declared.isSound_generation.targets _ isTarget
  obtain ⟨finalElement, elementInModel, elementIdentifier, elementTypeName, _, _⟩ :=
    declared.exists_derived inGeneration
  obtain ⟨finalCollection, collectionInModel, collectionIdentifier, _, sameGenerated, sameShape⟩ :=
    declared.exists_derived collectionInGeneration
  refine ⟨finalElement, finalCollection, ⟨Model.mem_resultTypes_ofRegistry.mpr elementInModel, ?_,
    Model.mem_resultTypes_ofRegistry.mpr collectionInModel, ?_, ?_⟩, ?_⟩
  · simpa [ResultType.isNamed, elementIdentifier, elementTypeName] using isNamed
  · rw [collectionIdentifier, identifier, target, elementIdentifier]
  · rw [collectionIdentifier, identifier]
  · intro generated
    rw [sameGenerated] at generated
    obtain ⟨inner, elementDetails, details, innerName, shapeIs⟩ := Registry.isArrayOf_staged settings registry
      (declared.isArrayOf_of_generated collectionInGeneration (identifier.trans target) generated)
    rw [elementIdentifier]
    exact ⟨inner, elementDetails, details, innerName, sameShape.trans shapeIs⟩

/-- A declared shortcut stands in the model, at the same place, as a reference to the collection of a result type of
the shortcut's name; and where the look-ups do not drift apart, that reference accepts exactly what the shortcut
accepts. -/
theorem exists_reference_of_shortcut {settings : Settings} {declarations : List Declaration} {model : Model}
    (evaluated : evaluate settings declarations = .ok model) {holder : Holder} {place : Nat} {shape node : Attribute}
    {shortcut : TypeRef} (held : (declaredRegistry declarations).shapeHeld? holder = some shape)
    (here : shape.nodes[place]? = some node) (isShortcut : node.type = .collection shortcut) :
    ∃ settled final finalNode reference element collection,
      (declaredRegistry declarations).settledHolder? settings holder = some settled ∧
        model.shapeHeld? settled = some final ∧ final.nodes[place]? = some finalNode ∧
        finalNode.type = .named reference ∧ model.StandsFor reference shortcut element collection ∧
        (model.LooksUpAlike shortcut element collection → ∀ value,
          model.vocabulary.accepts finalNode.type value = model.vocabulary.accepts node.type value) := by
  obtain ⟨registry, declares, succeeds, rfl⟩ := evaluate_eq_ok_iff.mp evaluated
  have declared := declares.isDeclared
  have consistent := succeeds.isConsistent declared
  rw [declares.eq_declaredRegistry] at held ⊢
  obtain ⟨settled, named, settles, heldNamed, keeps⟩ := declared.shapeHeld?_named settings held
  have heldFinal := declared.shapeHeld?_derived succeeds.noUnresolved heldNamed
  have finalHere : (registry.finish settings named).nodes[place]? = some (registry.finish settings node) := by
    rw [Registry.nodes_finish, List.getElem?_map, (keeps place node shortcut isShortcut).mp here]
    rfl
  have inModel : registry.finish settings node ∈ (Model.ofRegistry (registry.derived settings)).nodes :=
    List.mem_flatMap.mpr ⟨_, Registry.mem_shapes_of_shapeHeld? heldFinal, List.mem_of_getElem? finalHere⟩
  rcases Registry.type_finish settings registry isShortcut with ⟨reference, type, isTarget⟩ | stillShortcut
  · obtain ⟨element, collection, standsFor, generatedIsArray⟩ := declared.exists_standsFor isTarget
    refine ⟨settled, _, _, reference, element, collection, settles, heldFinal, finalHere, type, standsFor, ?_⟩
    intro alike value
    rw [type, isShortcut]
    exact consistent.accepts_of_standsFor standsFor alike.notHidden alike.sameElement
      (alike.isArray.elim generatedIsArray id) value
  · have noShortcut := consistent.noShortcut _ inModel
    rw [stillShortcut] at noShortcut
    cases noShortcut

/-- A cellar of bottles, written with a shortcut. -/
def cellarOfBottles : List Declaration :=
  [.resultType "vnd.bottle" [.block (.view "default") []], .userType "Cellar" [.type (.collectionOf "vnd.bottle")]]

/-- A shortcut by identifier, with nothing else under the names it is looked up by, keeps its meaning. -/
theorem accepts_cellarOfBottles :
    ∃ model, evaluate {} cellarOfBottles = .ok model ∧
      ∃ final finalNode reference shortcut, model.shapeHeld? (.userType "Cellar") = some final ∧
        final.nodes[0]? = some finalNode ∧ finalNode.type = .named reference ∧ shortcut.name = "vnd.bottle" ∧
        ∀ value, model.vocabulary.accepts finalNode.type value =
          model.vocabulary.accepts (.collection shortcut) value := by
  refine exists_model (fun model =>
    (model.userType? (ResultType.collectionIdentifier "vnd.bottle")).isNone &&
      model.resultTypes.all fun resultType =>
        (!resultType.isNamed "vnd.bottle" || resultType.identifier == "vnd.bottle") &&
          (resultType.identifier != ResultType.collectionIdentifier "vnd.bottle" ||
            resultType.collection.map (·.generated) == some true))
    (by decide +kernel) fun model evaluated passes => ?_
  have declared : ((declaredRegistry cellarOfBottles).shapeHeld? (.userType "Cellar")).any (fun shape =>
      shape.nodes[0]?.any fun node => node.type.shortcut? == some "vnd.bottle") = true := by decide +kernel
  obtain ⟨shape, held, atPlace⟩ := (Option.any_eq_true _ _).mp declared
  obtain ⟨node, here, named⟩ := (Option.any_eq_true _ _).mp atPlace
  obtain ⟨shortcut, isShortcut⟩ := DataType.exists_of_shortcut? (beq_iff_eq.mp named)
  have shortcutName : shortcut.name = "vnd.bottle" := by
    rw [isShortcut] at named
    exact Option.some.inj (beq_iff_eq.mp named)
  obtain ⟨settled, final, finalNode, reference, element, collection, settles, heldFinal, hereFinal, isReference,
    standsFor, alike⟩ := exists_reference_of_shortcut evaluated held here isShortcut
  cases settles
  rw [Bool.and_eq_true, Array.all_eq_true'] at passes
  simp only [Bool.and_eq_true, Bool.or_eq_true, Bool.not_eq_true', bne_iff_ne, beq_iff_eq] at passes
  obtain ⟨notHidden, everywhere⟩ := passes
  have elementIdentifier : element.identifier = "vnd.bottle" := by
    refine (everywhere element standsFor.elementMember).1.resolve_left ?_
    rw [← shortcutName, standsFor.named]
    decide
  have collectionIdentifier : collection.identifier = ResultType.collectionIdentifier "vnd.bottle" := by
    rw [standsFor.identifier, elementIdentifier]
  have generated := (everywhere collection standsFor.collectionMember).2.resolve_left
    (not_not_intro collectionIdentifier)
  refine ⟨final, finalNode, reference, shortcut, heldFinal, hereFinal, isReference, shortcutName, ?_⟩
  rw [← isShortcut]
  refine alike ⟨?_, ?_, .inl generated⟩
  · rw [collectionIdentifier]
    exact Option.isNone_iff_eq_none.mp notHidden
  · rw [shortcutName, elementIdentifier]

/-- A user type `T` with the shortcut for a name, in a design where the reference in its place tells a value from the
shortcut. -/
def Drifts (name : String) (value : Value) (others : List Declaration) : Prop :=
  ∃ model, evaluate {} (.userType "T" [.type (.collectionOf name)] :: others) = .ok model ∧
    ∃ final, model.shapeHeld? (.userType "T") = some final ∧
      final.type.reference?.map (·.name) = some "a/x; type=collection" ∧
      model.vocabulary.accepts final.type value ≠ model.vocabulary.accepts (.collectionOf name) value

/-- None of the three conditions can go: a user type has the element's type name, a user type has the collection's
identifier, or a declared collection has another type. -/
theorem drifts_each_way :
    Drifts "X" (.array [.int 3])
        [.userType "X" [.type (.primitive .int32)], .resultType "a/x" [.block (.view "default") []]] ∧
      Drifts "a/x" (.int 3)
        [.userType "a/x; type=collection" [.type (.primitive .int32)],
          .resultType "a/x" [.block (.view "default") []]] ∧
      Drifts "a/x" (.int 3)
        [.collectionOf "a/x" [.setting (.type (.primitive .int32))],
          .resultType "a/x" [.block (.view "default") []]] := by
  have drifts : ∀ {name : String} {value : Value} {others : List Declaration},
      (evaluate {} (.userType "T" [.type (.collectionOf name)] :: others)).toOption.any (fun model =>
        (model.shapeHeld? (.userType "T")).any fun final =>
          final.type.reference?.map (·.name) == some "a/x; type=collection" &&
            model.vocabulary.accepts final.type value != model.vocabulary.accepts (.collectionOf name) value) =
        true → Drifts name value others := by
    intro name value others differs
    refine exists_model _ differs fun model _ passes => ?_
    obtain ⟨final, held, both⟩ := (Option.any_eq_true _ _).mp passes
    simp only [Bool.and_eq_true, beq_iff_eq, bne_iff_ne] at both
    exact ⟨final, held, both⟩
  exact ⟨drifts (by decide +kernel), drifts (by decide +kernel), drifts (by decide +kernel)⟩

end ApiDesign
