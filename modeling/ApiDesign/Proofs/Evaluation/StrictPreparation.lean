import ApiDesign.Proofs.Evaluation.InternalErrors
import ApiDesign.Proofs.Evaluation.Leftovers
import ApiDesign.Proofs.Registry.Lifecycle

/-!
Contract: preparing a registry never fails on the way.

Strict preparation goes the way of preparation, but gives up where preparation would rely on something that it has not
checked: that a place is in range, and that a collection may be registered. Places stay in range because naming keeps
the number of result types and the index is rebuilt after it; a collection may be registered because the registry is
being prepared and the identifier was looked up just before. So strict preparation goes through.

Owns: strict preparation, `Generation.AddsOnce`.
Does not own: which shortcuts are left behind (`Proofs.Evaluation.Leftovers`).
-/

namespace ApiDesign

/-! ## Naming -/

namespace Naming

variable {suffix : String}

/-- A step of naming, given up if its place or the place of its element is out of range. -/
def settle? (suffix : String) (naming : Naming) (position : Nat) : Option Naming :=
  match naming.resultTypes[position]? with
  | none => none
  | some collection =>
      match collection.collection.bind fun facts => elementPosition? facts.element.name naming.resultTypes with
      | none => some (naming.settle suffix position)
      | some place =>
          match naming.resultTypes[place]? with
          | none => none
          | some _ => some (naming.settle suffix position)

/-- Goes through a number of rounds of strict steps. -/
def rounds? (suffix : String) : Nat → Naming → Option Naming
  | 0, naming => some naming
  | count + 1, naming => (naming.pending.foldlM (settle? suffix) naming).bind (rounds? suffix count)

/-- Names all declared collections in strict steps. -/
def run? (suffix : String) (resultTypes : List ResultType) : Option Naming :=
  let naming := start suffix resultTypes
  rounds? suffix naming.pending.length naming

theorem settle?_eq {naming : Naming} {position : Nat} (below : position < naming.resultTypes.length) :
    naming.settle? suffix position = some (naming.settle suffix position) := by
  unfold settle?
  rw [List.getElem?_eq_getElem below]
  dsimp only
  split
  · rfl
  · next place found =>
      obtain ⟨facts, _, isPlace⟩ := Option.bind_eq_some_iff.mp found
      rw [List.getElem?_eq_getElem (elementPosition?_lt isPlace)]

theorem length_settle (naming : Naming) (position : Nat) :
    (naming.settle suffix position).resultTypes.length = naming.resultTypes.length := by
  rcases settle_cases suffix naming position with ⟨_, same⟩ | ⟨_, _, _, ⟨_, taken⟩ | ⟨_, named⟩⟩
  · rw [same]
  · rw [taken]
  · rw [named, List.length_set]

/-- Naming keeps the number of result types, so places that were in range stay in range. -/
theorem foldlM_settle?_eq :
    ∀ (positions : List Nat) (naming : Naming), (∀ position ∈ positions, position < naming.resultTypes.length) →
      positions.foldlM (settle? suffix) naming = some (positions.foldl (settle suffix) naming)
  | [], _, _ => rfl
  | position :: rest, naming, inRange => by
      rw [List.foldlM_cons, settle?_eq (inRange position List.mem_cons_self)]
      refine foldlM_settle?_eq rest _ fun other member => ?_
      rw [length_settle]
      exact inRange other (List.mem_cons_of_mem _ member)

/-- Every place that waits in a run is in range. -/
theorem Reaches.pending_lt {resultTypes : List ResultType} {reached : Naming}
    (reaches : Reaches suffix (start suffix resultTypes) reached) :
    ∀ position ∈ reached.pending, position < reached.resultTypes.length := by
  induction reaches with
  | refl =>
      intro position waits
      obtain ⟨_, here, _⟩ := mem_pending_start.mp waits
      simpa [start] using (List.getElem?_eq_some_iff.mp here).1
  | @step reached position _ _ inductionHypothesis =>
      intro other waits
      rw [length_settle]
      rcases pending_settle suffix reached position with same | less
      · exact inductionHypothesis other (same ▸ waits)
      · rw [less] at waits
        exact inductionHypothesis other (List.mem_filter.mp waits).1

theorem rounds?_eq {resultTypes : List ResultType} :
    ∀ (count : Nat) (naming : Naming), Reaches suffix (start suffix resultTypes) naming →
      rounds? suffix count naming = some (rounds suffix count naming)
  | 0, _, _ => rfl
  | count + 1, naming, reaches => by
      unfold rounds? rounds
      rw [foldlM_settle?_eq _ _ reaches.pending_lt, Option.bind_some]
      exact rounds?_eq count _
        (reaches_foldl_settle _ naming reaches (reaches.nodup_pending nodup_pending_start) fun _ member => member)

/-- Naming goes through in strict steps: every place it uses is in range. -/
theorem run?_eq (suffix : String) (resultTypes : List ResultType) :
    run? suffix resultTypes = some (run suffix resultTypes) :=
  rounds?_eq _ _ .refl

end Naming

/-! ## Generation -/

namespace Generation

variable {suffix : String} {base : Registry}

/-- A turn of generation, given up if the place of the element is out of range or its collection is refused. -/
def provide? (suffix : String) (generation : Generation) (name : String) : Option Generation :=
  match generation.registry.resultTypePosition? name with
  | none => some generation
  | some position =>
      match generation.registry.resultTypes[position]? with
      | none => none
      | some element =>
          let identifier := ResultType.collectionIdentifier element.identifier
          let targets := generation.targets ++ [(name, identifier)]
          if generation.registry.contains .resultType identifier then some { generation with targets := targets }
          else
            match generation.registry.register (.resultType (element.generatedCollection suffix)) with
            | .ok registry => some { generation with registry := registry, targets := targets }
            | .error _ => none

theorem provide?_eq {generation : Generation} (preparing : generation.registry.phase = .preparing)
    (indexed : generation.registry.IsIndexed) (name : String) :
    generation.provide? suffix name = some (generation.provide suffix name) := by
  unfold provide? provide Registry.resultType?
  cases found : generation.registry.resultTypePosition? name with
  | none => rfl
  | some position =>
      obtain ⟨element, here⟩ : ∃ element, generation.registry.resultTypes[position]? = some element :=
        ⟨_, List.getElem?_eq_getElem (indexed.resultTypePosition?_lt found)⟩
      simp only [Option.bind_some, here]
      cases taken : generation.registry.contains .resultType (ResultType.collectionIdentifier element.identifier) with
      | true => rfl
      | false =>
          have free : generation.registry.contains .resultType
              (element.generatedCollection suffix).identifier = false := taken
          rw [Registry.register_resultType preparing free]
          rfl

theorem foldlM_provide?_eq (preparing : base.phase = .preparing) :
    ∀ (names : List String) (generation : Generation), generation.IsSound base →
      names.foldlM (provide? suffix) generation = some (names.foldl (provide suffix) generation)
  | [], _, _ => rfl
  | name :: rest, generation, sound => by
      rw [List.foldlM_cons, provide?_eq (sound.extended.phase.trans preparing) sound.extended.indexed]
      exact foldlM_provide?_eq preparing rest _ (sound.provide preparing name)

/-- Generation in strict turns. -/
def run? (suffix : String) (registry : Registry) : Option Registry := do
  let generation ← registry.shortcutNames.foldlM (provide? suffix) ⟨registry, [], []⟩
  return generation.registry.mapShapes (Attribute.transform (resolution generation.targets))

/-- Generation goes through in strict turns: every place it uses is in range, and no collection is refused. -/
theorem run?_eq {registry : Registry} (preparing : registry.phase = .preparing) (indexed : registry.IsIndexed) :
    run? suffix registry = some (run suffix registry).1 := by
  unfold run?
  rw [foldlM_provide?_eq preparing _ _ ⟨indexed.extends_refl, rfl, by simp⟩]
  rfl

/-! ## What is generated -/

/-- What generation adds to the result types of a base: each is marked as generated, is the collection of a result type
that is there, and comes at a turn at which its identifier is not registered yet; no two are collections of the same
result type. -/
structure AddsOnce (suffix : String) (base : Registry) (added : List ResultType) : Prop where
  collections : ∀ collection ∈ added, ∃ element ∈ base.resultTypes ++ added,
    collection = element.generatedCollection suffix ∧ collection.IsGenerated element.identifier
  turns : ∀ collection ∈ added, ∃ name ∈ base.shortcutNames, GeneratesAt suffix base name collection.identifier
  once : added.Pairwise fun collection other =>
    ∀ element, collection.IsGenerated element → ¬other.IsGenerated element
  distinct : ((base.resultTypes ++ added).map (·.identifier)).Nodup

theorem exists_addsOnce_final (preparing : base.phase = .preparing) (indexed : base.IsIndexed) (suffix : String) :
    ∃ added, (final suffix base).registry.resultTypes = base.resultTypes ++ added ∧ AddsOnce suffix base added := by
  obtain ⟨added, resultTypes, collections⟩ := adds_final preparing indexed suffix
  have distinct : ((final suffix base).registry.resultTypes.map (·.identifier)).Nodup :=
    (isSound_final preparing indexed suffix).extended.indexed.nodup .resultType
  rw [resultTypes] at distinct collections
  have apart := List.nodup_append.mp (List.map_append ▸ distinct)
  refine ⟨added, resultTypes, ?_, ?_, ?_, distinct⟩
  · intro collection member
    obtain ⟨element, isThere, rfl⟩ := collections collection member
    exact ⟨element, isThere, rfl, element.isGenerated_generatedCollection suffix⟩
  · intro collection member
    have absent : collection.identifier ∉ base.names .resultType := fun present =>
      apart.2.2 _ present _ (List.mem_map_of_mem member) rfl
    have present : collection.identifier ∈ (final suffix base).registry.names .resultType := by
      refine List.mem_map_of_mem ?_
      rw [resultTypes]
      exact List.mem_append_right _ member
    obtain ⟨earlier, name, later, names, before, after⟩ := exists_turn suffix base.shortcutNames absent present
    refine ⟨name, by rw [names]; simp, ?_⟩
    unfold GeneratesAt
    rw [beforeTurn_eq suffix names]
    exact ⟨before, after⟩
  · refine (List.pairwise_map.mp apart.2.1).imp ?_
    intro collection other different element isOf isOfToo
    exact different (isOf.identifier.trans isOfToo.identifier.symm)

end Generation

/-! ## Preparation -/

namespace Registry

variable {settings : Settings} {registry : Registry}

/-- Preparation in strict steps. -/
def prepare? (settings : Settings) (registry : Registry) : Option (Registry × List Diagnostic) := do
  let preparing := registry.beginPreparing
  let naming ← Naming.run? settings.collectionSuffix preparing.resultTypes
  let named := { preparing with resultTypes := naming.resultTypes }.reindex
  let generated ← Generation.run? settings.collectionSuffix named
  return ((generated.markExamples settings).canonicalViews.shareErrors.toSealed, naming.diagnostics)

theorem IsDeclared.prepare?_eq (declared : registry.IsDeclared) (settings : Settings) :
    registry.prepare? settings = some (registry.prepare settings) := by
  have named : { registry.beginPreparing with
      resultTypes := (Naming.run settings.collectionSuffix registry.beginPreparing.resultTypes).resultTypes }.reindex =
        registry.named settings := by
    unfold Registry.named nameCollections
    rfl
  simp only [prepare?, Naming.run?_eq, Option.bind_eq_bind, Option.bind_some, named]
  rw [Generation.run?_eq declared.phase_named declared.isIndexed_named, declared.prepare_eq, resultTypes_beginPreparing]
  unfold prepared completed generated
  rfl

/-- The generated result types of the prepared registry are those that generation added. -/
theorem IsDeclared.generated_prepared (declared : registry.IsDeclared) {added : List ResultType}
    (resultTypes : (registry.generation settings).registry.resultTypes =
      (registry.named settings).resultTypes ++ added)
    (marked : ∀ collection ∈ added, collection.isGeneratedCollection = true) :
    (((registry.prepared settings).resultTypes.filter (·.isGeneratedCollection)).map (·.identifier)).Perm
      (added.map (·.identifier)) := by
  have sameMark : ∀ resultType, (registry.filled settings resultType).isGeneratedCollection =
      resultType.isGeneratedCollection := by
    intro resultType
    unfold ResultType.isGeneratedCollection filled ResultType.canonicalViews ResultType.mapShape
    cases resultType.collection <;> rfl
  have noneNamed : (registry.named settings).resultTypes.filter (·.isGeneratedCollection) = [] := by
    rw [List.filter_eq_nil_iff]
    intro resultType member isGenerated
    exact declared.not_generated_of_named member (ResultType.isGeneratedCollection_iff.mp isGenerated)
  rw [declared.resultTypes_prepared]
  refine (((sortByName_perm _ _).filter _).map _).trans (.of_eq ?_)
  rw [List.filter_map, List.map_map, resultTypes]
  simp only [Function.comp_def, sameMark, List.filter_append, noneNamed, List.nil_append,
    List.filter_eq_self.mpr marked]
  rfl

end Registry

/-- Generation never fails. Of every design, with any settings, preparation goes through in strict steps: every place it
uses is in range, and no collection is refused. Evaluation finds no internal error. What is generated are collections of
result types, marked as generated, under the identifiers that follow from those of their elements; none comes when its
identifier is registered already, and none comes twice for one element, by whatever names shortcuts refer to it. These
are the result types of the prepared registry that are marked as generated. -/
theorem generation_never_fails (settings : Settings) (declarations : List Declaration) :
    let registry := (Design.empty.declareEach declarations).registry
    registry.prepare? settings = some (registry.prepare settings) ∧
      NoneInternal (registry.evaluate settings).diagnostics ∧
      ∃ added,
        (registry.generation settings).registry.resultTypes = (registry.named settings).resultTypes ++ added ∧
        Generation.AddsOnce settings.collectionSuffix (registry.named settings) added ∧
        (((registry.prepare settings).1.resultTypes.filter (·.isGeneratedCollection)).map (·.identifier)).Perm
          (added.map (·.identifier)) := by
  intro registry
  have declared : registry.IsDeclared := Design.isDeclared_declareEach declarations
  clear_value registry
  obtain ⟨added, resultTypes, addsOnce⟩ := Generation.exists_addsOnce_final declared.phase_named
    declared.isIndexed_named settings.collectionSuffix
  refine ⟨declared.prepare?_eq settings, declared.noneInternal_evaluate settings, added, resultTypes, addsOnce, ?_⟩
  rw [declared.prepare_eq]
  refine declared.generated_prepared resultTypes fun collection member => ?_
  obtain ⟨element, _, _, isGenerated⟩ := addsOnce.collections collection member
  obtain ⟨facts, here, _, generated⟩ := isGenerated.collection
  rw [ResultType.isGeneratedCollection, here]
  exact generated

/-- Two shortcuts refer to one element, by its identifier and by its type name. -/
example :
    ((Design.empty.declareEach
        [.resultType "a/x" [], .userType "Cellar" [.type (.collectionOf "X")],
          .userType "Rack" [.type (.collectionOf "a/x")]]).registry.prepare {}).1.resultTypes.map (·.identifier) =
      ["a/x", "a/x; type=collection"] := by decide +kernel

end ApiDesign
