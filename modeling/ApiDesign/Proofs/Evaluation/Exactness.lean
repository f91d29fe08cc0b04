import ApiDesign.Proofs.Evaluation.Checking
import ApiDesign.Proofs.Evaluation.DeclaredShapes
import ApiDesign.Proofs.Evaluation.RepeatedNames
import ApiDesign.Proofs.Kind
import ApiDesign.Proofs.Schema.Acceptance

/-!
Contract: checking reports exactly what is wrong with attributes, each failure where it stands.

Among all that checking finds, some causes are about attributes: a default that does not fit, a required child that is
not there, a field that is there twice. Left with these causes only, what checking finds is what is wrong with each
node by itself, in walking order. So a report says something about a node at its path, and about nothing else.

Owns: `Cause.isOfAttribute`, what the findings of a node are, `Registry.ReportsExactly`.
Does not own: the nodes and their paths (`Proofs.Evaluation.DeclaredShapes`), that the scan finds the findings
(`Proofs.Evaluation.Checking`).
-/

namespace ApiDesign

/-! ## Single nodes -/

/-- Only inline objects have fields, so a name can repeat among fields of them only. -/
theorem one_lt_count_fields_iff {node : Attribute} {name : String} :
    1 < (node.fields.map Prod.fst).count name ↔
      ∃ fields, node.type = .object fields ∧ 1 < (fields.map Prod.fst).count name := by
  obtain ⟨type, details⟩ := node
  cases type <;> simp [Attribute.fields, DataType.fields?]

namespace Vocabulary

variable {vocabulary : Vocabulary}

/-- The aliases of a type lead to a type that is no object with a field of a name. -/
def Lacks (vocabulary : Vocabulary) (type : DataType) (name : String) : Prop :=
  ∃ steps final, vocabulary.Leads steps type final ∧ ∀ fields, final = .object fields → name ∉ fields.map Prod.fst

theorem lacks_iff {type : DataType} {name : String} :
    vocabulary.Lacks type name ↔
      ∃ fields, vocabulary.fieldsOf? type = some fields ∧ name ∉ fields.map Prod.fst := by
  have leadsIff : vocabulary.Lacks type name ↔ ∃ final, vocabulary.meaning type = .concrete final ∧
      ∀ fields, final = .object fields → name ∉ fields.map Prod.fst := by
    simp only [Lacks, meaning_eq_concrete_iff]
    grind
  rw [leadsIff]
  unfold fieldsOf?
  cases vocabulary.meaning type with
  | concrete final => cases final <;> simp
  | _ => simp

theorem mem_defaultFindings_iff {trail : List String} {node : Attribute} {diagnostic : Diagnostic} :
    diagnostic ∈ vocabulary.defaultFindings trail node ↔
      ∃ value, node.details.defaultValue = some value ∧ vocabulary.accepts node.type value = false ∧
        diagnostic = .located trail (.incompatibleDefault value.render node.typeName) := by
  unfold defaultFindings
  cases node.details.defaultValue with
  | none => simp
  | some value => cases accepted : vocabulary.accepts node.type value <;> simp [accepted]

theorem mem_requiredFindings_iff {trail : List String} {node : Attribute} {diagnostic : Diagnostic} :
    diagnostic ∈ vocabulary.requiredFindings trail node ↔
      ∃ name ∈ node.required, vocabulary.Lacks node.type name ∧
        diagnostic = .located trail (.missingRequired name) := by
  simp only [lacks_iff]
  unfold requiredFindings
  cases vocabulary.fieldsOf? node.type with
  | none => simp
  | some fields => simp [and_assoc, eq_comm (a := diagnostic)]

/-- What is wrong with a node by itself: its default, a required child, or fields of one name. -/
theorem mem_nodeFindings_iff {trail : List String} {node : Attribute} {diagnostic : Diagnostic} :
    diagnostic ∈ vocabulary.nodeFindings trail node ↔
      (∃ value, node.details.defaultValue = some value ∧ vocabulary.accepts node.type value = false ∧
        diagnostic = .located trail (.incompatibleDefault value.render node.typeName)) ∨
      (∃ name ∈ node.required, vocabulary.Lacks node.type name ∧
        diagnostic = .located trail (.missingRequired name)) ∨
      ∃ name, 1 < (node.fields.map Prod.fst).count name ∧
        diagnostic = .located trail (.duplicateName Kind.attr.keyword name) := by
  rw [nodeFindings, List.mem_append, List.mem_append, mem_defaultFindings_iff, mem_requiredFindings_iff,
    mem_duplicateFindings_iff, or_assoc]

/-- Everything that is wrong with a node by itself is reported where the node stands. -/
theorem trail_of_mem_nodeFindings {trail : List String} {node : Attribute} {diagnostic : Diagnostic}
    (found : diagnostic ∈ vocabulary.nodeFindings trail node) : diagnostic.trail = some trail := by
  rcases mem_nodeFindings_iff.mp found with ⟨_, _, _, rfl⟩ | ⟨_, _, _, rfl⟩ | ⟨_, _, rfl⟩ <;> rfl

/-- Each name that fields of a node share is reported once, at the node. -/
theorem count_nodeFindings (trail path : List String) (node : Attribute) (name : String) :
    (vocabulary.nodeFindings trail node).count (.located path (.duplicateName Kind.attr.keyword name)) =
      if trail = path ∧ 1 < (node.fields.map Prod.fst).count name then 1 else 0 := by
  have noDefault : Diagnostic.located path (.duplicateName Kind.attr.keyword name) ∉
      vocabulary.defaultFindings trail node := by
    simp [mem_defaultFindings_iff, Diagnostic.located]
  have notRequired : Diagnostic.located path (.duplicateName Kind.attr.keyword name) ∉
      vocabulary.requiredFindings trail node := by
    simp [mem_requiredFindings_iff, Diagnostic.located]
  rw [nodeFindings, List.count_append, List.count_append, List.count_eq_zero.mpr noDefault,
    List.count_eq_zero.mpr notRequired, count_duplicateFindings, Nat.zero_add]

/-- Each node at a path reports a name once that its fields share, and no other node does. -/
theorem count_locatedFindings (path : List String) (name : String) : (nodes : List (List String × Attribute)) →
    (vocabulary.locatedFindings nodes).count (.located path (.duplicateName Kind.attr.keyword name)) =
      nodes.countP fun (nodePath, node) => nodePath = path ∧ 1 < (node.fields.map Prod.fst).count name
  | [] => rfl
  | (nodePath, node) :: rest => by
      rw [locatedFindings, List.flatMap_cons, List.count_append, count_nodeFindings, List.countP_cons,
        ← count_locatedFindings path name rest, locatedFindings, Nat.add_comm]
      simp only [decide_eq_true_eq]

/-- What is found at a path is what is found at the nodes that stand there. -/
theorem filter_locatedFindings (path : List String) : (nodes : List (List String × Attribute)) →
    (vocabulary.locatedFindings nodes).filter (·.trail = some path) =
      vocabulary.locatedFindings (nodes.filter fun (nodePath, _) => nodePath = path)
  | [] => rfl
  | (nodePath, node) :: rest => by
      have onRest := filter_locatedFindings path rest
      rw [locatedFindings, List.flatMap_cons, List.filter_append, ← locatedFindings, onRest, List.filter_cons]
      by_cases here : nodePath = path
      · have kept : (vocabulary.nodeFindings nodePath node).filter (·.trail = some path) =
            vocabulary.nodeFindings nodePath node :=
          List.filter_eq_self.mpr fun diagnostic found => by simp [trail_of_mem_nodeFindings found, here]
        rw [kept, if_pos (decide_eq_true here)]
        rfl
      · have dropped : (vocabulary.nodeFindings nodePath node).filter (·.trail = some path) = [] :=
          List.filter_eq_nil_iff.mpr fun diagnostic found => by simp [trail_of_mem_nodeFindings found, here]
        rw [dropped, List.nil_append, if_neg (by simpa using here)]

end Vocabulary

/-! ## All nodes -/

/-- A cause that says something about an attribute by itself. -/
def Cause.isOfAttribute : Cause → Bool
  | .incompatibleDefault .. => true
  | .missingRequired _ => true
  | .duplicateName kind _ => kind == Kind.attr.keyword
  | _ => false

/-- The diagnostics whose causes are about attributes. -/
def ofAttributes (diagnostics : List Diagnostic) : List Diagnostic :=
  diagnostics.filter (·.cause.isOfAttribute)

theorem ofAttributes_append (diagnostics others : List Diagnostic) :
    ofAttributes (diagnostics ++ others) = ofAttributes diagnostics ++ ofAttributes others :=
  List.filter_append ..

theorem ofAttributes_flatMap {α : Type} (items : List α) (find : α → List Diagnostic) :
    ofAttributes (items.flatMap find) = items.flatMap fun item => ofAttributes (find item) :=
  List.filter_flatMap ..

/-- Names that repeat among other expressions say nothing about attributes. -/
theorem ofAttributes_duplicateFindings {kind : Kind} (other : kind ≠ .attr) (trail : List String)
    (names : List String) : ofAttributes (duplicateFindings trail kind names) = [] := by
  refine List.filter_eq_nil_iff.mpr fun diagnostic member => ?_
  obtain ⟨name, _, rfl⟩ := mem_duplicateFindings_iff.mp member
  simpa [Diagnostic.located, Cause.isOfAttribute] using fun same => other (Kind.keyword_injective same)

section Parts

variable {vocabulary : Vocabulary}

/-- Everything that is found in a shape is about attributes. -/
theorem ofAttributes_shapeFindings (trail : List String) (shape : Attribute) :
    ofAttributes (vocabulary.shapeFindings trail shape) = vocabulary.shapeFindings trail shape := by
  refine List.filter_eq_self.mpr fun diagnostic member => ?_
  obtain ⟨⟨path, node⟩, _, found⟩ := List.mem_flatMap.mp member
  rcases Vocabulary.mem_nodeFindings_iff.mp found with ⟨_, _, _, rfl⟩ | ⟨_, _, _, rfl⟩ | ⟨_, _, rfl⟩
  · rfl
  · rfl
  · exact beq_self_eq_true _

/-- What is found in shapes below their trails. -/
def Vocabulary.findingsIn (vocabulary : Vocabulary) (shapes : List (List String × Attribute)) : List Diagnostic :=
  shapes.flatMap fun (trail, shape) => vocabulary.shapeFindings trail shape

theorem findingsIn_append (shapes others : List (List String × Attribute)) :
    vocabulary.findingsIn (shapes ++ others) = vocabulary.findingsIn shapes ++ vocabulary.findingsIn others :=
  List.flatMap_append

theorem findingsIn_flatMap {α : Type} (items : List α) (shapes : α → List (List String × Attribute)) :
    vocabulary.findingsIn (items.flatMap shapes) = items.flatMap fun item => vocabulary.findingsIn (shapes item) :=
  List.flatMap_assoc

theorem findingsIn_map {α : Type} (items : List α) (shape : α → List String × Attribute) :
    vocabulary.findingsIn (items.map shape) =
      items.flatMap fun item => vocabulary.shapeFindings (shape item).1 (shape item).2 :=
  List.flatMap_map ..

theorem ofAttributes_serverFindings (trail : List String) (servers : List Server) :
    ofAttributes (serverFindings vocabulary trail servers) = vocabulary.findingsIn (hostShapes trail servers) := by
  have ofHost : ∀ (hostTrail : List String) (host : Host), ofAttributes (host.findings vocabulary hostTrail) =
      vocabulary.shapeFindings hostTrail host.uriVariables := by
    intro hostTrail host
    have noneOfUris : ofAttributes (host.uriFindings hostTrail) = [] := by
      refine List.filter_eq_nil_iff.mpr fun diagnostic member => ?_
      simp only [Host.uriFindings, List.mem_append, List.mem_map] at member
      rcases member with ⟨_, _, rfl⟩ | ⟨_, _, rfl⟩ <;> exact Bool.false_ne_true
    rw [Host.findings, ofAttributes_append, noneOfUris, ofAttributes_shapeFindings, List.nil_append]
  simp only [serverFindings, Server.findings, ofAttributes_append, ofAttributes_flatMap, ofHost,
    ofAttributes_duplicateFindings (by decide : Kind.server ≠ .attr),
    ofAttributes_duplicateFindings (by decide : Kind.host ≠ .attr), List.nil_append, hostShapes, findingsIn_flatMap,
    findingsIn_map]

theorem ofAttributes_errorFindings (trail : List String) (errors : List ErrorAnswer) :
    ofAttributes (errorFindings vocabulary trail errors) = vocabulary.findingsIn (errorShapes trail errors) := by
  simp only [errorFindings, ofAttributes_flatMap, ofAttributes_shapeFindings, errorShapes, findingsIn_map]

theorem ofAttributes_methodFindings (trail : List String) (method : Method) :
    ofAttributes (method.findings vocabulary trail) = vocabulary.findingsIn (method.declaredShapes trail) := by
  simp only [Method.findings, Vocabulary.partFindings, ofAttributes_append, ofAttributes_flatMap,
    ofAttributes_duplicateFindings (by decide : Kind.error ≠ .attr), ofAttributes_shapeFindings,
    ofAttributes_errorFindings, List.nil_append, Method.declaredShapes, findingsIn_append, findingsIn_map]

theorem ofAttributes_serviceFindings (trail : List String) (service : Service) :
    ofAttributes (service.findings vocabulary trail) = vocabulary.findingsIn (service.declaredShapes trail) := by
  simp only [Service.findings, ofAttributes_append, ofAttributes_flatMap,
    ofAttributes_duplicateFindings (by decide : Kind.method ≠ .attr),
    ofAttributes_duplicateFindings (by decide : Kind.error ≠ .attr), ofAttributes_errorFindings,
    ofAttributes_serverFindings, ofAttributes_methodFindings, List.nil_append, Service.declaredShapes,
    findingsIn_append, findingsIn_flatMap]

end Parts

namespace Registry

variable {registry : Registry}

/-- Views are no attributes: what is found about attributes of a result type is found in its shape. -/
theorem ofAttributes_resultTypeFindings (resultType : ResultType) :
    ofAttributes (registry.resultTypeFindings resultType) =
      registry.vocabulary.shapeFindings [Kind.resultType.frame resultType.identifier] resultType.shape := by
  have noneOfDefaultView : ∀ trail : List String, ofAttributes
      (if !resultType.inheritsViews && !resultType.hasDefaultView then
        [.located trail (.missingDefaultView resultType.identifier)]
      else []) = [] := by
    intro trail
    split <;> rfl
  have noneOfSelections : ∀ trail : List String, ofAttributes (registry.selectionFindings trail resultType) = [] := by
    intro trail
    refine List.filter_eq_nil_iff.mpr fun diagnostic member => ?_
    unfold selectionFindings at member
    split at member
    · obtain ⟨view, _, found⟩ := List.mem_flatMap.mp member
      obtain ⟨name, _, rfl⟩ := List.mem_map.mp found
      exact Bool.false_ne_true
    · cases member
  simp only [resultTypeFindings, ofAttributes_append, ofAttributes_shapeFindings,
    ofAttributes_duplicateFindings (by decide : Kind.view ≠ .attr), noneOfDefaultView, noneOfSelections,
    List.append_nil]

/-- What checking finds about attributes is what is wrong with each node of a declared shape, in walking order. -/
theorem ofAttributes_findings :
    ofAttributes registry.findings = registry.vocabulary.locatedFindings registry.locatedNodes := by
  have inShapes : ofAttributes registry.findings = registry.vocabulary.findingsIn registry.declaredShapes := by
    simp only [findings, ofAttributes_append, ofAttributes_flatMap, ofAttributes_serverFindings,
      ofAttributes_serviceFindings, ofAttributes_shapeFindings, ofAttributes_resultTypeFindings, declaredShapes,
      findingsIn_append, findingsIn_flatMap, findingsIn_map]
  rw [inShapes, locatedNodes, Vocabulary.locatedFindings, List.flatMap_assoc]
  rfl

/-- A diagnostic about attributes is found exactly if it says what is wrong with a node at its path. -/
theorem mem_findings_iff {diagnostic : Diagnostic} (isOfAttribute : diagnostic.cause.isOfAttribute = true) :
    diagnostic ∈ registry.findings ↔
      ∃ path node, registry.HasAt path node ∧ diagnostic ∈ registry.vocabulary.nodeFindings path node := by
  have inOfAttributes : diagnostic ∈ registry.findings ↔ diagnostic ∈ ofAttributes registry.findings := by
    simp [ofAttributes, isOfAttribute]
  rw [inOfAttributes, ofAttributes_findings, Vocabulary.locatedFindings, List.mem_flatMap]
  simp only [Prod.exists, mem_locatedNodes_iff]

/-! ## Reports -/

/-- Diagnostics report exactly what is wrong with the attributes of a registry, each where it stands. -/
structure ReportsExactly (registry : Registry) (diagnostics : List Diagnostic) : Prop where
  /-- A default is reported exactly at the nodes whose type does not accept it. -/
  defaults : ∀ path text type, .located path (.incompatibleDefault text type) ∈ diagnostics ↔
    ∃ node value, registry.HasAt path node ∧ node.details.defaultValue = some value ∧
      registry.vocabulary.accepts node.type value = false ∧ text = value.render ∧ type = node.typeName
  /-- A required child is reported exactly at the nodes whose aliases lead to a type without a field of its name. -/
  required : ∀ path name, .located path (.missingRequired name) ∈ diagnostics ↔
    ∃ node, registry.HasAt path node ∧ name ∈ node.required ∧ registry.vocabulary.Lacks node.type name
  /-- A name is reported exactly at the nodes that are inline objects with more than one field of it. -/
  duplicates : ∀ path name, .located path (.duplicateName Kind.attr.keyword name) ∈ diagnostics ↔
    ∃ node fields, registry.HasAt path node ∧ node.type = .object fields ∧ 1 < (fields.map Prod.fst).count name
  /-- It is reported once for each of these nodes. -/
  once : ∀ path name, diagnostics.count (.located path (.duplicateName Kind.attr.keyword name)) =
    registry.locatedNodes.countP fun (nodePath, node) =>
      nodePath = path ∧ 1 < (node.fields.map Prod.fst).count name
  /-- What is reported about attributes at a path is what is wrong with the nodes at that path. -/
  apart : ∀ path, (ofAttributes diagnostics).filter (·.trail = some path) =
    (registry.locatedNodes.filter fun (nodePath, _) => nodePath = path).flatMap fun (nodePath, node) =>
      registry.vocabulary.nodeFindings nodePath node

theorem reportsExactly_findings (registry : Registry) : registry.ReportsExactly registry.findings where
  defaults path text type := by
    rw [mem_findings_iff rfl]
    simp only [Vocabulary.mem_nodeFindings_iff, Diagnostic.located, Diagnostic.mk.injEq, Option.some.injEq,
      Cause.incompatibleDefault.injEq, reduceCtorEq, false_and, and_false, exists_false, or_false]
    grind
  required path name := by
    rw [mem_findings_iff rfl]
    simp only [Vocabulary.mem_nodeFindings_iff, Diagnostic.located, Diagnostic.mk.injEq, Option.some.injEq,
      Cause.missingRequired.injEq, reduceCtorEq, false_and, and_false, exists_false, or_false, false_or]
    grind
  duplicates path name := by
    rw [mem_findings_iff (beq_self_eq_true _)]
    simp only [Vocabulary.mem_nodeFindings_iff, Diagnostic.located, Diagnostic.mk.injEq, Option.some.injEq,
      Cause.duplicateName.injEq, reduceCtorEq, false_and, and_false, exists_false, false_or, true_and]
    simp only [one_lt_count_fields_iff]
    grind
  once path name := by
    rw [← Vocabulary.count_locatedFindings, ← ofAttributes_findings]
    exact (List.count_filter (p := fun diagnostic : Diagnostic => diagnostic.cause.isOfAttribute)
      (beq_self_eq_true _)).symm
  apart path := by
    rw [ofAttributes_findings, Vocabulary.filter_locatedFindings]
    rfl

end Registry

/-- Checking a registry outside all frames reports exactly what is wrong with its attributes, behind whatever was
reported before. The nodes it is responsible for are those of declared shapes, each at its path. -/
theorem check_reportsExactly (registry : Registry) (earlier : List Diagnostic) :
    ∃ recorded, registry.check.run ⟨[], earlier⟩ = ((), ⟨[], earlier ++ recorded⟩) ∧
      registry.ReportsExactly recorded ∧
      ∀ path node, (path, node) ∈ registry.locatedNodes ↔ registry.HasAt path node :=
  ⟨registry.findings, registry.yields_check ⟨[], earlier⟩, registry.reportsExactly_findings,
    fun _ _ => Registry.mem_locatedNodes_iff⟩

/-- A field that is there twice hides neither a required child that is not there nor a default further inside. -/
example :
    let lids : List (String × Attribute) :=
      [("lid", .ofType (.array ⟨.primitive .int32, { defaultValue := some (.text "shut") }⟩)),
        ("lid", .ofType (.primitive .string))]
    let bin : UserType := ⟨"Bin", ⟨.object lids, { validation := { required := ["lid", "key"] } }⟩⟩
    ({ userTypes := [bin] : Registry }).findings.map (fun finding => (finding.trail, finding.cause)) =
      [(some ["type \"Bin\""], .missingRequired "key"), (some ["type \"Bin\""], .duplicateName "attribute" "lid"),
        (some ["type \"Bin\"", "attribute \"lid\"", Frame.element], .incompatibleDefault "\"shut\"" "Int32")] := by
  decide +kernel

end ApiDesign
