import ApiDesign.Evaluation.Findings
import ApiDesign.Evaluation.Links
import ApiDesign.Proofs.Diagnostic
import ApiDesign.Proofs.Evaluation.Naming
import ApiDesign.Proofs.Evaluation.Views
import ApiDesign.Proofs.Registry.Roots
import ApiDesign.Proofs.Schema.Located

/-!
Contract: every finding is located below the trail that it was looked for with.

A check hands its trail on to the checks of the parts, with the frame of the part added. So whatever a check finds has a
trail that begins with the one the check was given; what evaluation finds in a declaration has the frame of that
declaration as its outermost one. The findings of a registry are those of its roots, one after the other.

Owns: the findings of a root, the trails of findings, of unresolved references, of naming and of derivation.
Does not own: trails as such (`Proofs.Diagnostic`), what declaring records (`Proofs.Clause.Trails`).
-/

namespace ApiDesign

/-! ## Findings in attributes -/

section Attributes

variable {vocabulary : Vocabulary}

theorem allWithin_duplicateFindings (trail : List String) (kind : Kind) (names : List String) :
    AllWithin trail (duplicateFindings trail kind names) :=
  .map_located _ _

theorem allWithin_defaultFindings (trail : List String) (node : Attribute) :
    AllWithin trail (vocabulary.defaultFindings trail node) := by
  unfold Vocabulary.defaultFindings
  split
  · split
    · exact .nil
    · exact .singleton _
  · exact .nil

theorem allWithin_requiredFindings (trail : List String) (node : Attribute) :
    AllWithin trail (vocabulary.requiredFindings trail node) := by
  unfold Vocabulary.requiredFindings
  split
  · exact .map_located _ _
  · exact .nil

theorem allWithin_nodeFindings (trail : List String) (node : Attribute) :
    AllWithin trail (vocabulary.nodeFindings trail node) :=
  ((allWithin_defaultFindings trail node).append (allWithin_requiredFindings trail node)).append
    (allWithin_duplicateFindings trail _ _)

/-- What is found at each node of a shape is found below the trail of the shape. -/
theorem allWithin_located {trail : List String} {shape : Attribute} {find : List String → Attribute → List Diagnostic}
    (each : ∀ nodeTrail node, AllWithin nodeTrail (find nodeTrail node)) :
    AllWithin trail ((shape.located trail).flatMap fun (nodeTrail, node) => find nodeTrail node) :=
  .flatMap fun (nodeTrail, node) member => by
    obtain ⟨path, rfl, _⟩ := Attribute.mem_located_iff.mp member
    exact (each _ node).of_append

theorem allWithin_shapeFindings (trail : List String) (shape : Attribute) :
    AllWithin trail (vocabulary.shapeFindings trail shape) :=
  allWithin_located allWithin_nodeFindings

/-! ## Findings in declarations -/

theorem allWithin_hostFindings (trail : List String) (host : Host) :
    AllWithin trail (host.findings vocabulary trail) := by
  refine .append (.append (.map_located _ _) ?_) (allWithin_shapeFindings trail _)
  intro diagnostic member
  obtain ⟨⟨name, declared⟩, _, rfl⟩ := List.mem_map.mp member
  exact (Diagnostic.isWithin_located _ _).of_append

theorem allWithin_serverFindings (trail : List String) (servers : List Server) :
    AllWithin trail (serverFindings vocabulary trail servers) :=
  .append (allWithin_duplicateFindings trail _ _) <| .flatMap fun _ _ =>
    .of_append <| .append (allWithin_duplicateFindings _ _ _) <| .flatMap fun host _ =>
      (allWithin_hostFindings _ host).of_append

theorem allWithin_errorFindings (trail : List String) (errors : List ErrorAnswer) :
    AllWithin trail (errorFindings vocabulary trail errors) :=
  .flatMap fun _ _ => (allWithin_shapeFindings _ _).of_append

theorem allWithin_partFindings (trail : List String) (part : Option Attribute) :
    AllWithin trail (vocabulary.partFindings trail part) :=
  .flatMap fun _ _ => allWithin_shapeFindings trail _

theorem allWithin_methodFindings (trail : List String) (method : Method) :
    AllWithin trail (method.findings vocabulary trail) :=
  (((allWithin_duplicateFindings trail _ _).append (allWithin_partFindings _ _).of_append).append
    (allWithin_partFindings _ _).of_append).append (allWithin_errorFindings trail _)

theorem allWithin_serviceFindings (trail : List String) (service : Service) :
    AllWithin trail (service.findings vocabulary trail) :=
  ((((allWithin_duplicateFindings trail _ _).append (allWithin_duplicateFindings trail _ _)).append
    (allWithin_errorFindings trail _)).append (allWithin_serverFindings trail _)).append
      (.flatMap fun method _ => (allWithin_methodFindings _ method).of_append)

theorem allWithin_viewFindings (trail : List String) (fields : List (String × Attribute)) (view : View) :
    AllWithin trail (view.findings trail fields) :=
  .of_append (.map_located _ _)

theorem allWithin_selectionFindings (registry : Registry) (trail : List String) (resultType : ResultType) :
    AllWithin trail (registry.selectionFindings trail resultType) := by
  unfold Registry.selectionFindings
  split
  · exact .flatMap fun view _ => allWithin_viewFindings trail _ view
  · exact .nil

theorem allWithin_resultTypeFindings (registry : Registry) (resultType : ResultType) :
    AllWithin [Kind.resultType.frame resultType.identifier] (registry.resultTypeFindings resultType) := by
  refine .append (.append (.append (allWithin_shapeFindings _ _) (allWithin_duplicateFindings _ _ _)) ?_)
    (allWithin_selectionFindings registry _ resultType)
  split
  · exact .singleton _
  · exact .nil

end Attributes

/-! ## Unresolved references -/

section Unresolved

variable {index : TypeIndex}

theorem allWithin_unresolvedHere (trail : List String) (node : Attribute) :
    AllWithin trail (node.unresolvedHere index trail) := by
  unfold Attribute.unresolvedHere
  split
  · split
    · exact .nil
    · exact .singleton _
  · exact .singleton _
  · exact .nil

theorem allWithin_unresolved (trail : List String) (shape : Attribute) :
    AllWithin trail (shape.unresolved index trail) :=
  allWithin_located allWithin_unresolvedHere

theorem allWithin_serversUnresolved (trail : List String) (servers : List Server) :
    AllWithin trail (serversUnresolved index trail servers) :=
  .flatMap fun _ _ => .flatMap fun _ _ => (allWithin_unresolved _ _).of_append

theorem allWithin_errorsUnresolved (trail : List String) (errors : List ErrorAnswer) :
    AllWithin trail (errorsUnresolved index trail errors) :=
  .flatMap fun _ _ => (allWithin_unresolved _ _).of_append

theorem allWithin_methodUnresolved (trail : List String) (method : Method) :
    AllWithin trail (method.unresolved index trail) :=
  .append (.append (.flatMap fun _ _ => (allWithin_unresolved _ _).of_append)
    (.flatMap fun _ _ => (allWithin_unresolved _ _).of_append)) (allWithin_errorsUnresolved trail _)

theorem allWithin_serviceUnresolved (trail : List String) (service : Service) :
    AllWithin trail (service.unresolved index trail) :=
  ((allWithin_serversUnresolved trail _).append (allWithin_errorsUnresolved trail _)).append
    (.flatMap fun method _ => (allWithin_methodUnresolved _ method).of_append)

theorem allWithin_resultTypeUnresolved (resultType : ResultType) :
    AllWithin [Kind.resultType.frame resultType.identifier] (resultType.unresolved index) := by
  unfold ResultType.unresolved
  split
  · exact allWithin_unresolved _ _
  · split
    · exact allWithin_unresolved _ _
    · exact .singleton _

end Unresolved

/-! ## Roots -/

/-- What is found in a root of a registry. -/
def Registry.rootFindings (registry : Registry) (root : Root) : List Diagnostic :=
  match root with
  | .api declared => serverFindings registry.vocabulary [root.frame] declared.servers
  | .service declared => declared.findings registry.vocabulary [root.frame]
  | .userType declared => registry.vocabulary.shapeFindings [root.frame] declared.shape
  | .resultType declared => registry.resultTypeFindings declared

theorem Registry.findings_eq_flatMap (registry : Registry) :
    registry.findings = registry.roots.flatMap registry.rootFindings := by
  simp only [roots, List.flatMap_append, List.flatMap_map]
  rfl

theorem Registry.allWithin_rootFindings (registry : Registry) (root : Root) :
    AllWithin [root.frame] (registry.rootFindings root) := by
  cases root with
  | api declared => exact allWithin_serverFindings _ declared.servers
  | service declared => exact allWithin_serviceFindings _ declared
  | userType declared => exact allWithin_shapeFindings _ declared.shape
  | resultType declared => exact allWithin_resultTypeFindings registry declared

/-- The unresolved references of a root. -/
def Root.unresolved (index : TypeIndex) (root : Root) : List Diagnostic :=
  match root with
  | .api declared => serversUnresolved index [root.frame] declared.servers
  | .service declared => declared.unresolved index [root.frame]
  | .userType declared => declared.shape.unresolved index [root.frame]
  | .resultType declared => declared.unresolved index

theorem Registry.unresolved_eq_flatMap (registry : Registry) (index : TypeIndex) :
    registry.unresolved index = registry.roots.flatMap (Root.unresolved index) := by
  simp only [roots, List.flatMap_append, List.flatMap_map]
  rfl

theorem Root.allWithin_unresolved (index : TypeIndex) (root : Root) :
    AllWithin [root.frame] (root.unresolved index) := by
  cases root with
  | api declared => exact allWithin_serversUnresolved _ declared.servers
  | service declared => exact allWithin_serviceUnresolved _ declared
  | userType declared => exact ApiDesign.allWithin_unresolved _ declared.shape
  | resultType declared => exact allWithin_resultTypeUnresolved declared

/-! ## Naming and derivation -/

/-- A diagnostic in one of some result types. -/
def IsInResultType (resultTypes : List ResultType) (diagnostic : Diagnostic) : Prop :=
  ∃ resultType ∈ resultTypes, diagnostic.IsWithin [Kind.resultType.frame resultType.identifier]

/-- What still waits for its name is as it was in the beginning. -/
theorem Naming.Reaches.waiting {suffix : String} {start reached : Naming} (reaches : Reaches suffix start reached) :
    ∀ position ∈ reached.pending, reached.resultTypes[position]? = start.resultTypes[position]? := by
  induction reaches with
  | refl => exact fun _ _ => rfl
  | @step reached position _ _ inductionHypothesis =>
      intro other waits
      rcases settle_cases suffix reached position with ⟨_, same⟩ | ⟨_, _, _, ⟨_, taken⟩ | ⟨_, named⟩⟩
      · rw [same] at waits ⊢
        exact inductionHypothesis other waits
      · rw [taken] at waits ⊢
        exact inductionHypothesis other (List.mem_filter.mp waits).1
      · rw [named] at waits ⊢
        obtain ⟨waited, elsewhere⟩ := List.mem_filter.mp waits
        rw [List.getElem?_set_ne (Ne.symm (by simpa using elsewhere))]
        exact inductionHypothesis other waited

/-- What naming reports stands in one of the result types it began with: it reports a collection that waits. -/
theorem Naming.Reaches.isInResultType {suffix : String} {start reached : Naming}
    (reaches : Reaches suffix start reached) (nothing : start.diagnostics = []) :
    ∀ diagnostic ∈ reached.diagnostics, IsInResultType start.resultTypes diagnostic := by
  induction reaches with
  | refl => simp [nothing]
  | @step reached position before pending inductionHypothesis =>
      rcases settle_cases suffix reached position with ⟨_, same⟩ | ⟨collection, _, ready, ⟨_, taken⟩ | ⟨_, named⟩⟩
      · rwa [same]
      · have here := (ready?_eq_some ready).1
        rw [before.waiting position pending] at here
        rw [taken]
        refine List.forall_mem_append.mpr ⟨inductionHypothesis, ?_⟩
        simpa using ⟨collection, List.mem_of_getElem? here, Diagnostic.isWithin_located _ _⟩
      · rwa [named]

namespace Derivation

section Steps

variable {given : List ResultType} {derivation : Derivation}
  (inResultTypes : ∀ diagnostic ∈ derivation.diagnostics, IsInResultType given diagnostic)

include inResultTypes

theorem isInResultType_inherit {collection : ResultType}
    (isGiven : ∃ before ∈ given, before.identifier = collection.identifier) (position element : Nat)
    (views : List View) :
    ∀ diagnostic ∈ (derivation.inherit position element collection views).diagnostics,
      IsInResultType given diagnostic := by
  obtain ⟨before, member, sameIdentifier⟩ := isGiven
  unfold inherit
  dsimp only
  split
  · exact inResultTypes
  · refine List.forall_mem_append.mpr ⟨inResultTypes, ?_⟩
    rw [← sameIdentifier]
    split
    · simp
    · simpa using ⟨before, member, Diagnostic.isWithin_located _ _⟩

theorem isInResultType_complete {collection : ResultType}
    (isGiven : ∃ before ∈ given, before.identifier = collection.identifier) (position : Nat) (views : List View) :
    ∀ diagnostic ∈ (derivation.complete position collection views).diagnostics, IsInResultType given diagnostic := by
  obtain ⟨before, member, sameIdentifier⟩ := isGiven
  refine List.forall_mem_append.mpr ⟨inResultTypes, ?_⟩
  rw [← sameIdentifier]
  intro diagnostic inViews
  obtain ⟨view, _, rfl⟩ := List.mem_map.mp inViews
  exact ⟨before, member, (Diagnostic.isWithin_located ([_] ++ [_]) _).of_append⟩

theorem isInResultType_derive
    (isGiven : ∀ collection ∈ derivation.resultTypes, ∃ before ∈ given, before.identifier = collection.identifier)
    (entry : Nat × Nat) : ∀ diagnostic ∈ (derivation.derive entry).diagnostics, IsInResultType given diagnostic := by
  unfold derive
  dsimp only
  split
  next here _ =>
    have collectionIsGiven := isGiven _ (List.mem_of_getElem? here)
    split
    · refine isInResultType_inherit ?_ collectionIsGiven _ _ _
      exact inResultTypes
    · refine isInResultType_complete ?_ collectionIsGiven _ _
      exact inResultTypes
  next => exact inResultTypes

end Steps

/-- What derivation reports stands in one of the result types it began with. -/
theorem Reaches.isInResultType {start reached : Derivation} (reaches : Reaches start reached)
    (nothing : start.diagnostics = []) :
    ∀ diagnostic ∈ reached.diagnostics, IsInResultType start.resultTypes diagnostic := by
  induction reaches with
  | refl => simp [nothing]
  | step before _ _ inductionHypothesis =>
      refine isInResultType_derive inductionHypothesis ?_ _
      intro collection member
      have sameWithoutViews : collection.withoutViews ∈ start.resultTypes.map (·.withoutViews) := by
        rw [← before.map_withoutViews]
        exact List.mem_map_of_mem member
      obtain ⟨given, isGiven, same⟩ := List.mem_map.mp sameWithoutViews
      exact ⟨given, isGiven, congrArg (·.identifier) same⟩

end Derivation

end ApiDesign
