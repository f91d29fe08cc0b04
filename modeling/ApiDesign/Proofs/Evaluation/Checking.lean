import ApiDesign.Evaluation.Checking
import ApiDesign.Proofs.Scan

/-!
Contract: checking finds what is wrong with each expression, where it stands.

The scan goes into a part inside the frame of the part; the findings are listed with the trail to each expression
given from outside. Both say the same, part by part: checking under the frames of a reporter finds the findings for
the trail of these frames, and nothing else happens to the reporter.

Owns: the findings of the scan.
Does not own: what the findings say about single nodes (`Proofs.Evaluation.Exactness`).
-/

namespace ApiDesign

open Scan

variable {vocabulary : Vocabulary}

theorem yields_reportDuplicates (kind : Kind) (names : List String) :
    Yields (reportDuplicates kind names) () fun trail => duplicateFindings trail kind names :=
  .forM_report _ _

/-! ## Attributes -/

theorem yields_checkDefault (node : Attribute) :
    Yields (vocabulary.checkDefault node) () fun trail => vocabulary.defaultFindings trail node := by
  unfold Vocabulary.checkDefault Vocabulary.defaultFindings
  cases node.details.defaultValue with
  | none => exact .pure ()
  | some value =>
      dsimp only
      split
      · exact .pure ()
      · exact .report _

theorem yields_checkRequired (node : Attribute) :
    Yields (vocabulary.checkRequired node) () fun trail => vocabulary.requiredFindings trail node := by
  unfold Vocabulary.checkRequired Vocabulary.requiredFindings
  cases vocabulary.fieldsOf? node.type with
  | none => exact .pure ()
  | some fields => exact .forM_report _ _

/-- What is found at nodes that are listed with their trails. -/
def Vocabulary.locatedFindings (vocabulary : Vocabulary) (located : List (List String × Attribute)) :
    List Diagnostic :=
  located.flatMap fun (nodeTrail, node) => vocabulary.nodeFindings nodeTrail node

theorem locatedFindings_append (located others : List (List String × Attribute)) :
    vocabulary.locatedFindings (located ++ others) =
      vocabulary.locatedFindings located ++ vocabulary.locatedFindings others :=
  List.flatMap_append

mutual

/-- Checking an attribute finds what is wrong with each node inside it. -/
theorem Attribute.yields_check :
    ∀ shape : Attribute, Yields (shape.check vocabulary) () fun trail => vocabulary.shapeFindings trail shape
  | ⟨type, details⟩ => by
      rw [Attribute.check]
      refine .congr ((yields_checkDefault _).bind ((yields_checkRequired _).bind type.yields_checkParts))
        fun trail => ?_
      simp [Vocabulary.shapeFindings, Attribute.located, Vocabulary.locatedFindings, Vocabulary.nodeFindings,
        Attribute.fields]

theorem DataType.yields_checkParts :
    ∀ type : DataType, Yields (type.checkParts vocabulary) () fun trail =>
      duplicateFindings trail .attr ((type.fields?.getD []).map Prod.fst) ++
        vocabulary.locatedFindings (type.located trail)
  | .primitive _ => .pure ()
  | .array element => by
      rw [DataType.checkParts]
      exact element.yields_check.within _
  | .map key value => by
      rw [DataType.checkParts]
      refine .congr ((key.yields_check.within _).bind (value.yields_check.within _)) fun trail => ?_
      rw [DataType.located, locatedFindings_append]
      rfl
  | .object fields => by
      rw [DataType.checkParts]
      exact (yields_reportDuplicates _ _).bind (DataType.yields_checkFields fields)
  | .named _ => .pure ()
  | .collection _ => .pure ()

theorem DataType.yields_checkFields :
    ∀ fields : List (String × Attribute), Yields (DataType.checkFields vocabulary fields) () fun trail =>
      vocabulary.locatedFindings (DataType.locatedFields trail fields)
  | [] => .pure ()
  | (name, child) :: rest => by
      rw [DataType.checkFields]
      refine .congr ((child.yields_check.within _).bind (DataType.yields_checkFields rest)) fun trail => ?_
      rw [DataType.locatedFields, locatedFindings_append]
      rfl

end

/-! ## Declarations -/

theorem Host.yields_check (host : Host) :
    Yields (host.check vocabulary) () fun trail => host.findings vocabulary trail := by
  unfold Host.check
  refine .congr (Yields.bind (.forM_report _ _) (Yields.bind (.forM fun _ _ => (Yields.report _).within _)
    host.uriVariables.yields_check)) fun trail => ?_
  simp [Host.findings, Host.uriFindings, List.map_eq_flatMap]

theorem Server.yields_check (server : Server) :
    Yields (server.check vocabulary) () fun trail => server.findings vocabulary trail :=
  (yields_reportDuplicates _ _).bind (.forM fun host _ => host.yields_check.within _)

theorem yields_checkServers (servers : List Server) :
    Yields (checkServers vocabulary servers) () fun trail => serverFindings vocabulary trail servers :=
  (yields_reportDuplicates _ _).bind (.forM fun server _ => server.yields_check.within _)

theorem yields_checkErrors (errors : List ErrorAnswer) :
    Yields (checkErrors vocabulary errors) () fun trail => errorFindings vocabulary trail errors :=
  .forM fun error _ => error.shape.yields_check.within _

theorem Method.yields_check (method : Method) :
    Yields (method.check vocabulary) () fun trail => method.findings vocabulary trail := by
  unfold Method.check
  refine .congr ((yields_reportDuplicates _ _).bind
    (Yields.bind (.optionForM fun payload _ => payload.yields_check.within _)
      (Yields.bind (.optionForM fun result _ => result.yields_check.within _)
        (yields_checkErrors method.ownErrors)))) fun trail => ?_
  simp [Method.findings, Vocabulary.partFindings]

theorem Service.yields_check (service : Service) :
    Yields (service.check vocabulary) () fun trail => service.findings vocabulary trail := by
  unfold Service.check
  refine .congr ((yields_reportDuplicates _ _).bind ((yields_reportDuplicates _ _).bind
    ((yields_checkErrors _).bind ((yields_checkServers _).bind
      (.forM fun method _ => method.yields_check.within _))))) fun trail => ?_
  simp [Service.findings]

theorem ResultType.yields_checkDefaultView (resultType : ResultType) :
    Yields resultType.checkDefaultView () fun trail =>
      if !resultType.inheritsViews && !resultType.hasDefaultView then
        [.located trail (.missingDefaultView resultType.identifier)]
      else [] := by
  unfold checkDefaultView
  split
  · exact .report _
  · exact .pure ()

theorem View.yields_check (fields : List (String × Attribute)) (view : View) :
    Yields (view.check fields) () fun trail => view.findings trail fields :=
  (Yields.forM_report _ _).within _

namespace Registry

variable (registry : Registry)

theorem yields_checkSelections (resultType : ResultType) :
    Yields (registry.checkSelections resultType) () fun trail => registry.selectionFindings trail resultType := by
  unfold checkSelections selectionFindings
  cases (registry.innermost? resultType).bind fun element => registry.vocabulary.fieldsOf? element.shape.type with
  | none => exact .pure ()
  | some fields => exact .forM fun view _ => view.yields_check fields

/-- What is wrong with a result type that is reached by a trail. -/
def resultTypeFindingsAt (trail : List String) (resultType : ResultType) : List Diagnostic :=
  registry.vocabulary.shapeFindings trail resultType.shape ++
    duplicateFindings trail .view (resultType.views.map (·.name)) ++
    (if !resultType.inheritsViews && !resultType.hasDefaultView then
      [.located trail (.missingDefaultView resultType.identifier)]
    else []) ++
    registry.selectionFindings trail resultType

theorem yields_checkResultType (resultType : ResultType) :
    Yields (registry.checkResultType resultType) () fun trail => registry.resultTypeFindingsAt trail resultType := by
  unfold checkResultType
  refine .congr (resultType.shape.yields_check.bind ((yields_reportDuplicates _ _).bind
    (resultType.yields_checkDefaultView.bind (registry.yields_checkSelections resultType)))) fun trail => ?_
  simp [resultTypeFindingsAt]

/-- What is wrong with a registry that is reached by a trail. -/
def findingsAt (trail : List String) : List Diagnostic :=
  (registry.api.toList.flatMap fun api =>
    serverFindings registry.vocabulary (trail ++ [Kind.api.frame api.name]) api.servers) ++
  (registry.services.flatMap fun service =>
    service.findings registry.vocabulary (trail ++ [Kind.service.frame service.name])) ++
  (registry.userTypes.flatMap fun userType =>
    registry.vocabulary.shapeFindings (trail ++ [Kind.userType.frame userType.name]) userType.shape) ++
  registry.resultTypes.flatMap fun resultType =>
    registry.resultTypeFindingsAt (trail ++ [Kind.resultType.frame resultType.identifier]) resultType

theorem findingsAt_nil : registry.findingsAt [] = registry.findings := rfl

/-- Checking a registry finds what is wrong with it. -/
theorem yields_check : Yields registry.check () registry.findingsAt := by
  unfold check
  refine .congr (Yields.bind (.optionForM fun api _ => (yields_checkServers api.servers).within _)
    (Yields.bind (.forM fun service _ => service.yields_check.within _)
      (Yields.bind (.forM fun userType _ => userType.shape.yields_check.within _)
        (.forM fun resultType _ => (registry.yields_checkResultType resultType).within _)))) fun trail => ?_
  simp [findingsAt]

end Registry

end ApiDesign
