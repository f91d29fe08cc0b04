import ApiDesign.Proofs.Clause.Trails
import ApiDesign.Proofs.Design.FirstOfKey
import ApiDesign.Proofs.Kind
import ApiDesign.Proofs.Registry.Gains

/-!
Contract: declaring a user type changes nothing for the declarations of other keys.

The same declarations are made twice, once without those of one user type. A declaration of another key finds the same
keys taken in both designs, so it registers the same root and reports the same. What the left-out declarations report
stands under the frame of their user type. So both designs stay the same, but for that user type and that frame.

Owns: `Declaration.ownDiagnostics`, `Design.Gains`, its preservation.
Does not own: what evaluation finds in the two registries (`Proofs.Evaluation.Unrelated`).
-/

namespace ApiDesign

namespace Declaration

/-! ## Diagnostics of one declaration -/

/-- What the clauses of a declaration record, registration aside. -/
def ownDiagnostics (declaration : Declaration) : List Diagnostic :=
  match declaration.opening with
  | .error _ => []
  | .ok opening => (outcome opening).reporter.diagnostics

theorem allWithin_ownDiagnostics (declaration : Declaration) :
    AllWithin [declaration.frame] declaration.ownDiagnostics := by
  unfold ownDiagnostics
  cases opens : declaration.opening with
  | error diagnostic => exact .nil
  | ok opening =>
      obtain ⟨recorded, same, _, within⟩ :=
        Clause.records_applyAll opening.clauses opening.node { frames := [opening.frame] }
      rw [frame_of_opening opens] at within
      have isRecorded : (outcome opening).reporter.diagnostics = recorded := same
      dsimp only
      rw [isRecorded]
      exact within

/-- The frame of a user type is that of its declarations only. -/
theorem frame_eq_iff {declaration : Declaration} {name : String} :
    declaration.frame = Kind.userType.frame name ↔ declaration.key = .userType name := by
  cases declaration <;> simp [frame, Kind.frame_inj, key, kind, RootKind.key, registeredName]

end Declaration

namespace Design

/-- A declaration that builds a root records its own diagnostics; then it registers the root, or reports under its own
frame what speaks against it. -/
theorem declare_eq_of_built {declaration : Declaration} {design : Design} {root : Root}
    (outside : design.reporter.frames = []) (builds : declaration.built? = some root) :
    (design.declare declaration).1 =
      match design.registry.objection? root with
      | none =>
          ⟨design.registry.append root, ⟨[], design.reporter.diagnostics ++ declaration.ownDiagnostics⟩⟩
      | some cause =>
          ⟨design.registry, ⟨[], design.reporter.diagnostics ++ declaration.ownDiagnostics ++
            [.located [declaration.frame] cause]⟩⟩ := by
  unfold Declaration.built? at builds
  cases opens : declaration.opening with
  | error diagnostic => simp [opens] at builds
  | ok opening =>
      simp only [opens] at builds
      split at builds
      next succeeds =>
        rw [declare_eq opens outside, Option.isNone_iff_eq_none.mp succeeds]
        simp only [register_eq builds, Declaration.frame_of_opening opens, Declaration.ownDiagnostics, opens,
          Registry.register]
        cases design.registry.objection? root <;> rfl
      next => cases builds

/-! ## Declaring with and without a user type -/

/-- The larger design is the smaller one, but for a user type of this name and what is reported under its frame. -/
structure Gains (name : String) (smaller larger : Design) : Prop where
  outside : smaller.reporter.frames = []
  otherOutside : larger.reporter.frames = []
  registry : smaller.registry.Gains name larger.registry
  diagnostics : larger.reporter.diagnostics.filter (·.isOutside (Kind.userType.frame name)) =
    smaller.reporter.diagnostics

namespace Gains

variable {name : String} {smaller larger : Design}

theorem empty (notBuiltIn : name ≠ errorResultName) : Gains name Design.empty Design.empty :=
  ⟨rfl, rfl, .initial notBuiltIn, rfl⟩

/-- A declaration of another key does the same to both. -/
theorem declare (gains : Gains name smaller larger) {declaration : Declaration} {root : Root}
    (builds : declaration.built? = some root) (isOther : declaration.key ≠ .userType name) :
    Gains name (smaller.declare declaration).1 (larger.declare declaration).1 := by
  have otherRoot : root.kind = .userType → root.name ≠ name := by
    intro isUserType isNamed
    refine isOther ?_
    rw [← Declaration.key_of_built? builds, Root.key, isUserType, isNamed]
    rfl
  have otherFrame : declaration.frame ≠ Kind.userType.frame name := fun same =>
    isOther (Declaration.frame_eq_iff.mp same)
  have ownKept := (Declaration.allWithin_ownDiagnostics declaration).filter_isOutside otherFrame
  rw [declare_eq_of_built gains.outside builds, declare_eq_of_built gains.otherOutside builds,
    gains.registry.objection?_eq otherRoot]
  cases free : smaller.registry.objection? root with
  | none =>
      refine ⟨rfl, rfl, gains.registry.append otherRoot free, ?_⟩
      simp only [List.filter_append, gains.diagnostics, ownKept]
  | some cause =>
      have reported : AllWithin [declaration.frame] [.located [declaration.frame] cause] := .singleton cause
      have reportKept := reported.filter_isOutside otherFrame
      refine ⟨rfl, rfl, gains.registry, ?_⟩
      simp only [List.filter_append, gains.diagnostics, ownKept, reportKept]

/-- A declaration of the user type does nothing that shows outside its frame. -/
theorem declare_right (gains : Gains name smaller larger) {declaration : Declaration} {root : Root}
    (builds : declaration.built? = some root) (isNamed : declaration.key = .userType name) :
    Gains name smaller (larger.declare declaration).1 := by
  have sameFrame := Declaration.frame_eq_iff.mpr isNamed
  have sameKey := (Declaration.key_of_built? builds).trans isNamed
  have within := Declaration.allWithin_ownDiagnostics declaration
  rw [sameFrame] at within
  rw [declare_eq_of_built gains.otherOutside builds]
  cases free : larger.registry.objection? root with
  | none =>
      cases root with
      | userType declared =>
          have sameName : declared.name = name := by simpa [Root.key, Root.kind, RootKind.key, Root.name] using sameKey
          refine ⟨gains.outside, rfl, gains.registry.append_right sameName free, ?_⟩
          simp only [List.filter_append, gains.diagnostics, within.filter_isOutside_self, List.append_nil]
      | _ => cases sameKey
  | some cause =>
      refine ⟨gains.outside, rfl, gains.registry, ?_⟩
      rw [sameFrame]
      simp only [List.filter_append, gains.diagnostics, within.filter_isOutside_self,
        (AllWithin.singleton cause).filter_isOutside_self, List.append_nil]

/-- Leaving out the declarations of a user type leaves the same design, but for that user type and its frame. -/
theorem declareEach (gains : Gains name smaller larger) {declarations : List Declaration}
    (built : ∀ declaration ∈ declarations, declaration.built?.isSome) :
    Gains name (smaller.declareEach (declarations.filter fun declaration => declaration.key ≠ .userType name))
      (larger.declareEach declarations) := by
  induction declarations generalizing smaller larger with
  | nil => exact gains
  | cons declaration rest inductionHypothesis =>
      obtain ⟨root, builds⟩ := Option.isSome_iff_exists.mp (built declaration List.mem_cons_self)
      have restBuilt : ∀ other ∈ rest, other.built?.isSome :=
        fun other member => built other (List.mem_cons_of_mem _ member)
      by_cases isNamed : declaration.key = .userType name
      · rw [List.filter_cons_of_neg (by simpa using isNamed)]
        exact inductionHypothesis (gains.declare_right builds isNamed) restBuilt
      · rw [List.filter_cons_of_pos (by simpa using isNamed)]
        exact inductionHypothesis (gains.declare builds isNamed) restBuilt

end Gains

end Design

end ApiDesign
