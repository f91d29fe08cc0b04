import ApiDesign.Proofs.Clause.Failure

/-!
Contract: a clause that an expression has no place for is reported once and skipped whole.

What a clause needs of an expression depends on its call alone, not on what is nested in it. A setting changes nothing
exactly if the expression does not offer that, and exactly then a block opens nothing. Nested clauses are only searched
for a failed call, so that without one the report is all that comes of the clause.

Owns: `Capability`, what each call needs and what each expression offers, the application of a misplaced clause.
Does not own: clauses with a failed call inside (`Proofs.Clause.Failure`).
-/

namespace ApiDesign

/-! ## Capabilities -/

/-- What a call needs of the expression it is applied to. -/
inductive Capability where
  | facet (facet : Facet)
  /-- A place for a child: a view lists it, an inline object holds it. -/
  | child
  | attributes
  | element
  | key
  | qualifier
deriving DecidableEq, Repr

/-- An expression offers what a call needs. -/
inductive Node.Offers : Node → Capability → Prop
  | facet {node : Node} {facet : Facet} (has : node.has facet = true) : Offers node (.facet facet)
  | listedChild (view : View) : Offers (.view view) .child
  | heldChild {node : Node} {fields : List (String × Attribute)} {details : Details}
      (shape : node.shape? = some ⟨.object fields, details⟩) : Offers node .child
  | listedAttributes (view : View) : Offers (.view view) .attributes
  | heldAttributes {node : Node} {held : Attribute} (shape : node.shape? = some held) : Offers node .attributes
  | arrayElement {node : Node} {element : Attribute} {details : Details}
      (shape : node.shape? = some ⟨.array element, details⟩) : Offers node .element
  | mapValue {node : Node} {key value : Attribute} {details : Details}
      (shape : node.shape? = some ⟨.map key value, details⟩) : Offers node .element
  | mapKey {node : Node} {key value : Attribute} {details : Details}
      (shape : node.shape? = some ⟨.map key value, details⟩) : Offers node .key
  | qualifier (error : ErrorAnswer) : Offers (.error error) .qualifier

def Setting.capability : Setting → Capability
  | .qualifier _ => .qualifier
  | setting => .facet setting.facet

def Block.capability : Block → Capability
  | .attributes => .attributes
  | .sample _ => .facet .shape
  | .docs => .facet .docs
  | .contact => .facet .api
  | .license => .facet .api
  | .server _ => .facet .servers
  | .host _ => .facet .server
  | .method _ => .facet .service
  | .element => .element
  | .key => .key
  | .view _ => .facet .views
  | .attr .. => .child
  | .field .. => .child
  | .hostVariable .. => .facet .host
  | .payload _ => .facet .method
  | .result _ => .facet .method
  | .error .. => .facet .errors

/-- What a clause needs of the expression it is applied to; a failed call does not get as far. -/
def Clause.capability? : Clause → Option Capability
  | .setting what => some what.capability
  | .block what _ => some what.capability
  | .failed .. => none

/-! ## What expressions offer -/

namespace Node

variable {node : Node}

theorem offers_facet_iff {facet : Facet} : node.Offers (.facet facet) ↔ node.has facet = true := by
  constructor
  · rintro ⟨has⟩
    exact has
  · exact .facet

theorem offers_attributes_iff : node.Offers .attributes ↔ (node.has .shape || node.has .view) = true := by
  constructor
  · intro offers
    cases offers with
    | listedAttributes view => rfl
    | heldAttributes shape => cases node <;> first | rfl | cases shape
  · intro has
    cases node with
    | view held => exact .listedAttributes held
    | userType held => exact .heldAttributes rfl
    | resultType held => exact .heldAttributes rfl
    | attr held => exact .heldAttributes rfl
    | error held => exact .heldAttributes rfl
    | _ => cases has

theorem isSome_bind_part_iff (part : DataType → Option Attribute) :
    (node.shape?.bind fun shape => part shape.type).isSome = true ↔
      ∃ type details, node.shape? = some ⟨type, details⟩ ∧ (part type).isSome = true := by
  cases node.shape? with
  | none => simp
  | some held =>
      obtain ⟨type, details⟩ := held
      simp

theorem offers_element_iff :
    node.Offers .element ↔ (node.shape?.bind fun shape => shape.type.element?).isSome = true := by
  rw [isSome_bind_part_iff DataType.element?]
  constructor
  · intro offers
    cases offers with
    | arrayElement shape => exact ⟨_, _, shape, rfl⟩
    | mapValue shape => exact ⟨_, _, shape, rfl⟩
  · rintro ⟨type, details, shape, has⟩
    cases type with
    | array element => exact .arrayElement shape
    | map key value => exact .mapValue shape
    | _ => cases has

theorem offers_key_iff : node.Offers .key ↔ (node.shape?.bind fun shape => shape.type.key?).isSome = true := by
  rw [isSome_bind_part_iff DataType.key?]
  constructor
  · intro offers
    cases offers with
    | mapKey shape => exact ⟨_, _, shape, rfl⟩
  · rintro ⟨type, details, shape, has⟩
    cases type with
    | map key value => exact .mapKey shape
    | _ => cases has

theorem offers_qualifier_iff : node.Offers .qualifier ↔ node.kind = .error := by
  constructor
  · rintro ⟨error⟩
    rfl
  · intro isError
    cases node with
    | error held => exact .qualifier held
    | _ => cases isError

end Node

/-! ## Settings and blocks -/

/-- A setting can be made exactly where what it needs is offered. -/
theorem Setting.isSome_set?_iff {what : Setting} {node : Node} :
    (what.set? node).isSome = true ↔ node.Offers what.capability := by
  cases what with
  | qualifier which =>
      rw [capability, Node.offers_qualifier_iff]
      unfold set?
      by_cases isError : node.kind = .error
      · cases node with
        | error held => exact ⟨fun _ => rfl, fun _ => rfl⟩
        | _ => cases isError
      · simp [isError]
  | _ =>
      -- Which facets there are depends on the kind alone, so here each kind is compared with the table of facets.
      refine Iff.trans ?_ Node.offers_facet_iff.symm
      cases node <;> exact Iff.rfl

namespace Block

theorem opening_eq_misplaced_iff {facet : Facet} {frame : String} {opened node : Node} :
    opening facet frame opened node = .misplaced ↔ ¬node.Offers (.facet facet) := by
  rw [Node.offers_facet_iff]
  unfold opening
  split <;> simp [*]

theorem childSite_eq_misplaced_iff {name : String} {signature : Signature} {node : Node} :
    childSite name signature node = .misplaced ↔ ¬node.Offers .child := by
  unfold childSite
  split
  case h_1 held => exact ⟨nofun, fun lacks => absurd (.listedChild held) lacks⟩
  case h_2 noView =>
    split
    case h_1 fields details shape => exact ⟨nofun, fun lacks => absurd (.heldChild shape) lacks⟩
    case h_2 noObject =>
      refine ⟨fun _ offers => ?_, fun _ => rfl⟩
      cases offers with
      | listedChild view => exact noView view rfl
      | heldChild shape => exact noObject _ _ shape

/-- A block opens nothing exactly where what it needs is not offered. -/
theorem site_eq_misplaced_iff {what : Block} {node : Node} :
    what.site node = .misplaced ↔ ¬node.Offers what.capability := by
  cases what with
  | attributes =>
      rw [capability, Node.offers_attributes_iff, site]
      split <;> simp [*]
  | element =>
      rw [capability, Node.offers_element_iff, site]
      split <;> simp [*]
  | key =>
      rw [capability, Node.offers_key_iff, site]
      split <;> simp [*]
  | method name =>
      rw [capability, Node.offers_facet_iff]
      cases node <;> simp [site, Node.has, Node.kind, Kind.facets]
  | attr name signature => exact childSite_eq_misplaced_iff
  | field tag name signature => exact childSite_eq_misplaced_iff
  | _ => exact opening_eq_misplaced_iff

end Block

/-! ## Misplaced clauses -/

theorem Clause.reportMisplaced_eq (call : String) (node : Node) (reporter : Reporter) :
    reportMisplaced call node reporter =
      { reporter with
        diagnostics := reporter.diagnostics ++
          [.located reporter.frames (.misplacedCall call node.kind.keyword)] } :=
  rfl

/-- Where an expression does not offer what a clause needs, and no call inside the clause has failed, applying it
succeeds, leaves the expression as it is, and records one diagnostic, at the frames of that moment: that the call is not
for expressions of this kind. -/
theorem Clause.apply_misplaced {clause : Clause} {node : Node} {capability : Capability}
    (needs : clause.capability? = some capability) (lacks : ¬node.Offers capability) (intact : ¬clause.HasFailed)
    (reporter : Reporter) :
    clause.apply node reporter =
      ⟨node,
        { reporter with
          diagnostics := reporter.diagnostics ++
            [.located reporter.frames (.misplacedCall clause.call node.kind.keyword)] },
        none⟩ := by
  cases clause with
  | setting what =>
      cases needs
      have unchanged : what.set? node = none := by
        rw [← Option.not_isSome_iff_eq_none, Setting.isSome_set?_iff]
        exact lacks
      rw [apply, unchanged, reportMisplaced_eq]
      rfl
  | block what clauses =>
      cases needs
      have nowhere : what.site node = .misplaced := Block.site_eq_misplaced_iff.mpr lacks
      have nothingFailed : firstFailure? clauses = none := by
        rw [← isSome_failure?_iff, failure?, Option.not_isSome_iff_eq_none] at intact
        exact intact
      rw [apply, nowhere]
      unfold skipping
      rw [nothingFailed, reportMisplaced_eq]
      rfl
  | failed call diagnostic => cases needs

/-- A child with clauses of its own, among them a misplaced one, in an attribute that is an array of objects. -/
theorem Clause.apply_misplaced_field :
    (Clause.block (.field 3 "year" {}) [.setting (.uri "x"), .block .key [.setting (.type (.primitive .string))]]).apply
        (.attr ⟨.array .object, {}⟩) ⟨["type \"Bottle\""], []⟩ =
      ⟨.attr ⟨.array .object, {}⟩,
        ⟨["type \"Bottle\""], [.located ["type \"Bottle\""] (.misplacedCall "field" "attribute")]⟩, none⟩ := by
  refine Clause.apply_misplaced rfl ?lacks ?intact _
  case lacks =>
    intro offers
    cases offers with
    | heldChild shape => cases shape
  case intact =>
    rw [← Clause.isSome_failure?_iff]
    decide

end ApiDesign
