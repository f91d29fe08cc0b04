import ApiDesign.Proofs.Clause.Application
import ApiDesign.Proofs.Node

/-!
Contract: what clauses never change.

Clauses leave an expression its kind, its names and, if it is a collection, its element. They add errors, but never an
inherited one: inheritance comes later, in evaluation.

Owns: `Node.identity`, `Node.HasOwnErrors`, and that clauses respect both.
-/

namespace ApiDesign

/-! ## Definitions -/

/-- The errors of a method are its own. -/
def Method.HasOwnErrors (method : Method) : Prop := ∀ error ∈ method.errors, error.inherited = false

/-- The errors of a service and of its methods are their own. -/
structure Service.HasOwnErrors (service : Service) : Prop where
  errors : ∀ error ∈ service.errors, error.inherited = false
  methods : ∀ method ∈ service.methods, method.HasOwnErrors

namespace Node

/-- The expression without anything that clauses can change. -/
def identity : Node → Node
  | .api held => .api { name := held.name }
  | .server held => .server { name := held.name }
  | .host held => .host { name := held.name }
  | .service held => .service { name := held.name }
  | .method held => .method { name := held.name, service := held.service }
  | .userType held => .userType ⟨held.name, Attribute.object⟩
  | .resultType held =>
      .resultType { identifier := held.identifier, typeName := held.typeName, collection := held.collection }
  | .attr _ => .attr Attribute.object
  | .view held => .view { name := held.name }
  | .error held => .error ⟨held.name, Attribute.object, held.inherited⟩
  | .sample held => .sample { summary := held.summary }
  | .docs _ => .docs {}
  | .contact _ => .contact {}
  | .license _ => .license {}

/-- No error in an expression is inherited. -/
def HasOwnErrors : Node → Prop
  | .service held => held.HasOwnErrors
  | .method held => held.HasOwnErrors
  | .error held => held.inherited = false
  | _ => True

/-- What clauses make of an expression: the same expression in other words, without inherited errors. -/
structure Becomes (node changed : Node) : Prop where
  identity : changed.identity = node.identity
  ownErrors : node.HasOwnErrors → changed.HasOwnErrors

theorem Becomes.refl (node : Node) : node.Becomes node := ⟨rfl, id⟩

theorem Becomes.trans {first second third : Node} (toSecond : first.Becomes second)
    (toThird : second.Becomes third) : first.Becomes third :=
  ⟨toThird.identity.trans toSecond.identity, fun own => toThird.ownErrors (toSecond.ownErrors own)⟩

/-! ## Single changes -/

section Changes

variable {node changed : Node}

theorem becomes_modifyShape? {change : Attribute → Attribute} (changes : node.modifyShape? change = some changed) :
    node.Becomes changed := by
  cases node <;> simp [modifyShape?, shape?, withShape] at changes <;> subst changes <;> exact ⟨rfl, id⟩

theorem becomes_modifyDetails? {change : Details → Details} (changes : node.modifyDetails? change = some changed) :
    node.Becomes changed :=
  becomes_modifyShape? changes

theorem becomes_describe? {text : String} (changes : node.describe? text = some changed) :
    node.Becomes changed := by
  cases node with
  | userType held => exact becomes_modifyDetails? changes
  | resultType held => exact becomes_modifyDetails? changes
  | attr held => exact becomes_modifyDetails? changes
  | error held => exact becomes_modifyDetails? changes
  | contact held => cases changes
  | license held => cases changes
  | service held =>
      cases changes
      exact ⟨rfl, fun own => ⟨own.errors, own.methods⟩⟩
  | _ =>
      cases changes
      exact ⟨rfl, id⟩

theorem becomes_document? {link : Docs} (changes : node.document? link = some changed) : node.Becomes changed := by
  cases node with
  | api held =>
      cases changes
      exact ⟨rfl, id⟩
  | service held =>
      cases changes
      exact ⟨rfl, fun own => ⟨own.errors, own.methods⟩⟩
  | method held =>
      cases changes
      exact ⟨rfl, id⟩
  | error held => cases changes
  | _ => exact becomes_modifyDetails? changes

theorem becomes_annotate? {name text : String} (changes : node.annotate? name text = some changed) :
    node.Becomes changed := by
  cases node with
  | api held =>
      cases changes
      exact ⟨rfl, id⟩
  | service held =>
      cases changes
      exact ⟨rfl, fun own => ⟨own.errors, own.methods⟩⟩
  | method held =>
      cases changes
      exact ⟨rfl, id⟩
  | _ => exact becomes_modifyDetails? changes

theorem becomes_setContactText? {which : ContactText} {text : String}
    (changes : node.setContactText? text which = some changed) : node.Becomes changed := by
  cases which <;> cases node <;> cases changes <;> exact ⟨rfl, id⟩

/-- Expressions of one kind may be changed in whatever keeps each of them what it is. -/
theorem becomes_modify? {kind : Kind} {change : kind.Content → kind.Content}
    (changes : node.modify? kind change = some changed)
    (keeps : ∀ held, (of kind held).Becomes (of kind (change held))) : node.Becomes changed := by
  obtain ⟨held, rfl, rfl⟩ := modify?_eq_some_iff.mp changes
  exact keeps held

theorem becomes_addServer? {server : Server} (changes : node.addServer? server = some changed) :
    node.Becomes changed := by
  cases node <;> cases changes
  case api held => exact ⟨rfl, id⟩
  case service held => exact ⟨rfl, fun own => ⟨own.errors, own.methods⟩⟩

theorem becomes_addError? {error : ErrorAnswer} (own : error.inherited = false)
    (changes : node.addError? error = some changed) : node.Becomes changed := by
  cases node <;> cases changes
  case service held =>
    refine ⟨rfl, fun before => ⟨?_, before.methods⟩⟩
    exact List.forall_mem_append.mpr ⟨before.errors, List.forall_mem_singleton.mpr own⟩
  case method held =>
    refine ⟨rfl, fun before => ?_⟩
    exact List.forall_mem_append.mpr ⟨before, List.forall_mem_singleton.mpr own⟩

/-- A service may get a method whose errors are its own. -/
theorem becomes_addMethod {service : Service} {method : Method} (own : method.HasOwnErrors) :
    (Node.service service).Becomes (.service { service with methods := service.methods ++ [method] }) := by
  refine ⟨rfl, fun before => ⟨before.errors, ?_⟩⟩
  exact List.forall_mem_append.mpr ⟨before.methods, List.forall_mem_singleton.mpr own⟩

end Changes

end Node

/-! ## Clauses -/

theorem Setting.becomes_of_set? {setting : Setting} {node changed : Node} (changes : setting.set? node = some changed) :
    node.Becomes changed := by
  cases setting with
  | description text => exact Node.becomes_describe? changes
  | url address => exact Node.becomes_setContactText? changes
  | name given => exact Node.becomes_setContactText? changes
  | email address => exact Node.becomes_setContactText? changes
  | metadata key text => exact Node.becomes_annotate? changes
  | apiText which text => exact Node.becomes_modify? changes fun _ => by cases which <;> exact ⟨rfl, id⟩
  | required names => exact Node.becomes_modifyDetails? changes
  | defaultValue value => exact Node.becomes_modifyDetails? changes
  | type given => exact Node.becomes_modifyShape? changes
  | sample value => exact Node.becomes_modifyDetails? changes
  | sampleValue value => exact Node.becomes_modify? changes fun _ => ⟨rfl, id⟩
  | rule limit => exact Node.becomes_modifyDetails? changes
  | services names => exact Node.becomes_modify? changes fun _ => ⟨rfl, id⟩
  | uri template => exact Node.becomes_modify? changes fun _ => ⟨rfl, id⟩
  | qualifier which =>
      simp only [Setting.set?] at changes
      split at changes
      · exact Node.becomes_annotate? changes
      · exact absurd changes (by simp)

/-- Only a view is listed in, and it keeps its name. -/
theorem Block.becomes_of_listed {block : Block} {node changed : Node} (lists : block.site node = .listed changed) :
    node.Becomes changed := by
  have fromChild : ∀ {name : String} {signature : Signature},
      Block.childSite name signature node = .listed changed → node.Becomes changed := by
    intro name signature child
    unfold Block.childSite at child
    split at child
    · cases child
      exact ⟨rfl, id⟩
    · split at child <;> cases child
  cases block with
  | attr name signature => exact fromChild lists
  | field tag name signature => exact fromChild lists
  | attributes =>
      simp only [Block.site] at lists
      split at lists <;> cases lists
  | method name =>
      simp only [Block.site] at lists
      split at lists <;> cases lists
  | element =>
      simp only [Block.site] at lists
      split at lists <;> cases lists
  | key =>
      simp only [Block.site] at lists
      split at lists <;> cases lists
  | _ =>
      simp only [Block.site, Block.opening] at lists
      split at lists <;> cases lists

theorem Block.becomes_of_finish? {block : Block} {node opened closed changed : Node} {frame : Option String}
    (opens : block.site node = .inside frame opened) (inner : opened.Becomes closed)
    (finishes : block.finish? node closed = some changed) : node.Becomes changed := by
  cases block with
  | attributes =>
      simp only [Block.site] at opens
      split at opens
      · cases opens
        cases finishes
        exact inner
      · cases opens
  | error name signature =>
      simp only [Block.site, Block.opening] at opens
      split at opens
      · cases opens
        have own : closed.HasOwnErrors := inner.ownErrors rfl
        cases closed <;> simp only [Block.finish?, reduceCtorEq] at finishes
        exact Node.becomes_addError? own finishes
      · cases opens
  | method name =>
      simp only [Block.site] at opens
      split at opens
      · cases opens
        have own : closed.HasOwnErrors := inner.ownErrors (by simp [Node.HasOwnErrors, Method.HasOwnErrors])
        cases closed <;> simp only [Block.finish?, reduceCtorEq] at finishes
        exact Node.becomes_modify? finishes fun _ => Node.becomes_addMethod own
      · cases opens
  | sample summary =>
      cases closed <;> simp only [Block.finish?, reduceCtorEq] at finishes
      exact Node.becomes_modifyDetails? finishes
  | docs =>
      cases closed <;> simp only [Block.finish?, reduceCtorEq] at finishes
      exact Node.becomes_document? finishes
  | contact =>
      cases closed <;> simp only [Block.finish?, reduceCtorEq] at finishes
      exact Node.becomes_modify? finishes fun _ => ⟨rfl, id⟩
  | license =>
      cases closed <;> simp only [Block.finish?, reduceCtorEq] at finishes
      exact Node.becomes_modify? finishes fun _ => ⟨rfl, id⟩
  | server name =>
      cases closed <;> simp only [Block.finish?, reduceCtorEq] at finishes
      exact Node.becomes_addServer? finishes
  | host name =>
      cases closed <;> simp only [Block.finish?, reduceCtorEq] at finishes
      exact Node.becomes_modify? finishes fun _ => ⟨rfl, id⟩
  | view name =>
      cases closed <;> simp only [Block.finish?, reduceCtorEq] at finishes
      exact Node.becomes_modify? finishes fun _ => ⟨rfl, id⟩
  | hostVariable name signature =>
      cases closed <;> simp only [Block.finish?, reduceCtorEq] at finishes
      exact Node.becomes_modify? finishes fun _ => ⟨rfl, id⟩
  | payload signature =>
      cases closed <;> simp only [Block.finish?, reduceCtorEq] at finishes
      exact Node.becomes_modify? finishes fun _ => ⟨rfl, id⟩
  | result signature =>
      cases closed <;> simp only [Block.finish?, reduceCtorEq] at finishes
      exact Node.becomes_modify? finishes fun _ => ⟨rfl, id⟩
  | _ =>
      cases closed <;> simp only [Block.finish?, reduceCtorEq] at finishes
      exact Node.becomes_modifyShape? finishes

/-- Clauses leave an expression its identity and bring in no inherited error. -/
theorem Clause.respects_becomes : Clause.Respects Node.Becomes where
  refl := Node.Becomes.refl
  trans := Node.Becomes.trans
  set := Setting.becomes_of_set?
  listed := Block.becomes_of_listed
  finish := by
    intro block node frame opened closed opens inner
    unfold Block.finish
    cases finishes : block.finish? node closed with
    | none => exact Node.Becomes.refl node
    | some changed => exact Block.becomes_of_finish? opens inner finishes

theorem Clause.becomes_applyAll (clauses : List Clause) (node : Node) (reporter : Reporter) :
    node.Becomes (Clause.applyAll clauses node reporter).node :=
  Clause.applyAll_related Clause.respects_becomes clauses node reporter

end ApiDesign
