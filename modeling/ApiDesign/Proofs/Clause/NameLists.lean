import ApiDesign.Clause.Basic
import ApiDesign.Proofs.Node
import ApiDesign.Proofs.Registry.NameLists

/-!
Contract: what clauses do besides adding names goes together with a change of name lists.

A setting that adds no names, a site and the putting in place of what a block opened can each be done before or after
every name list is changed. So a change of name lists can be pushed through the application of clauses up to the
clauses that add names.

Owns: `Node.mapNames`, what it goes together with.
Does not own: the clauses that add names (`Proofs.Clause.Mentions`).
-/

namespace ApiDesign

/-! ## Attributes -/

section Changing

variable (change : List String → List String)

theorem DataType.mapRequired_withElement (element : Attribute) (type : DataType) :
    (type.withElement element).mapRequired change =
      (type.mapRequired change).withElement (element.mapRequired change) := by
  cases type <;> simp [withElement]

theorem DataType.mapRequired_withKey (key : Attribute) (type : DataType) :
    (type.withKey key).mapRequired change = (type.mapRequired change).withKey (key.mapRequired change) := by
  cases type <;> simp [withKey]

theorem Attribute.mapRequired_pushField (shape : Attribute) (name : String) (child : Attribute) :
    (shape.pushField name child).mapRequired change =
      (shape.mapRequired change).pushField name (child.mapRequired change) := by
  obtain ⟨type, details⟩ := shape
  cases type <;> simp [pushField, pushField?]

theorem Signature.mapRequired_settle (signature : Signature) (shape : Attribute) :
    (signature.settle shape).mapRequired change = signature.settle (shape.mapRequired change) := by
  obtain ⟨type, details⟩ := shape
  obtain ⟨given, description⟩ := signature
  cases given with
  | some given => simp [settle]
  | none =>
      cases type with
      | object fields => cases fields <;> simp [settle]
      | _ => simp [settle]

end Changing

/-! ## Expressions -/

/-- What an expression of a kind holds, with every name list changed. -/
@[simp] def Kind.mapNames (change : List String → List String) : (kind : Kind) → kind.Content → kind.Content
  | .api, held => held.mapNames change
  | .server, held => held.mapNames change
  | .host, held => held.mapShapes (Attribute.mapRequired change)
  | .service, held => held.mapNames change
  | .method, held => held.mapShapes (Attribute.mapRequired change)
  | .userType, held => held.mapShape (Attribute.mapRequired change)
  | .resultType, held => held.mapNames change
  | .attr, held => held.mapRequired change
  | .view, held => held.mapNames change
  | .error, held => held.mapShape (Attribute.mapRequired change)
  | .sample, held => held
  | .docs, held => held
  | .contact, held => held
  | .license, held => held

namespace Node

variable (change : List String → List String)

/-- The expression with every name list changed. -/
def mapNames : Node → Node
  | .api held => .api (held.mapNames change)
  | .server held => .server (held.mapNames change)
  | .host held => .host (held.mapShapes (Attribute.mapRequired change))
  | .service held => .service (held.mapNames change)
  | .method held => .method (held.mapShapes (Attribute.mapRequired change))
  | .userType held => .userType (held.mapShape (Attribute.mapRequired change))
  | .resultType held => .resultType (held.mapNames change)
  | .attr shape => .attr (shape.mapRequired change)
  | .view held => .view (held.mapNames change)
  | .error held => .error (held.mapShape (Attribute.mapRequired change))
  | node => node

variable {change}

@[simp] theorem kind_mapNames (node : Node) : (node.mapNames change).kind = node.kind := by
  cases node <;> rfl

@[simp] theorem has_mapNames (facet : Facet) (node : Node) : (node.mapNames change).has facet = node.has facet := by
  rw [has, has, kind_mapNames]

theorem shape?_mapNames (node : Node) :
    (node.mapNames change).shape? = node.shape?.map (Attribute.mapRequired change) := by
  cases node <;> rfl

/-! ### Single changes

A change of one facet and a change of name lists may be made in either order. -/

theorem modifyShape?_mapNames {before after : Attribute → Attribute} (node : Node)
    (agree : ∀ shape, (before shape).mapRequired change = after (shape.mapRequired change)) :
    (node.mapNames change).modifyShape? after = (node.modifyShape? before).map (mapNames change) := by
  cases node <;> simp [modifyShape?, shape?, withShape, mapNames, UserType.mapShape, ResultType.mapNames,
    ResultType.mapShape, ErrorAnswer.mapShape, agree]

theorem modifyDetails?_mapNames {before after : Details → Details} (node : Node)
    (agree : ∀ details, (before details).mapRequired change = after (details.mapRequired change)) :
    (node.mapNames change).modifyDetails? after = (node.modifyDetails? before).map (mapNames change) :=
  modifyShape?_mapNames node fun shape => by
    cases shape
    simp [Attribute.modifyDetails, agree]

theorem describe?_mapNames (text : String) (node : Node) :
    (node.mapNames change).describe? text = (node.describe? text).map (mapNames change) := by
  cases node with
  | userType held => exact modifyDetails?_mapNames (.userType held) fun _ => rfl
  | resultType held => exact modifyDetails?_mapNames (.resultType held) fun _ => rfl
  | attr shape => exact modifyDetails?_mapNames (.attr shape) fun _ => rfl
  | error held => exact modifyDetails?_mapNames (.error held) fun _ => rfl
  | _ => rfl

theorem document?_mapNames (link : Docs) (node : Node) :
    (node.mapNames change).document? link = (node.document? link).map (mapNames change) := by
  cases node with
  | userType held => exact modifyDetails?_mapNames (.userType held) fun _ => rfl
  | resultType held => exact modifyDetails?_mapNames (.resultType held) fun _ => rfl
  | attr shape => exact modifyDetails?_mapNames (.attr shape) fun _ => rfl
  | _ => rfl

theorem annotate?_mapNames (name text : String) (node : Node) :
    (node.mapNames change).annotate? name text = (node.annotate? name text).map (mapNames change) := by
  cases node with
  | userType held => exact modifyDetails?_mapNames (.userType held) fun _ => rfl
  | resultType held => exact modifyDetails?_mapNames (.resultType held) fun _ => rfl
  | attr shape => exact modifyDetails?_mapNames (.attr shape) fun _ => rfl
  | error held => exact modifyDetails?_mapNames (.error held) fun _ => rfl
  | _ => rfl

theorem setContactText?_mapNames (text : String) (which : ContactText) (node : Node) :
    (node.mapNames change).setContactText? text which = (node.setContactText? text which).map (mapNames change) := by
  cases which <;> cases node <;> rfl

theorem mapNames_of (kind : Kind) (held : kind.Content) :
    (of kind held).mapNames change = of kind (kind.mapNames change held) := by
  cases kind <;> rfl

/-- For expressions of one kind it is enough that what they hold may be changed in either order. -/
theorem modify?_mapNames {kind : Kind} {before after : kind.Content → kind.Content} (node : Node)
    (agree : ∀ held, kind.mapNames change (before held) = after (kind.mapNames change held)) :
    (node.mapNames change).modify? kind after = (node.modify? kind before).map (mapNames change) := by
  by_cases ofKind : node.kind = kind
  · obtain ⟨held, rfl⟩ := exists_eq_of ofKind
    rw [mapNames_of, modify?_of, modify?_of, Option.map_some, mapNames_of, agree]
  · rw [modify?_eq_none ofKind, modify?_eq_none (mt (kind_mapNames node).symm.trans ofKind), Option.map_none]

theorem addServer?_mapNames (server : Server) (node : Node) :
    (node.mapNames change).addServer? (server.mapNames change) = (node.addServer? server).map (mapNames change) := by
  cases node <;> simp [addServer?, mapNames, Api.mapNames, Service.mapNames, Service.mapShapes]

theorem addError?_mapNames (error : ErrorAnswer) (node : Node) :
    (node.mapNames change).addError? (error.mapShape (Attribute.mapRequired change)) =
      (node.addError? error).map (mapNames change) := by
  cases node <;> simp [addError?, mapNames, Service.mapNames, Service.mapShapes, Method.mapShapes]

end Node

/-! ## Blocks -/

/-- The site with every name list of the expression in it changed. -/
def Site.mapNames (change : List String → List String) : Site → Site
  | .misplaced => .misplaced
  | .listed changed => .listed (changed.mapNames change)
  | .inside frame opened => .inside frame (opened.mapNames change)

/-- The outcome with every name list of the expression changed. -/
def Outcome.mapNames (change : List String → List String) (outcome : Outcome) : Outcome :=
  { outcome with node := outcome.node.mapNames change }

section Finishing

variable {change : List String → List String}

theorem Block.opening_mapNames (facet : Facet) (frame : String) {opened : Node} (node : Node)
    (fresh : opened.mapNames change = opened) :
    opening facet frame opened (node.mapNames change) = (opening facet frame opened node).mapNames change := by
  unfold opening
  rw [Node.has_mapNames]
  split
  · rw [Site.mapNames, fresh]
  · rfl

/-- What a block opened is put in place before or after name lists change. -/
theorem Block.finish?_mapNames (what : Block) (node opened : Node) :
    what.finish? (node.mapNames change) (opened.mapNames change) =
      (what.finish? node opened).map (Node.mapNames change) := by
  cases what with
  | attributes => rfl
  | sample _ =>
      cases opened with
      | sample held => exact node.modifyDetails?_mapNames fun _ => rfl
      | _ => rfl
  | docs =>
      cases opened with
      | docs held => exact node.document?_mapNames held
      | _ => rfl
  | contact =>
      cases opened with
      | contact held => exact node.modify?_mapNames fun _ => rfl
      | _ => rfl
  | license =>
      cases opened with
      | license held => exact node.modify?_mapNames fun _ => rfl
      | _ => rfl
  | server _ =>
      cases opened with
      | server held => exact node.addServer?_mapNames held
      | _ => rfl
  | host _ =>
      cases opened with
      | host held => exact node.modify?_mapNames fun _ => by simp [Server.mapNames, Server.mapShapes]
      | _ => rfl
  | method _ =>
      cases opened with
      | method held => exact node.modify?_mapNames fun _ => by simp [Service.mapNames, Service.mapShapes]
      | _ => rfl
  | element =>
      cases opened with
      | attr held =>
          refine node.modifyShape?_mapNames fun shape => ?_
          cases shape
          simp [DataType.mapRequired_withElement]
      | _ => rfl
  | key =>
      cases opened with
      | attr held =>
          refine node.modifyShape?_mapNames fun shape => ?_
          cases shape
          simp [DataType.mapRequired_withKey]
      | _ => rfl
  | view _ =>
      cases opened with
      | view held => exact node.modify?_mapNames fun _ => by simp [ResultType.mapNames, ResultType.mapShape]
      | _ => rfl
  | attr name signature =>
      cases opened with
      | attr held =>
          refine node.modifyShape?_mapNames fun shape => ?_
          rw [Attribute.mapRequired_pushField, Signature.mapRequired_settle]
      | _ => rfl
  | field tag name signature =>
      cases opened with
      | attr held =>
          refine node.modifyShape?_mapNames fun shape => ?_
          rw [Attribute.mapRequired_pushField, ← Signature.mapRequired_settle]
          generalize signature.settle held = settled
          obtain ⟨type, details⟩ := settled
          simp [Attribute.modifyDetails, Details.mapRequired]
      | _ => rfl
  | hostVariable name signature =>
      cases opened with
      | attr held =>
          refine node.modify?_mapNames fun host => ?_
          simp [Host.mapShapes, Attribute.mapRequired_pushField, Signature.mapRequired_settle]
      | _ => rfl
  | payload signature =>
      cases opened with
      | attr held =>
          exact node.modify?_mapNames fun _ => by simp [Method.mapShapes, Signature.mapRequired_settle]
      | _ => rfl
  | result signature =>
      cases opened with
      | attr held =>
          exact node.modify?_mapNames fun _ => by simp [Method.mapShapes, Signature.mapRequired_settle]
      | _ => rfl
  | error name signature =>
      cases opened with
      | error held => exact node.addError?_mapNames held
      | _ => rfl

theorem Block.finish_mapNames (what : Block) (node opened : Node) :
    what.finish (node.mapNames change) (opened.mapNames change) = (what.finish node opened).mapNames change := by
  rw [finish, finish, finish?_mapNames]
  cases what.finish? node opened <;> rfl

theorem Clause.skipping_mapNames (clauses : List Clause) (node : Node) (reporter : Reporter) (skipped : Outcome) :
    skipping clauses (node.mapNames change) reporter (skipped.mapNames change) =
      (skipping clauses node reporter skipped).mapNames change := by
  unfold skipping
  cases firstFailure? clauses <;> rfl

theorem Clause.closing_mapNames (what : Block) (node : Node) (frame : Option String) (inner : Outcome) :
    closing what (node.mapNames change) frame (inner.mapNames change) =
      (closing what node frame inner).mapNames change := by
  obtain ⟨opened, reporter, failure⟩ := inner
  cases failure with
  | none => simp only [closing, Outcome.mapNames, Block.finish_mapNames]
  | some diagnostic =>
      simp only [closing, Outcome.mapNames, Block.finish_mapNames]
      split <;> rfl

end Finishing

end ApiDesign
