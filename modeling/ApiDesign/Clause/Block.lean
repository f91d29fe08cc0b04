import ApiDesign.Clause.Setting

/-!
Contract: clauses that hold clauses, without these.

A block opens an expression inside the one it is applied to, and its clauses are applied to what it opened. `site`
tells what it opens and under which frame; `finish` puts the opened expression, once its clauses are applied, where it
belongs. In a view an attribute is only listed: nothing is opened.
-/

namespace ApiDesign

/-- The type and the description that an attribute is declared with. -/
structure Signature where
  type : Option DataType := none
  description : Option String := none
deriving Repr

namespace Signature

/-- The attribute a signature begins: without a type, an inline object. -/
def shape (signature : Signature) : Attribute :=
  ⟨signature.type.getD .emptyObject, { description := signature.description }⟩

/-- The attribute at the end of its clauses. An attribute declared without a type to which no field was added and no
type was given is a text. -/
def settle (signature : Signature) (shape : Attribute) : Attribute :=
  match signature.type, shape.type with
  | none, .object [] => ⟨.primitive .string, shape.details⟩
  | _, _ => shape

end Signature

/-- A clause that holds clauses. -/
inductive Block where
  | attributes
  | sample (summary : String)
  | docs
  | contact
  | license
  | server (name : String)
  | host (name : String)
  | method (name : String)
  | element
  | key
  | view (name : String)
  | attr (name : String) (signature : Signature)
  | field (tag : Nat) (name : String) (signature : Signature)
  | hostVariable (name : String) (signature : Signature)
  | payload (signature : Signature)
  | result (signature : Signature)
  | error (name : String) (signature : Signature)
deriving Repr

/-- Where the clauses of a block go. -/
inductive Site where
  /-- Nowhere: the expression has no place for the block. -/
  | misplaced
  /-- Nowhere: the block only changed the expression by its name. -/
  | listed (changed : Node)
  /-- Into an expression, inside a frame unless it is the expression itself. -/
  | inside (frame : Option String) (opened : Node)
deriving Repr

namespace Block

def call : Block → String
  | .attributes => "attributes"
  | .sample _ => "example"
  | .docs => "docs"
  | .contact => "contact"
  | .license => "license"
  | .server _ => "server"
  | .host _ => "host"
  | .method _ => "method"
  | .element => "elem"
  | .key => "key"
  | .view _ => "view"
  | .attr .. => "attribute"
  | .field .. => "field"
  | .hostVariable .. => "variable"
  | .payload _ => "payload"
  | .result _ => "result"
  | .error .. => "error"

/-- The name of the metadata entry for the tag of a field. -/
def tagName : String := "rpc:tag"

/-- What a block opens if the expression has a facet. -/
def opening (facet : Facet) (frame : String) (opened node : Node) : Site :=
  if node.has facet then .inside (some frame) opened else .misplaced

/-- What declaring a child opens: a view lists it, an inline object opens it. -/
def childSite (name : String) (signature : Signature) : Node → Site
  | .view held => .listed (.view (held.select name))
  | node =>
      match node.shape? with
      | some ⟨.object _, _⟩ => .inside (some (Kind.attr.frame name)) (.attr signature.shape)
      | _ => .misplaced

/-- What a block opens in an expression. -/
def site (node : Node) : Block → Site
  | .attributes => if node.has .shape || node.has .view then .inside none node else .misplaced
  | .sample summary =>
      opening .shape (Kind.sample.frame (Sample.titled summary).summary) (.sample (Sample.titled summary)) node
  | .docs => opening .docs Kind.docs.keyword (.docs {}) node
  | .contact => opening .api Kind.contact.keyword (.contact {}) node
  | .license => opening .api Kind.license.keyword (.license {}) node
  | .server name => opening .servers (Kind.server.frame name) (.server { name := name }) node
  | .host name => opening .server (Kind.host.frame name) (.host { name := name }) node
  | .method name =>
      match node with
      | .service service =>
          .inside (some (Kind.method.frame name)) (.method { name := name, service := service.name })
      | _ => .misplaced
  | .element =>
      match node.shape?.bind (fun shape => shape.type.element?) with
      | some part => .inside (some Frame.element) (.attr part)
      | none => .misplaced
  | .key =>
      match node.shape?.bind (fun shape => shape.type.key?) with
      | some part => .inside (some Frame.key) (.attr part)
      | none => .misplaced
  | .view name => opening .views (Kind.view.frame name) (.view { name := name }) node
  | .attr name signature => childSite name signature node
  | .field _ name signature => childSite name signature node
  | .hostVariable name signature => opening .host (Kind.attr.frame name) (.attr signature.shape) node
  | .payload signature => opening .method Frame.payload (.attr signature.shape) node
  | .result signature => opening .method Frame.result (.attr signature.shape) node
  | .error name signature =>
      opening .errors (Kind.error.frame name)
        (.error ⟨name, ⟨signature.type.getD (.reference errorResultName), { description := signature.description }⟩,
          false⟩) node

/-- Puts what a block opened where it belongs, if it is of the kind that the block opens. -/
def finish? (node : Node) : Block → Node → Option Node
  | .attributes, opened => some opened
  | .sample _, .sample opened =>
      node.modifyDetails? fun details => { details with samples := details.samples ++ [opened] }
  | .docs, .docs opened => node.document? opened
  | .contact, .contact opened => node.modify? .api fun api => { api with contact := some opened }
  | .license, .license opened => node.modify? .api fun api => { api with license := some opened }
  | .server _, .server opened => node.addServer? opened
  | .host _, .host opened => node.modify? .server fun server => { server with hosts := server.hosts ++ [opened] }
  | .method _, .method opened =>
      node.modify? .service fun service => { service with methods := service.methods ++ [opened] }
  | .element, .attr opened => node.modifyShape? fun shape => ⟨shape.type.withElement opened, shape.details⟩
  | .key, .attr opened => node.modifyShape? fun shape => ⟨shape.type.withKey opened, shape.details⟩
  | .view _, .view opened =>
      node.modify? .resultType fun resultType => { resultType with views := resultType.views ++ [opened] }
  | .attr name signature, .attr opened =>
      node.modifyShape? fun shape => shape.pushField name (signature.settle opened)
  | .field tag name signature, .attr opened =>
      node.modifyShape? fun shape => shape.pushField name
        ((signature.settle opened).modifyDetails fun details =>
          { details with metadata := details.metadata.insert tagName (toString tag) })
  | .hostVariable name signature, .attr opened =>
      node.modify? .host fun host =>
        { host with uriVariables := host.uriVariables.pushField name (signature.settle opened) }
  | .payload signature, .attr opened =>
      node.modify? .method fun method => { method with payload := some (signature.settle opened) }
  | .result signature, .attr opened =>
      node.modify? .method fun method => { method with result := some (signature.settle opened) }
  | .error .., .error opened => node.addError? opened
  | _, _ => none

/-- Puts what a block opened where it belongs. -/
def finish (block : Block) (node opened : Node) : Node :=
  (block.finish? node opened).getD node

/-- Whether the block opens something that is there already, so that what is done to it stays done even if a later
clause of the block fails. -/
def opensInPlace : Block → Bool
  | .attributes => true
  | .element => true
  | .key => true
  | _ => false

end Block

end ApiDesign
