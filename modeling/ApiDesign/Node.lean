import ApiDesign.Kind
import ApiDesign.ResultType.Basic
import ApiDesign.Service

/-!
Contract: one expression of a design, of any kind, and what it can hold.

A builder call changes one facet of the expression it is applied to: its description, its shape, its views and so on.
`Kind.facets` tells which facets a kind has. Each change below answers nothing exactly when the kind lacks the facet
that it changes. A facet that one kind alone has is changed by `Node.modify?`, the same for every kind.
-/

namespace ApiDesign

inductive Node where
  | api (api : Api)
  | server (server : Server)
  | host (host : Host)
  | service (service : Service)
  | method (method : Method)
  | userType (userType : UserType)
  | resultType (resultType : ResultType)
  | attr (shape : Attribute)
  | view (view : View)
  | error (error : ErrorAnswer)
  | sample (sample : Sample)
  | docs (docs : Docs)
  | contact (contact : Contact)
  | license (license : License)
deriving Repr

/-- What an expression of a kind holds. -/
@[reducible] def Kind.Content : Kind → Type
  | .api => Api
  | .server => Server
  | .host => Host
  | .service => Service
  | .method => Method
  | .userType => UserType
  | .resultType => ResultType
  | .attr => Attribute
  | .view => View
  | .error => ErrorAnswer
  | .sample => Sample
  | .docs => Docs
  | .contact => Contact
  | .license => License

/-- What an expression may hold. -/
inductive Facet where
  | description | docs | url | name | email | metadata | shape | view | views | api | servers | server | host
  | service | errors | method | sample
deriving DecidableEq, Repr

def Facet.all : List Facet :=
  [.description, .docs, .url, .name, .email, .metadata, .shape, .view, .views, .api, .servers, .server, .host,
   .service, .errors, .method, .sample]

def Kind.facets : Kind → List Facet
  | .api => [.description, .docs, .metadata, .api, .servers]
  | .server => [.description, .server]
  | .host => [.description, .host]
  | .service => [.description, .docs, .metadata, .servers, .service, .errors]
  | .method => [.description, .docs, .metadata, .errors, .method]
  | .userType => [.description, .docs, .metadata, .shape]
  | .resultType => [.description, .docs, .metadata, .shape, .views]
  | .attr => [.description, .docs, .metadata, .shape]
  | .view => [.description, .view]
  | .error => [.description, .metadata, .shape]
  | .sample => [.description, .sample]
  | .docs => [.description, .url]
  | .contact => [.url, .name, .email]
  | .license => [.url, .name]

namespace Node

def kind : Node → Kind
  | .api _ => .api
  | .server _ => .server
  | .host _ => .host
  | .service _ => .service
  | .method _ => .method
  | .userType _ => .userType
  | .resultType _ => .resultType
  | .attr _ => .attr
  | .view _ => .view
  | .error _ => .error
  | .sample _ => .sample
  | .docs _ => .docs
  | .contact _ => .contact
  | .license _ => .license

/-- The expression of a kind that holds something. -/
def of : (kind : Kind) → kind.Content → Node
  | .api, held => .api held
  | .server, held => .server held
  | .host, held => .host held
  | .service, held => .service held
  | .method, held => .method held
  | .userType, held => .userType held
  | .resultType, held => .resultType held
  | .attr, held => .attr held
  | .view, held => .view held
  | .error, held => .error held
  | .sample, held => .sample held
  | .docs, held => .docs held
  | .contact, held => .contact held
  | .license, held => .license held

/-- What an expression holds, if it is of the kind. -/
def content? : (kind : Kind) → Node → Option kind.Content
  | .api, .api held => some held
  | .server, .server held => some held
  | .host, .host held => some held
  | .service, .service held => some held
  | .method, .method held => some held
  | .userType, .userType held => some held
  | .resultType, .resultType held => some held
  | .attr, .attr held => some held
  | .view, .view held => some held
  | .error, .error held => some held
  | .sample, .sample held => some held
  | .docs, .docs held => some held
  | .contact, .contact held => some held
  | .license, .license held => some held
  | _, _ => none

def has (facet : Facet) (node : Node) : Bool := node.kind.facets.contains facet

/-- The facets of an expression, in the order of `Facet.all`. -/
def facets (node : Node) : List Facet := Facet.all.filter fun facet => node.has facet

/-! ## The shape -/

def shape? : Node → Option Attribute
  | .attr held => some held
  | .userType held => some held.shape
  | .resultType held => some held.shape
  | .error held => some held.shape
  | _ => none

/-- The expression with another shape; one that has no shape stays as it is. -/
def withShape (shape : Attribute) : Node → Node
  | .attr _ => .attr shape
  | .userType held => .userType { held with shape := shape }
  | .resultType held => .resultType { held with shape := shape }
  | .error held => .error { held with shape := shape }
  | node => node

def modifyShape? (change : Attribute → Attribute) (node : Node) : Option Node :=
  node.shape?.map fun shape => node.withShape (change shape)

def modifyDetails? (change : Details → Details) (node : Node) : Option Node :=
  node.modifyShape? (Attribute.modifyDetails change)

/-! ## Texts -/

def describe? (text : String) : Node → Option Node
  | .api held => some (.api { held with description := some text })
  | .server held => some (.server { held with description := some text })
  | .host held => some (.host { held with description := some text })
  | .service held => some (.service { held with description := some text })
  | .method held => some (.method { held with description := some text })
  | .view held => some (.view { held with description := some text })
  | .sample held => some (.sample { held with description := some text })
  | .docs held => some (.docs { held with description := some text })
  | .contact _ => none
  | .license _ => none
  | node => node.modifyDetails? fun details => { details with description := some text }

def document? (link : Docs) : Node → Option Node
  | .api held => some (.api { held with docs := some link })
  | .service held => some (.service { held with docs := some link })
  | .method held => some (.method { held with docs := some link })
  | .error _ => none
  | node => node.modifyDetails? fun details => { details with docs := some link }

/-- The texts of a contact, some of which documentation and licenses have too. -/
inductive ContactText where
  | url | name | email
deriving DecidableEq, Repr

def setContactText? (text : String) : ContactText → Node → Option Node
  | .url, .docs held => some (.docs { held with url := some text })
  | .url, .contact held => some (.contact { held with url := some text })
  | .url, .license held => some (.license { held with url := some text })
  | .name, .contact held => some (.contact { held with name := some text })
  | .name, .license held => some (.license { held with name := some text })
  | .email, .contact held => some (.contact { held with email := some text })
  | _, _ => none

/-- Sets one text of the metadata. -/
def annotate? (name text : String) : Node → Option Node
  | .api held => some (.api { held with metadata := held.metadata.insert name text })
  | .service held => some (.service { held with metadata := held.metadata.insert name text })
  | .method held => some (.method { held with metadata := held.metadata.insert name text })
  | node => node.modifyDetails? fun details => { details with metadata := details.metadata.insert name text }

/-! ## Parts -/

/-- The expression with what it holds changed, if it is of the kind. -/
def modify? (kind : Kind) (change : kind.Content → kind.Content) (node : Node) : Option Node :=
  (node.content? kind).map fun held => of kind (change held)

def addServer? (server : Server) : Node → Option Node
  | .api held => some (.api { held with servers := held.servers ++ [server] })
  | .service held => some (.service { held with servers := held.servers ++ [server] })
  | _ => none

def addError? (error : ErrorAnswer) : Node → Option Node
  | .service held => some (.service { held with errors := held.errors ++ [error] })
  | .method held => some (.method { held with errors := held.errors ++ [error] })
  | _ => none

end Node

end ApiDesign
