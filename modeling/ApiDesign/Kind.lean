import ApiDesign.Text.Quoted

/-!
Contract: the kinds of expressions in a design, and the frames that name them.

A frame is the text by which a diagnostic names one expression: the keyword of its kind and its name, quoted. The
parts without a name of their own (payload, result, element, key) have their bare word as frame.
-/

namespace ApiDesign

inductive Kind where
  | api | server | host | service | method | userType | resultType | attr | view | error | sample | docs | contact
  | license
deriving DecidableEq, Repr

namespace Kind

def all : List Kind :=
  [.api, .server, .host, .service, .method, .userType, .resultType, .attr, .view, .error, .sample, .docs, .contact,
   .license]

def keyword : Kind → String
  | .api => "api"
  | .server => "server"
  | .host => "host"
  | .service => "service"
  | .method => "method"
  | .userType => "type"
  | .resultType => "result type"
  | .attr => "attribute"
  | .view => "view"
  | .error => "error"
  | .sample => "example"
  | .docs => "docs"
  | .contact => "contact"
  | .license => "license"

/-- The frame of the expression of this kind and name. -/
def frame (kind : Kind) (name : String) : String :=
  kind.keyword ++ " " ++ Text.quote name

end Kind

namespace Frame

/-- The frame of the elements of an array and of the values of a map. -/
def element : String := "elem"

def key : String := "key"

def payload : String := "payload"

def result : String := "result"

end Frame

end ApiDesign
