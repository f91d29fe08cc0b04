import ApiDesign.Node

/-!
Contract: clauses that set one thing and hold no clauses themselves.

Each setting has the name it is called by and one effect on an expression. It has none, and is misplaced, on an
expression without the facet it sets.
-/

namespace ApiDesign

/-- The texts that only the API has. -/
inductive ApiText where
  | title | version | termsOfService
deriving DecidableEq, Repr

inductive Rule where
  | minLength (length : Nat)
  | maxLength (length : Nat)
  | minimum (bound : Binary64)
  | maximum (bound : Binary64)
  | pattern (expression : String)
  | values (values : List Value)
  | format (format : Format)
deriving Repr

inductive Setting where
  | description (text : String)
  | url (url : String)
  | name (name : String)
  | email (email : String)
  | metadata (name text : String)
  | apiText (which : ApiText) (text : String)
  | required (names : List String)
  | defaultValue (value : Value)
  | type (type : DataType)
  | sample (value : Value)
  | sampleValue (value : Value)
  | rule (rule : Rule)
  | services (names : List String)
  | uri (template : String)
  | qualifier (qualifier : Qualifier)
deriving Repr

namespace ApiText

def call : ApiText → String
  | .title => "title"
  | .version => "version"
  | .termsOfService => "terms_of_service"

def set (text : String) (api : Api) : ApiText → Api
  | .title => { api with title := some text }
  | .version => { api with version := some text }
  | .termsOfService => { api with termsOfService := some text }

end ApiText

namespace Rule

def call : Rule → String
  | .minLength _ => "min_length"
  | .maxLength _ => "max_length"
  | .minimum _ => "minimum"
  | .maximum _ => "maximum"
  | .pattern _ => "pattern"
  | .values _ => "enum_values"
  | .format _ => "format"

/-- Sets the rule; an earlier one of its sort gives way. -/
def set (validation : Validation) : Rule → Validation
  | .minLength length => { validation with minLength := some length }
  | .maxLength length => { validation with maxLength := some length }
  | .minimum bound => { validation with minimum := some bound }
  | .maximum bound => { validation with maximum := some bound }
  | .pattern expression => { validation with pattern := some expression }
  | .values allowed => { validation with values := allowed }
  | .format name => { validation with format := some name }

end Rule

namespace Setting

def call : Setting → String
  | .description _ => "description"
  | .url _ => "url"
  | .name _ => "name"
  | .email _ => "email"
  | .metadata .. => "meta"
  | .apiText which _ => which.call
  | .required _ => "required"
  | .defaultValue _ => "default"
  | .type _ => "ty"
  | .sample _ => "example"
  | .sampleValue _ => "value"
  | .rule limit => limit.call
  | .services _ => "services"
  | .uri _ => "uri"
  | .qualifier .temporary => "temporary"
  | .qualifier .timeout => "timeout"
  | .qualifier .fault => "fault"

/-- The facet that the setting sets. -/
def facet : Setting → Facet
  | .description _ => .description
  | .url _ => .url
  | .name _ => .name
  | .email _ => .email
  | .metadata .. => .metadata
  | .apiText .. => .api
  | .required _ => .shape
  | .defaultValue _ => .shape
  | .type _ => .shape
  | .sample _ => .shape
  | .sampleValue _ => .sample
  | .rule _ => .shape
  | .services _ => .server
  | .uri _ => .host
  | .qualifier _ => .metadata

/-- The expression with the thing set, unless it lacks the facet. A qualifier belongs to errors alone. -/
def set? (node : Node) : Setting → Option Node
  | .description text => node.describe? text
  | .url address => node.setContactText? address .url
  | .name given => node.setContactText? given .name
  | .email address => node.setContactText? address .email
  | .metadata key text => node.annotate? key text
  | .apiText which text => node.modify? .api fun api => which.set text api
  | .required names =>
      node.modifyDetails? fun details => { details with validation := details.validation.addRequired names }
  | .defaultValue value => node.modifyDetails? fun details => { details with defaultValue := some value }
  | .type given => node.modifyShape? fun shape => ⟨given, shape.details⟩
  | .sample value =>
      node.modifyDetails? fun details =>
        { details with samples := details.samples ++ [{ Sample.titled "" with value := some value }] }
  | .sampleValue value => node.modify? .sample fun sample => { sample with value := some value }
  | .rule limit => node.modifyDetails? fun details => { details with validation := limit.set details.validation }
  | .services names => node.modify? .server fun server => { server with services := addNames names server.services }
  | .uri template => node.modify? .host fun host => { host with uris := host.uris ++ [template] }
  | .qualifier which =>
      if node.kind = .error then node.annotate? which.mark "true" else none

end Setting

end ApiDesign
