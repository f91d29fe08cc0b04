import ApiDesign.Schema.Attribute

/-!
Contract: the API of a design, its servers and their hosts.

A host is reached by URI templates. A placeholder is a name between braces; each host has an object of variables for
them. `uriParameters` lists the placeholders of all templates of a host.

Owns: the API expression and what is only ever part of it or of a service's servers.
-/

namespace ApiDesign

/-- Whom to ask about the API. -/
structure Contact where
  name : Option String := none
  email : Option String := none
  url : Option String := none
deriving DecidableEq, Repr

/-- The terms under which the API may be used. -/
structure License where
  name : Option String := none
  url : Option String := none
deriving DecidableEq, Repr

/-- A host of a server, with its URI templates and an object of variables. -/
structure Host where
  name : String
  description : Option String := none
  uris : List String := []
  uriVariables : Attribute := Attribute.object
deriving Repr

/-- A server with the services it offers and its hosts. -/
structure Server where
  name : String
  description : Option String := none
  services : List String := []
  hosts : List Host := []
deriving Repr

structure Api where
  name : String
  title : Option String := none
  description : Option String := none
  version : Option String := none
  termsOfService : Option String := none
  contact : Option Contact := none
  license : Option License := none
  docs : Option Docs := none
  servers : List Server := []
  metadata : Metadata := {}
deriving Repr

/-! ## URI templates -/

namespace UriTemplate

/-- The placeholders of a template from left to right. `opened` holds the characters, last first, of the placeholder
that has been opened and not yet closed. Within it an opening brace is a character like any other; one that is never
closed is no placeholder. -/
def placeholdersFrom : Option (List Char) → List Char → List (List Char)
  | _, [] => []
  | none, character :: rest =>
      if character = '\x7b' then placeholdersFrom (some []) rest else placeholdersFrom none rest
  | some opened, character :: rest =>
      if character = '\x7d' then opened.reverse :: placeholdersFrom none rest
      else placeholdersFrom (some (character :: opened)) rest

/-- The names of the placeholders of a template, in order and with repetitions; a nameless one does not count. -/
def parameters (template : String) : List String :=
  ((placeholdersFrom none template.toList).filter (fun name => !name.isEmpty)).map String.ofList

end UriTemplate

/-- The parameters of all templates of a host, each once, in the order of first appearance. -/
def Host.uriParameters (host : Host) : List String :=
  addNames (host.uris.flatMap UriTemplate.parameters) []

end ApiDesign
