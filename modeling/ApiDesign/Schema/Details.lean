import ApiDesign.Value.Basic

/-!
Contract: everything an attribute says besides its type.

Owns: metadata, documentation links, examples, validation rules, and the record `Details` that holds them.
Does not own: types (`Schema.Attribute`).
-/

namespace ApiDesign

/-! ## Metadata -/

/-- Free-form texts under names, in ascending order of the names. -/
structure Metadata where
  entries : List (String × String) := []
deriving DecidableEq, Repr

namespace Metadata

/-- Puts an entry into ascending entries; an entry of the same name gives way. -/
def insertInto (name text : String) : List (String × String) → List (String × String)
  | [] => [(name, text)]
  | (otherName, other) :: rest =>
      if name < otherName then (name, text) :: (otherName, other) :: rest
      else if name = otherName then (name, text) :: rest
      else (otherName, other) :: insertInto name text rest

/-- The metadata with one text set. -/
def insert (name text : String) (metadata : Metadata) : Metadata :=
  ⟨insertInto name text metadata.entries⟩

def find? (name : String) (metadata : Metadata) : Option String :=
  metadata.entries.lookup name

def contains (name : String) (metadata : Metadata) : Bool :=
  (metadata.find? name).isSome

/-- The name under which metadata switches examples off. -/
def exampleSwitch : String := "openapi:example"

/-- Whether the metadata switches examples off: the switch is set to exactly `false`. -/
def disablesExamples (metadata : Metadata) : Bool :=
  metadata.find? exampleSwitch == some "false"

end Metadata

/-! ## Documentation and examples -/

structure Docs where
  description : Option String := none
  url : Option String := none
deriving DecidableEq, Repr

structure Sample where
  summary : String
  description : Option String := none
  value : Option Value := none
deriving Repr

/-- The example with a summary; an empty summary reads `default`. -/
def Sample.titled (summary : String) : Sample :=
  ⟨if summary = "" then "default" else summary, none, none⟩

/-! ## Validation -/

inductive Format where
  | date | dateTime | uuid | email | hostname | ipv4 | ipv6 | ip | uri | mac | cidr | regexp | json | rfc1123
deriving DecidableEq, Repr

def Format.name : Format → String
  | .date => "date"
  | .dateTime => "date-time"
  | .uuid => "uuid"
  | .email => "email"
  | .hostname => "hostname"
  | .ipv4 => "ipv4"
  | .ipv6 => "ipv6"
  | .ip => "ip"
  | .uri => "uri"
  | .mac => "mac"
  | .cidr => "cidr"
  | .regexp => "regexp"
  | .json => "json"
  | .rfc1123 => "rfc1123"

/-- Adds names at the end of a list, leaving out each one that is there already. -/
def addNames (names : List String) (known : List String) : List String :=
  names.foldl (fun kept name => if kept.contains name then kept else kept ++ [name]) known

/-- The rules a value of an attribute has to satisfy besides its type. `required` names children of an object. -/
structure Validation where
  minLength : Option Nat := none
  maxLength : Option Nat := none
  minimum : Option Binary64 := none
  maximum : Option Binary64 := none
  pattern : Option String := none
  values : List Value := []
  format : Option Format := none
  required : List String := []
deriving Repr

namespace Validation

def isEmpty (validation : Validation) : Bool :=
  validation.minLength.isNone && validation.maxLength.isNone && validation.minimum.isNone &&
    validation.maximum.isNone && validation.pattern.isNone && validation.values.isEmpty &&
    validation.format.isNone && validation.required.isEmpty

/-- Requires further children; the order is that of first mention. -/
def addRequired (names : List String) (validation : Validation) : Validation :=
  { validation with required := addNames names validation.required }

end Validation

/-! ## Details -/

/-- Everything an attribute says besides its type. -/
structure Details where
  description : Option String := none
  docs : Option Docs := none
  defaultValue : Option Value := none
  samples : List Sample := []
  validation : Validation := {}
  metadata : Metadata := {}
  generateExamples : Bool := false
deriving Repr

end ApiDesign
