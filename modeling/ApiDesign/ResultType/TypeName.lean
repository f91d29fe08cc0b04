import ApiDesign.Text.Alphanumeric
import ApiDesign.Text.Blank
import ApiDesign.Text.Uppercase

/-!
Contract: the type name of a result type, derived from its media type identifier.

The parameters after the first semicolon are dropped. Of the rest, the part after the last slash and before the first
plus counts, without a leading `vnd.`; its words are joined in camel case. If that part has no word, all words before
the parameters are joined; if there are none either, the name is `ResultType`.
-/

namespace ApiDesign.TypeName

/-- The words of a text: its longest runs of alphanumeric characters. `word` holds the characters, last first, of the
word that is being read. -/
def wordsFrom : List Char → List Char → List (List Char)
  | word, [] => if word.isEmpty then [] else [word.reverse]
  | word, character :: rest =>
      if Text.isAlphanumeric character then wordsFrom (character :: word) rest
      else if word.isEmpty then wordsFrom [] rest
      else word.reverse :: wordsFrom [] rest

/-- A word with its first character in upper case. -/
def capitalize : List Char → List Char
  | [] => []
  | first :: rest => Text.uppercase first ++ rest

/-- The words of a text in camel case. -/
def camelCase (text : List Char) : List Char :=
  (wordsFrom [] text).flatMap capitalize

/-- The part after the last slash. -/
def afterLastSlash (text : List Char) : List Char :=
  (text.reverse.takeWhile (· ≠ '/')).reverse

/-- The text without one leading `vnd.`. -/
def withoutVendor (text : List Char) : List Char :=
  match text with
  | 'v' :: 'n' :: 'd' :: '.' :: rest => rest
  | _ => text

/-- The part of an identifier before its parameters, without white space at its ends. -/
def base (identifier : List Char) : List Char :=
  Text.trim (identifier.takeWhile (· ≠ ';'))

/-- The part of a base that names the type. -/
def core (base : List Char) : List Char :=
  withoutVendor ((afterLastSlash base).takeWhile (· ≠ '+'))

/-- The derived type name, as characters. -/
def deriveChars (identifier : List Char) : List Char :=
  let named := camelCase (core (base identifier))
  if named.isEmpty then
    let whole := camelCase (base identifier)
    if whole.isEmpty then "ResultType".toList else whole
  else named

/-- The type name derived from an identifier. -/
def derive (identifier : String) : String :=
  String.ofList (deriveChars identifier.toList)

end ApiDesign.TypeName
