import ApiDesign.Number.Decimal
import ApiDesign.Text.Quoted
import ApiDesign.Text.Utf8
import ApiDesign.Value.Basic

/-!
Contract: the one-line text of a value.

Texts are quoted; bytes are `b` and the quoted text they spell; sequences stand in brackets and maps in braces, in
key order.
-/

namespace ApiDesign.Value

mutual

/-- The one-line text of a value. -/
def render : Value → String
  | .null => "null"
  | .bool truth => if truth then "true" else "false"
  | .int number => toString number.toInt
  | .float number => number.text
  | .text content => Text.quote content
  | .bytes content => "b" ++ Text.quote (Text.decodeUtf8 content)
  | .array items => "[" ++ ", ".intercalate (renderItems items) ++ "]"
  | .map entries => "\x7b" ++ ", ".intercalate (renderEntries entries) ++ "\x7d"

/-- The texts of items. -/
def renderItems : List Value → List String
  | [] => []
  | item :: rest => render item :: renderItems rest

/-- The texts of entries, key and value joined by a colon. -/
def renderEntries : List (Value × Value) → List String
  | [] => []
  | (key, value) :: rest => (render key ++ ": " ++ render value) :: renderEntries rest

end

end ApiDesign.Value
