import ApiDesign.Text.GraphemeExtend
import ApiDesign.Text.Unprintable

/-!
Contract: a text written between double quotes on one line.

Each character is written as itself or as its escape. The quote and the backslash are always escaped, so the closing
quote is the first one that no backslash precedes. An escape by code point is `\u` and the hexadecimal code between
braces.
-/

namespace ApiDesign.Text

/-- The escape of a character by its code point: lower-case hexadecimal digits without leading zeros. -/
def codeEscape (character : Char) : List Char :=
  '\\' :: 'u' :: '\x7b' :: (Nat.toDigits 16 character.toNat ++ ['\x7d'])

/-- Whether a character is a halfwidth katakana sound mark. Such a mark extends the grapheme before it, but it has a
shape and a width of its own. -/
def isSoundMark (character : Char) : Bool :=
  character = '\uff9e' || character = '\uff9f'

/-- Whether a character shows nothing of its own between quotes: it has no printed form, or it merges with the
character before it. -/
def isInvisible (character : Char) : Bool :=
  isUnprintable character || (extendsGrapheme character && !isSoundMark character)

/-- How one character is written between quotes. -/
def escape (character : Char) : List Char :=
  if character = '"' then ['\\', '"']
  else if character = '\\' then ['\\', '\\']
  else if character = '\n' then ['\\', 'n']
  else if character = '\r' then ['\\', 'r']
  else if character = '\t' then ['\\', 't']
  else if character = '\x00' then ['\\', '0']
  else if isInvisible character then codeEscape character
  else [character]

/-- The written form of a text: its characters, escaped where needed, between double quotes. -/
def quoteChars (text : List Char) : List Char :=
  '"' :: (text.flatMap escape ++ ['"'])

/-- The written form of a text, as a text. -/
def quote (text : String) : String :=
  String.ofList (quoteChars text.toList)

end ApiDesign.Text
