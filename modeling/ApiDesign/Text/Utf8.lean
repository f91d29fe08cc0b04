/-!
Contract: reading bytes as UTF-8 without ever failing.

A well-formed sequence yields its character. Of an ill-formed one, the longest piece that begins some well-formed
sequence (at least one byte) yields the replacement character, and reading goes on with the byte after it.
-/

namespace ApiDesign.Text

/-- A sequence that has begun: the code point bits read so far, how many bytes are missing, and the range in which
the next byte must lie. -/
structure Utf8Pending where
  code : Nat
  missing : Nat
  low : Nat
  high : Nat
deriving DecidableEq, Repr

/-- What stands for an ill-formed piece. -/
def replacementCharacter : Char := '\uFFFD'

/-- Reads a byte where a sequence may begin. Overlong forms, surrogates and codes above the last one are excluded by
the range of the second byte. -/
def Utf8Pending.start (byte : Nat) : List Char × Option Utf8Pending :=
  if byte < 0x80 then ([Char.ofNat byte], none)
  else if 0xc2 ≤ byte && byte ≤ 0xdf then ([], some ⟨byte % 0x20, 1, 0x80, 0xbf⟩)
  else if byte = 0xe0 then ([], some ⟨0, 2, 0xa0, 0xbf⟩)
  else if byte = 0xed then ([], some ⟨0xd, 2, 0x80, 0x9f⟩)
  else if 0xe1 ≤ byte && byte ≤ 0xef then ([], some ⟨byte % 0x10, 2, 0x80, 0xbf⟩)
  else if byte = 0xf0 then ([], some ⟨0, 3, 0x90, 0xbf⟩)
  else if byte = 0xf4 then ([], some ⟨4, 3, 0x80, 0x8f⟩)
  else if 0xf1 ≤ byte && byte ≤ 0xf3 then ([], some ⟨byte % 8, 3, 0x80, 0xbf⟩)
  else ([replacementCharacter], none)

/-- Reads a byte in a sequence. A byte outside the expected range ends the sequence as ill-formed and is read again
where a sequence may begin. -/
def Utf8Pending.continue (pending : Utf8Pending) (byte : Nat) : List Char × Option Utf8Pending :=
  if pending.low ≤ byte && byte ≤ pending.high then
    let code := pending.code * 0x40 + byte % 0x40
    if pending.missing = 1 then ([Char.ofNat code], none)
    else ([], some ⟨code, pending.missing - 1, 0x80, 0xbf⟩)
  else
    let (characters, next) := Utf8Pending.start byte
    (replacementCharacter :: characters, next)

/-- Reads the remaining bytes after what is pending. -/
def decodeUtf8From : Option Utf8Pending → List UInt8 → List Char
  | none, [] => []
  | some _, [] => [replacementCharacter]
  | none, byte :: rest =>
      let (characters, next) := Utf8Pending.start byte.toNat
      characters ++ decodeUtf8From next rest
  | some pending, byte :: rest =>
      let (characters, next) := pending.continue byte.toNat
      characters ++ decodeUtf8From next rest

/-- The text that bytes spell, with a replacement character for each ill-formed piece. -/
def decodeUtf8 (bytes : List UInt8) : String :=
  String.ofList (decodeUtf8From none bytes)

end ApiDesign.Text
