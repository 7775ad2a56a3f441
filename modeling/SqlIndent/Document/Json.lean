import SqlIndent.Document

/-!
# Replacements as JSON

A replacement is written as one line of JSON, fields in the order in which an editor reads them,
without blanks. In strings only the quote, the backslash and the characters below U+0020 are escaped.
-/

namespace SqlIndent
namespace Json

/-- The digits of a hexadecimal escape, in lower case. -/
def hexDigit (n : Nat) : Char :=
  if n < 10 then Char.ofNat (48 + n) else Char.ofNat (87 + n)

/-- A character inside a string. -/
def escapeChar (c : Char) : Text :=
  if c = '"' then ['\\', '"']
  else if c = '\\' then ['\\', '\\']
  else if c = '\n' then ['\\', 'n']
  else if c = '\r' then ['\\', 'r']
  else if c = '\t' then ['\\', 't']
  else if c = '\x08' then ['\\', 'b']
  else if c = '\x0c' then ['\\', 'f']
  else if c.toNat < 0x20 then ['\\', 'u', '0', '0', hexDigit (c.toNat / 16), hexDigit (c.toNat % 16)]
  else [c]

/-- A text as a JSON string. -/
def string (t : Text) : Text :=
  '"' :: (t.flatMap escapeChar ++ ['"'])

/-- A number in decimal digits. -/
def number (n : Nat) : Text :=
  Nat.toDigits 10 n

/-- An object with the given members, each a name and a written value. -/
def object (members : List (Text × Text)) : Text :=
  '\x7b' ::
    (Text.joinWith [','] (members.map fun (name, value) => string name ++ ':' :: value) ++ ['\x7d'])

end Json

open Json

/-- A place as JSON. -/
def Position.toJson (p : Position) : Text :=
  object [("line".toList, number p.line), ("character".toList, number p.character)]

/-- A part of a document as JSON. -/
def DocumentRange.toJson (r : DocumentRange) : Text :=
  object [("start".toList, r.start.toJson), ("end".toList, r.stop.toJson)]

/-- A replacement as JSON. -/
def Replacement.toJson (r : Replacement) : Text :=
  object [("range".toList, r.range.toJson), ("newText".toList, string r.newText)]

end SqlIndent
