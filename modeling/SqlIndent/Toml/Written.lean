import SqlIndent.Text.Basic

/-!
# Writing TOML

A string is written in the plainest of the four forms that can hold it: first without any escape,
on one line if possible, and with escapes only where nothing else will do.
-/

namespace SqlIndent.Toml

/-- Control characters that no form can hold without an escape. -/
def needsEscape (c : Char) : Bool :=
  (c.toNat ≤ 0x1F && c != '\t' && c != '\n') || c.toNat == 0x7F

/-- The length of the longest run of a character. -/
def longestRun (mark : Char) (t : Text) : Nat :=
  go 0 t
where
  /-- The same, where a run of `n` comes right before. -/
  go (n : Nat) : Text → Nat
    | [] => n
    | c :: rest => if c = mark then go (n + 1) rest else max n (go 0 rest)

/-- The forms of a string. -/
inductive StringForm where
  /-- Between quotation marks, with escapes. -/
  | basic
  /-- Between apostrophes, as it stands. -/
  | literal
  /-- Between tripled quotation marks, with escapes. -/
  | multilineBasic
  /-- Between tripled apostrophes, as it stands. -/
  | multilineLiteral
deriving DecidableEq, Repr

/-- The form in which a text is written. -/
def StringForm.ofText (t : Text) : StringForm :=
  let control := t.any needsEscape
  let lines := t.contains '\n'
  let backslash := t.contains '\\'
  if !control && !backslash && !t.contains '"' && !lines then .basic
  else if !control && !t.contains '\'' && !lines then .literal
  else if !control && !backslash && longestRun '"' t ≤ 2 then .multilineBasic
  else if !control && longestRun '\'' t ≤ 2 then .multilineLiteral
  else if lines then .multilineBasic
  else .basic

/-- The digits of an escape, in upper case. -/
def upperHexDigit (n : Nat) : Char :=
  if n < 10 then Char.ofNat (48 + n) else Char.ofNat (55 + n)

/-- A character other than the quotation mark and the line feed, in a form with escapes. -/
def escaped (c : Char) : Text :=
  if c = '\\' then ['\\', '\\']
  else if c = '\x08' then ['\\', 'b']
  else if c = '\t' then ['\\', 't']
  else if c = '\x0c' then ['\\', 'f']
  else if c = '\r' then ['\\', 'r']
  else if needsEscape c then
    ['\\', 'u', '0', '0', upperHexDigit (c.toNat / 16), upperHexDigit (c.toNat % 16)]
  else [c]

/-- The characters of a text between quotation marks. -/
def basicBody (t : Text) : Text :=
  t.flatMap fun c =>
    if c = '"' then ['\\', '"']
    else if c = '\n' then ['\\', 'n']
    else escaped c

/-- The characters of a text between tripled quotation marks: of three marks in a row the third is
escaped. `marks` counts those that come right before. -/
def multilineBody (marks : Nat) : Text → Text
  | [] => []
  | c :: rest =>
    if c = '"' then
      if marks = 2 then '\\' :: '"' :: multilineBody 0 rest else '"' :: multilineBody (marks + 1) rest
    else if c = '\n' then '\n' :: multilineBody 0 rest
    else escaped c ++ multilineBody 0 rest

/-- A text between two copies of `marks`; in a form over several lines a text with a line feed starts
on a line of its own. -/
def enclose (marks : Text) (multiline : Bool) (t body : Text) : Text :=
  marks ++ (if multiline && t.contains '\n' then ['\n'] else []) ++ body ++ marks

/-- A text as a TOML string. -/
def writeString (t : Text) : Text :=
  match StringForm.ofText t with
  | .basic => enclose ['"'] false t (basicBody t)
  | .literal => enclose ['\''] false t t
  | .multilineBasic => enclose ['"', '"', '"'] true t (multilineBody 0 t)
  | .multilineLiteral => enclose ['\'', '\'', '\''] true t t

/-- Texts as a TOML array on one line. -/
def writeStrings (ts : List Text) : Text :=
  '[' :: (Text.joinWith [',', ' '] (ts.map writeString) ++ [']'])

/-- A truth value. -/
def writeBool (b : Bool) : Text :=
  if b then "true".toList else "false".toList

/-- A line that gives a key its value. -/
def writeAssignment (key : String) (value : Text) : Text :=
  key.toList ++ [' ', '=', ' '] ++ value ++ ['\n']

/-- A line that opens a table. -/
def writeHeader (key : String) : Text :=
  '[' :: (key.toList ++ [']', '\n'])

end SqlIndent.Toml
