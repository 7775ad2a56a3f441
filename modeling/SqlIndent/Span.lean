import SqlIndent.Text.Blank
import SqlIndent.Text.WordChar

/-!
# Spans

A source text is cut into classified spans: literals, comments, words, single punctuation
characters and runs of blanks. A span knows where it stands, in bytes, and whether a run of blanks
stands right before it.
-/

namespace SqlIndent

/-- The four ways of quoting a literal. -/
inductive Delimiter where
  /-- `'...'`, where `''` stands for a quote -/
  | single
  /-- `"..."`, where `""` stands for a quote -/
  | double
  /-- `{...}`, where `{}` does not close the literal -/
  | brace
  /-- `[...]`, where `]]` stands for a bracket -/
  | bracket
deriving DecidableEq, Repr

namespace Delimiter

/-- The character that opens a literal. -/
def opener : Delimiter → Char
  | single => '\''
  | double => '"'
  | brace => '{'
  | bracket => '['

/-- The character that closes a literal. -/
def closer : Delimiter → Char
  | single => '\''
  | double => '"'
  | brace => '}'
  | bracket => ']'

/-- The delimiter that a character opens, if any. -/
def ofOpener? (c : Char) : Option Delimiter :=
  if c = '\'' then some single
  else if c = '"' then some double
  else if c = '{' then some brace
  else if c = '[' then some bracket
  else none

/-- Quotes hold words; braces and brackets hold one verbatim piece. -/
def isQuote : Delimiter → Bool
  | single | double => true
  | brace | bracket => false

theorem ofOpener?_opener (d : Delimiter) : ofOpener? d.opener = some d := by
  cases d <;> decide

end Delimiter

/-- What a span is. -/
inductive Kind where
  /-- A quoted literal, its delimiters included. -/
  | literal (delimiter : Delimiter)
  /-- `--` and what follows it on its line. -/
  | comment
  /-- One character that is neither blank nor part of a word. -/
  | punctuation
  /-- A maximal run of word characters. -/
  | word
  /-- A maximal run of blanks. -/
  | blank
deriving DecidableEq, Repr

/-- A classified, located piece of a source text. -/
structure Span where
  kind : Kind
  /-- The exact source text, delimiters and comment marker included. -/
  text : Text
  /-- The number of bytes before the span. -/
  start : Nat
  /-- Whether a run of blanks stands right before the span. -/
  spaced : Bool
  /-- False only for a literal that lacks its closing delimiter. -/
  terminated : Bool
deriving DecidableEq, Repr

/-- The number of bytes up to the end of the span. -/
def Span.stop (s : Span) : Nat :=
  s.start + s.text.utf8Length

end SqlIndent
