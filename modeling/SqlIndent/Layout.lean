import SqlIndent.Buffer
import SqlIndent.Keyword.Basic
import SqlIndent.Span.Lexeme
import SqlIndent.Span.Literal

/-!
# Layout

The significant spans are written one after another. Marker words break lines and change the level
of indentation; a run of blanks in the source becomes one space; a comment ends its line and is
pulled up to the line before, unless that line is a comment too.
-/

namespace SqlIndent

/-- What a user may choose about the layout. -/
structure Options where
  /-- Whether words and punctuation are upper-cased; otherwise they keep their case. -/
  uppercase : Bool := true
  /-- The number of spaces for each level of indentation. -/
  indentSize : Nat := 2
deriving DecidableEq, Repr

/-- A word or a punctuation character in the case in which it is written. -/
def Options.recase (options : Options) (t : Text) : Text :=
  if options.uppercase then t.upper else t

/-- The state of a layout run. -/
structure Layout where
  buffer : Buffer
  /-- The kind of the span written last. -/
  last : Option Kind := none
deriving DecidableEq, Repr

namespace Layout

/-- Nothing written yet. -/
def start (options : Options) : Layout :=
  { buffer := .new options.indentSize }

/-- Writes a space where the source has blanks before the span. -/
def separate (b : Buffer) (s : Span) : Buffer :=
  if s.spaced then b.space else b

/-- Writes a literal. -/
def writeLiteral (b : Buffer) (s : Span) : Buffer :=
  (separate b s).write s.written

/-- Writes a comment and ends its line. A comment right after a comment keeps its own line; after
a comma that stands alone on its line, comma and comment both move to the line before. -/
def writeComment (b : Buffer) (last : Option Kind) (s : Span) : Buffer :=
  let written :=
    if last = some .comment then b.write s.text
    else match b.withoutLoneComma? with
      | some q => (q.trim.write [',', ' ']).write s.text
      | none =>
        let q := b.trim
        (if q.isEmpty then q else q.write [' ']).write s.text
  written.newline

/-- Writes a word or a punctuation character, with the line breaks and the change of level that its
key asks for. -/
def writeWord (options : Options) (keywords : KeywordSet) (b : Buffer) (s : Span) : Buffer :=
  let key := s.text.key
  let broken := if keywords.isNewline key then b.newline else b
  let written := (separate broken s).write (options.recase s.text)
  if keywords.isIndent key then written.indent
  else if isDedent key then written.dedent.newline
  else written

/-- Writes one span. -/
def step (options : Options) (keywords : KeywordSet) (l : Layout) (s : Span) : Layout where
  buffer :=
    match s.kind with
    | .literal _ => writeLiteral l.buffer s
    | .comment => writeComment l.buffer l.last s
    | .word | .punctuation => writeWord options keywords l.buffer s
    | .blank => l.buffer
  last := some s.kind

/-- The text that is written for a list of spans. -/
def run (options : Options) (keywords : KeywordSet) (spans : List Span) : Text :=
  (spans.foldl (step options keywords) (start options)).buffer.output

end Layout

/-- The formatted text. -/
def format (options : Options) (keywords : KeywordSet) (t : Text) : Text :=
  Layout.run options keywords (significant t)

/-- The texts written for the first span, the first two spans, and so on to all significant spans
of a text. -/
def trace (options : Options) (keywords : KeywordSet) (t : Text) : List Text :=
  let spans := significant t
  (List.range spans.length).map fun n => Layout.run options keywords (spans.take (n + 1))

/-- Whether a text is its own formatted text. -/
def isFormatted (options : Options) (keywords : KeywordSet) (t : Text) : Bool :=
  format options keywords t == t

end SqlIndent
