import SqlIndent.Text.Blank

/-!
# The output buffer

The buffer is text that grows at its end, with the few edits that line breaks need: trailing blanks
are trimmed, a break is followed by the current indentation, and a comma that stands alone on its
line is taken back. All of these look at the end of the output, so the buffer is kept reversed.
-/

namespace SqlIndent

/-- An output buffer with its current level of indentation. -/
structure Buffer where
  /-- The output so far, last character first. -/
  reversed : Text := []
  /-- The number of spaces for each level. -/
  indentSize : Nat := 2
  /-- The current level of indentation. -/
  level : Nat := 0
deriving DecidableEq, Repr

namespace Buffer

/-- The output so far. -/
def output (b : Buffer) : Text :=
  b.reversed.reverse

/-- An empty buffer. -/
def new (indentSize : Nat) : Buffer :=
  { indentSize }

/-- Appends a text. -/
def write (b : Buffer) (t : Text) : Buffer :=
  { b with reversed := t.reverse ++ b.reversed }

/-- Removes trailing blanks. -/
def trim (b : Buffer) : Buffer :=
  { b with reversed := b.reversed.dropWhile Text.isBlank }

/-- Whether nothing but spaces follows the last line feed. -/
def atLineStart (b : Buffer) : Bool :=
  (b.reversed.dropWhile (· == ' ')).head?.all (· == '\n')

/-- Appends one space, unless the current line is still empty. -/
def space (b : Buffer) : Buffer :=
  if b.atLineStart then b else b.write [' ']

/-- Removes trailing blanks, then starts a line at the current level. The product of the level and the
number of spaces for each level is taken to fit a machine word; nothing is said of an overflow. -/
def newline (b : Buffer) : Buffer :=
  b.trim.write ('\n' :: List.replicate (b.level * b.indentSize) ' ')

/-- Whether nothing was written. -/
def isEmpty (b : Buffer) : Bool :=
  b.reversed.isEmpty

/-- If the output ends in a line of spaces and one comma, the buffer without that line. -/
def withoutLoneComma? (b : Buffer) : Option Buffer :=
  match b.reversed with
  | ',' :: rest =>
    match rest.dropWhile (· == ' ') with
    | '\n' :: before => some { b with reversed := before }
    | _ => none
  | _ => none

/-- One level deeper. -/
def indent (b : Buffer) : Buffer :=
  { b with level := b.level + 1 }

/-- One level up, but never above the outermost. -/
def dedent (b : Buffer) : Buffer :=
  { b with level := b.level - 1 }

@[simp] theorem output_write (b : Buffer) (t : Text) : (b.write t).output = b.output ++ t := by
  simp [output, write]

@[simp] theorem output_trim (b : Buffer) : b.trim.output = Text.trimEnd b.output := by
  simp [output, trim, Text.trimEnd]

@[simp] theorem output_newline (b : Buffer) :
    b.newline.output
      = Text.trimEnd b.output ++ '\n' :: List.replicate (b.level * b.indentSize) ' ' := by
  simp [newline]

@[simp] theorem output_indent (b : Buffer) : b.indent.output = b.output := rfl

@[simp] theorem output_dedent (b : Buffer) : b.dedent.output = b.output := rfl

end Buffer
end SqlIndent
