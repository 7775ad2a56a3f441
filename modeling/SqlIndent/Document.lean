import SqlIndent.Layout

/-!
# Whole-document replacements

A formatted text is handed out as one replacement of the whole source document, addressed the way
editors address text: by lines counted from zero, and by columns counted in UTF-16 code units. Only
a line feed ends a line; a carriage return counts as a character of its line.
-/

namespace SqlIndent

/-- A place in a document. -/
structure Position where
  line : Nat
  character : Nat
deriving DecidableEq, Repr

/-- The part of a document from one place up to another. -/
structure DocumentRange where
  start : Position
  stop : Position
deriving DecidableEq, Repr

/-- The order to put a new text in the place of a part of a document. -/
structure Replacement where
  range : DocumentRange
  newText : Text
deriving DecidableEq, Repr

/-- What follows the last line feed. -/
def Text.lastLine (t : Text) : Text :=
  (t.reverse.takeWhile (· != '\n')).reverse

/-- The place right after the last character of a text. -/
def Position.endOf (t : Text) : Position where
  line := t.count '\n'
  character := t.lastLine.utf16Length

/-- Puts `newText` in the place of the whole document `source`. -/
def Replacement.whole (source newText : Text) : Replacement where
  range := ⟨⟨0, 0⟩, .endOf source⟩
  newText := newText

/-- The replacement of a document by its formatted text. -/
def reformatting (options : Options) (keywords : KeywordSet) (source : Text) : Replacement :=
  .whole source (format options keywords source)

end SqlIndent
