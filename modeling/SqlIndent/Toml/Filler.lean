import SqlIndent.Text.Basic

/-!
# Blanks, comments and line ends of TOML

Only the space and the tab are blanks. A line ends in a line feed, with or without a carriage return
before it; a carriage return alone is an error everywhere. Comments may hold tabs but no other
control character.
-/

namespace SqlIndent.Toml

/-- Spaces and tabs. -/
def isTab (c : Char) : Bool :=
  c == ' ' || c == '\t'

/-- Printable characters and the tab: all but the other control characters. -/
def isPlain (c : Char) : Bool :=
  c == '\t' || (0x20 ≤ c.toNat && c.toNat != 0x7F)

/-- What follows leading spaces and tabs. -/
def skipBlanks (t : Text) : Text :=
  t.dropWhile isTab

/-- What follows a line end at the beginning of a text. -/
def newline? : Text → Option Text
  | '\n' :: rest => some rest
  | '\r' :: '\n' :: rest => some rest
  | _ => none

/-- What follows a comment, if there is one. -/
def skipComment : Text → Text
  | '#' :: rest => rest.dropWhile isPlain
  | t => t

/-- What follows the end of the current line: blanks, perhaps a comment, and a line end or the end
of the text. -/
def lineEnd? (t : Text) : Option Text :=
  match skipComment (skipBlanks t) with
  | [] => some []
  | rest => newline? rest

/-- What follows blanks and line ends. -/
def skipBlankLines : Text → Text
  | ' ' :: rest => skipBlankLines rest
  | '\t' :: rest => skipBlankLines rest
  | '\n' :: rest => skipBlankLines rest
  | '\r' :: '\n' :: rest => skipBlankLines rest
  | t => t

theorem length_skipBlankLines_le (t : Text) : (skipBlankLines t).length ≤ t.length := by
  fun_induction skipBlankLines t with
  | case5 => exact Nat.le_refl _
  | _ => simp only [List.length_cons]; omega

/-- What follows blanks, line ends and comments. -/
def skipFiller (t : Text) : Text :=
  match _h : skipBlankLines t with
  | '#' :: rest => skipFiller (rest.dropWhile isPlain)
  | rest => rest
termination_by t.length
decreasing_by
  have hd := (List.dropWhile_suffix isPlain (l := rest)).length_le
  have hs := length_skipBlankLines_le t
  rw [_h, List.length_cons] at hs
  omega

end SqlIndent.Toml
