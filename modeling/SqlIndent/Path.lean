import SqlIndent.Text.Basic

/-!
# Paths

A path is a text of parts with slashes between them. Empty parts and single dots lead nowhere. Names
and whole paths are limited in their number of bytes.
-/

namespace SqlIndent.Path

/-- The parts of a path, empty ones included. -/
def parts (p : Text) : List Text :=
  p.foldr (fun c ps => if c = '/' then [] :: ps else ps.modifyHead (c :: ·)) [[]]

/-- The part that stands for the same directory. -/
def here : Text := ['.']

/-- The part that stands for the directory above. -/
def above : Text := ['.', '.']

/-- Parts that lead nowhere. -/
def isIdle (part : Text) : Bool :=
  part.isEmpty || part == here

/-- Whether a path is the given part, apart from parts after it that lead nowhere. -/
def isPart (part : Text) (p : Text) : Bool :=
  match parts p with
  | [] => false
  | first :: rest => first == part && rest.all isIdle

/-- A path followed by one more part. -/
def join (p part : Text) : Text :=
  if p.isEmpty || p.getLast? == some '/' then p ++ part else p ++ '/' :: part

/-- A path followed by more parts. -/
def joinAll (p : Text) (rest : List Text) : Text :=
  rest.foldl join p

/-- The largest number of bytes of a name. -/
def maxNameLength : Nat := 255

/-- The largest number of bytes of a path. -/
def maxPathLength : Nat := 4095

/-- Whether a path is short enough to lead anywhere. -/
def fits (p : Text) : Bool :=
  p.utf8Length ≤ maxPathLength

/-- Whether a part can be the name of a file or directory. -/
def isName (part : Text) : Bool :=
  !isIdle part && part != above && !part.contains '/' && !part.contains '\x00' &&
    part.utf8Length ≤ maxNameLength

/-- Whether a path starts at the root of the file system. -/
def isAbsolute (p : Text) : Bool :=
  p.head? == some '/'

end SqlIndent.Path
