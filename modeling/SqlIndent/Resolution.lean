import SqlIndent.FileTree

/-!
# Where paths lead

A path leads from the root, or from the working directory if it does not start with a slash, through
the tree: by each of its names down, by two dots up. So a path may leave the working directory and
come back to it, and there are many paths to one place.
-/

namespace SqlIndent.FileTree

/-- Follows the parts of a path from a place. Every part but the last has to lead to a directory,
and so has the last if it leads nowhere or upwards. Above the root is the root again. -/
def follow (t : FileTree) (l : Location) : List Text → Except ReadError Location
  | [] => .ok l
  | part :: rest =>
    if !t.isDirectory l then .error .notDirectory
    else if Path.isIdle part then t.follow l rest
    else if part = Path.above then t.follow l.dropLast rest
    else if Path.maxNameLength < part.utf8Length then .error .nameTooLong
    else if (t.node? (l ++ [part])).isSome then t.follow (l ++ [part]) rest
    else .error .notFound

/-- The place from which the parts of a path are followed. -/
def startOf (t : FileTree) (path : Text) : Location :=
  if Path.isAbsolute path then [] else t.here

/-- The place to which a path leads. -/
def resolve (t : FileTree) (path : Text) : Except ReadError Location :=
  if path.contains '\x00' then .error .holdsNul
  else if !Path.fits path then .error .nameTooLong
  else if path.isEmpty then .error .notFound
  else t.follow (t.startOf path) (Path.parts path)

/-- The place to which a path leads, if it leads anywhere. -/
def locate? (t : FileTree) (path : Text) : Option Location :=
  (t.resolve path).toOption

/-- Whether a path leads to a regular file. -/
def isFile (t : FileTree) (path : Text) : Bool :=
  (t.locate? path).any fun l => (t.content? l).isSome

/-- Whether a path leads to a directory. -/
def leadsToDirectory (t : FileTree) (path : Text) : Bool :=
  (t.locate? path).any t.isDirectory

/-- The text to which a path leads. -/
def read (t : FileTree) (path : Text) : Except ReadError Text := do
  t.readAt (← t.resolve path)

/-- The path from the root to the working directory. -/
def herePath (t : FileTree) : Text :=
  Path.joinAll ['/'] t.here

end SqlIndent.FileTree
