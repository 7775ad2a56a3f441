import SqlIndent.Glob
import SqlIndent.Resolution

/-!
# Finding SQL files

A path argument names a regular file, whatever its extension; or a directory, and then all files
with the extension `sql` below it; or else it is a pattern, and then the files with that extension
that match.
-/

namespace SqlIndent

/-- A file or directory that was found, with the path by which it is shown. -/
structure Found where
  shown : Text
  location : Location
deriving DecidableEq, Repr

/-- Whether a name has the extension `sql`; the bare extension is a name without one. -/
def hasSqlExtension (name : Text) : Bool :=
  ['.', 's', 'q', 'l'].isSuffixOf name && 4 < name.length

namespace FileTree

/-- Whether what was found is a regular file with the extension `sql`, and can be read by the path by
which it is shown. -/
def isSqlFile (t : FileTree) (f : Found) : Bool :=
  (t.content? f.location).isSome && f.location.getLast?.any hasSqlExtension && Path.fits f.shown

/-- What stands below a directory that was found. Below the working directory itself the paths are
shown without it. -/
def foundBelow (t : FileTree) (d : Found) : List Found :=
  (t.below d.location).map fun n =>
    { shown := Path.joinAll (if Path.isPart Path.here d.shown then [] else d.shown) n.1
      location := d.location ++ n.1 }

/-- What stands in a directory that was found. -/
def foundIn (t : FileTree) (d : Found) : List Found :=
  (t.foundBelow d).filter (·.location.length == d.location.length + 1)

/-- Goes on to what a path leads to, if it leads anywhere. -/
def reach (t : FileTree) (path : Text) : List Found :=
  ((t.locate? path).map (Found.mk path)).toList

/-- The directory itself and the one above it, where a part with wildcards matches their dots. The
part has to begin with a dot. -/
def foundDots (t : FileTree) (d : Found) (tokens : List Glob.Token) : List Found :=
  if t.isDirectory d.location && tokens.head? == some (.char '.') then
    ([Path.above, Path.here].filter (Glob.matchTokens tokens)).flatMap fun dots =>
      t.reach (Path.join d.shown dots)
  else []

/-- What matches the parts of a pattern, from a directory on. Names are looked up; parts with
wildcards are compared with the names in the directory, in increasing order. After `**` the next part
is compared with the names at any depth. -/
def expand (t : FileTree) : List Glob.Part → Found → List Found
  | [], d => [d]
  | .name text :: rest, d =>
    (t.reach (if Path.isPart Path.here d.shown then text else Path.join d.shown text)).flatMap
      (t.expand rest)
  | .wild tokens :: rest, d =>
    (t.foundDots d tokens ++
      (t.foundIn d).filter fun f => f.location.getLast?.any (Glob.matchTokens tokens)).flatMap
      (t.expand rest)
  | [.anyDepth], d => (t.foundBelow d).filter (t.isDirectory ·.location)
  | .anyDepth :: .anyDepth :: rest, d => t.expand (.anyDepth :: rest) d
  | .anyDepth :: part :: rest, d =>
    ((t.foundBelow d).filter fun f => f.location.getLast?.any (part.accepts ·)).flatMap
      (t.expand rest)

/-- The SQL files that match a pattern. -/
def matching (t : FileTree) (pattern : Text) : List Found :=
  match Glob.parse? pattern with
  | none => []
  | some parts => (t.expand parts ⟨Glob.start pattern, t.startOf pattern⟩).filter t.isSqlFile

/-- The SQL files below a directory. -/
def sqlFilesBelow (t : FileTree) (d : Found) : List Found :=
  ((t.below d.location).map fun n =>
    Found.mk (Path.joinAll d.shown n.1) (d.location ++ n.1)).filter t.isSqlFile

/-- The files that a path argument stands for. -/
def discover (t : FileTree) (path : Text) : Except Error (List Found) :=
  if t.isFile path then .ok (t.reach path)
  else if t.leadsToDirectory path then .ok ((t.reach path).flatMap t.sqlFilesBelow)
  else match t.matching path with
    | [] => .error (.noMatch path)
    | found => .ok found

end FileTree
end SqlIndent
