import SqlIndent.Config
import SqlIndent.Resolution

/-!
# Finding the configuration

A configuration file is given by name, or it is the file `sqlfmt-plus.toml` of a directory, or there
is none and the defaults hold.
-/

namespace SqlIndent.Config

/-- The name of the configuration file of a directory. -/
def fileName : Text :=
  "sqlfmt-plus.toml".toList

/-- Reads the configuration file at `path`, which errors name `shown`. -/
def load (t : FileTree) (path shown : Text) : Except Error Config :=
  match t.read path with
  | .error cause => .error (.unreadableConfig shown cause)
  | .ok text =>
    match parse? text with
    | some config => .ok config
    | none => .error .malformedConfig

/-- The configuration in force: that of the given file, else that of the directory `dir`, which
errors name `shownDir`, else the default. -/
def lookup (t : FileTree) (explicit : Option Text) (dir shownDir : Text) : Except Error Config :=
  match explicit with
  | some path => load t path path
  | none =>
    if t.isFile (Path.join dir fileName) then
      load t (Path.join dir fileName) (Path.join shownDir fileName)
    else .ok {}

end SqlIndent.Config
