import SqlIndent.Text.Basic

/-!
# Errors

Formatting never fails; errors come from files, from the configuration, and from giving the keyword
set a second time. An error is a cause; its wording is in one place.
-/

namespace SqlIndent

/-- Why a file could not be read as text. -/
inductive ReadError where
  /-- A component of the path does not exist. -/
  | notFound
  /-- A component before the last is a regular file. -/
  | notDirectory
  /-- The path leads to a directory. -/
  | isDirectory
  /-- The path, or one of its components, is too long. -/
  | nameTooLong
  /-- The path has the character NUL in it. -/
  | holdsNul
  /-- The content is not UTF-8. -/
  | notUtf8
deriving DecidableEq, Repr

/-- The wording of the operating system, or that of the decoder. -/
def ReadError.message : ReadError → String
  | notFound => "No such file or directory (os error 2)"
  | notDirectory => "Not a directory (os error 20)"
  | isDirectory => "Is a directory (os error 21)"
  | nameTooLong => "File name too long (os error 36)"
  | holdsNul => "file name contained an unexpected NUL byte"
  | notUtf8 => "stream did not contain valid UTF-8"

/-- Why a command failed. -/
inductive Error where
  /-- A file or the standard input could not be read. -/
  | unreadable (cause : ReadError)
  /-- A path argument leads to no file and matches none. -/
  | noMatch (path : Text)
  /-- The configuration file could not be read. -/
  | unreadableConfig (path : Text) (cause : ReadError)
  /-- The configuration is not TOML, or not of the expected shape. -/
  | malformedConfig
  /-- The keyword set was already fixed. -/
  | keywordsFixed
deriving DecidableEq, Repr

namespace Error

/-- The part of the program from which an error comes. -/
inductive Origin where
  | files
  | config
  | keywords
deriving DecidableEq, Repr

/-- Where an error comes from. -/
def origin : Error → Origin
  | unreadable _ | noMatch _ => .files
  | unreadableConfig .. | malformedConfig => .config
  | keywordsFixed => .keywords

/-- What comes before the wording of the cause. -/
def Origin.heading : Origin → String
  | files => "IO error: "
  | config => "Config error: "
  | keywords => "Keyword table error: "

/-- The wording of the cause alone. -/
def detail : Error → String
  | unreadable cause => cause.message
  | noMatch path => "no such file or directory: " ++ String.ofList path
  | unreadableConfig path cause => "failed to read " ++ String.ofList path ++ ": " ++ cause.message
  | malformedConfig => "malformed configuration"
  | keywordsFixed => "keyword tables are already initialized"

/-- The wording of an error. -/
def message (e : Error) : String :=
  e.origin.heading ++ e.detail

/-- The code under which an error is documented. -/
def code (e : Error) : String :=
  match e.origin with
  | .files => "sqlfmt_plus::io_error"
  | .config => "sqlfmt_plus::config_error"
  | .keywords => "sqlfmt_plus::keyword_table_error"

/-- Advice to the user, where there is any. -/
def help (e : Error) : Option String :=
  match e.origin with
  | .config => some "see `sqlfmt-plus.toml`: [format] and [keywords] tables"
  | _ => none

end Error
end SqlIndent
