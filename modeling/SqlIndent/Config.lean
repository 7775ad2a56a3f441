import SqlIndent.Keyword.Builtin
import SqlIndent.Layout
import SqlIndent.Toml.Parser
import SqlIndent.Toml.Written

/-!
# Configurations

A configuration is a TOML document of two tables: `format` holds the layout options, `keywords` the
word lists that take the place of the built-in ones. Everything may be left out; nothing else may be
there. Either table may also be given as an array of its fields in order.
-/

namespace SqlIndent

/-- The contents of a configuration file. -/
structure Config where
  format : Options := {}
  /-- The word lists in the place of the built-in ones. -/
  keywords : Option KeywordLists := none
deriving DecidableEq, Repr

/-- Reads a field that may be missing. -/
def readField {α : Type} (read : Toml.Value → Option α) (fallback : α) : Option Toml.Value → Option α
  | none => some fallback
  | some v => read v

/-- The layout options that a TOML value describes. -/
def Options.ofToml? (v : Toml.Value) : Option Options := do
  match ← v.fields? ["uppercase".toList, "indent_size".toList] with
  | [uppercase, indentSize] =>
    let fallback : Options := {}
    return {
      uppercase := ← readField Toml.Value.bool? fallback.uppercase uppercase
      indentSize := ← readField Toml.Value.nat? fallback.indentSize indentSize }
  | _ => none

/-- The word lists that a TOML value describes. -/
def KeywordLists.ofToml? (v : Toml.Value) : Option KeywordLists := do
  match ← v.fields? ["keywords".toList, "indent".toList, "newline".toList] with
  | [keywords, indent, newline] =>
    return {
      keywords := ← readField Toml.Value.texts? [] keywords
      indent := ← readField Toml.Value.texts? [] indent
      newline := ← readField Toml.Value.texts? [] newline }
  | _ => none

namespace Config

/-- The configuration that a TOML table describes. -/
def ofToml? (v : Toml.Value) : Option Config := do
  match ← v.fields? ["format".toList, "keywords".toList] with
  | [format, keywords] =>
    return {
      format := ← readField Options.ofToml? {} format
      keywords := ← readField (fun v => (KeywordLists.ofToml? v).map some) none keywords }
  | _ => none

/-- The configuration that a text describes. -/
def parse? (t : Text) : Option Config :=
  (Toml.parse? t).bind fun entries => ofToml? (.table .header entries)

/-- The keyword set that a configuration asks for. -/
def keywordSet (c : Config) : KeywordSet :=
  match c.keywords with
  | some lists => .ofLists lists
  | none => .builtin

end Config

/-- The largest integer of a TOML document. -/
def maxWritableIndent : Nat := Nat.pow 2 63 - 1

/-- The configuration file for given options and word lists. -/
def writeConfig (options : Options) (lists : KeywordLists) : Text :=
  Toml.writeHeader "format" ++
    Toml.writeAssignment "uppercase" (Toml.writeBool options.uppercase) ++
    Toml.writeAssignment "indent_size" (Nat.toDigits 10 options.indentSize) ++
    ['\n'] ++
    Toml.writeHeader "keywords" ++
    Toml.writeAssignment "keywords" (Toml.writeStrings lists.keywords) ++
    Toml.writeAssignment "indent" (Toml.writeStrings lists.indent) ++
    Toml.writeAssignment "newline" (Toml.writeStrings lists.newline)

end SqlIndent
