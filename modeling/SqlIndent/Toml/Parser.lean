import SqlIndent.Toml.Scalar
import SqlIndent.Toml.Table

/-!
# Reading TOML

A document is read line by line into statements, and the statements are put together to one table.
Arrays, tables in braces and keys nest to a limited depth. Where a reader repeats another one, it
asks for progress: a round that leaves the text as long as before ends the reading.
-/

namespace SqlIndent.Toml

/-- Arrays and tables in braces nest to this depth, and keys have at most this many parts. -/
def maxDepth : Nat := 79

/-! ## Keys -/

/-- The characters of a key without quotes. -/
def isBareKeyChar (c : Char) : Bool :=
  isDigit c || ('a' ≤ c && c ≤ 'z') || ('A' ≤ c && c ≤ 'Z') || c == '_' || c == '-'

/-- One part of a key, and what follows it. -/
def simpleKey? (t : Text) : Option (Text × Text) :=
  match t with
  | '"' :: _ => lineString? t
  | '\'' :: _ => lineString? t
  | _ =>
    let key := t.takeWhile isBareKeyChar
    if key.isEmpty then none else some (key, t.dropWhile isBareKeyChar)

/-- The parts of a dotted key, with the blanks around them. -/
def keyParts? (t : Text) : Option (List Text × Text) := do
  let (part, rest) ← simpleKey? (skipBlanks t)
  match skipBlanks rest with
  | '.' :: rest' =>
    if rest'.length < t.length then
      let (parts, rest'') ← keyParts? rest'
      return (part :: parts, rest'')
    else none
  | rest' => return ([part], rest')
termination_by t.length

/-- A key of limited length, with the blanks around it. -/
def key? (t : Text) : Option (List Text × Text) :=
  (keyParts? t).filter fun r => r.1.length ≤ maxDepth

/-! ## Values -/

/-- The reader of a value inside another one. -/
abbrev ValueReader := Text → Option (Value × Text)

/-- The elements of an array up to its closing bracket. A comma may follow the last element, and
line ends and comments may stand everywhere. -/
def arrayItems? (value : ValueReader) (t : Text) : Option (List Value × Text) :=
  match skipFiller t with
  | ']' :: rest => some ([], rest)
  | t' => do
    let (v, rest) ← value t'
    match skipFiller rest with
    | ']' :: rest' => return ([v], rest')
    | ',' :: rest' =>
      if rest'.length < t.length then
        let (vs, rest'') ← arrayItems? value rest'
        return (v :: vs, rest'')
      else none
    | _ => none
termination_by t.length

/-- A key, its value and the blanks around them. -/
def assignment? (value : ValueReader) (t : Text) : Option ((List Text × Value) × Text) := do
  let (path, rest) ← key? t
  let (v, rest) ← value (skipBlanks (← expect? '=' rest))
  return ((path, v), skipBlanks rest)

/-- The assignments of a table in braces, at least one, up to its closing brace. -/
def inlineAssignments? (value : ValueReader) (t : Text) :
    Option (List (List Text × Value) × Text) := do
  let (a, rest) ← assignment? value t
  match rest with
  | '\x7d' :: rest' => return ([a], rest')
  | ',' :: rest' =>
    if rest'.length < t.length then
      let (more, rest'') ← inlineAssignments? value rest'
      return (a :: more, rest'')
    else none
  | _ => none
termination_by t.length

/-- A value that nests at most `depth` levels, and what follows it. -/
def value? : Nat → ValueReader
  | depth, t =>
    match depth, t with
    | _, '"' :: _ => (string? t).map fun (s, rest) => (.string s, rest)
    | _, '\'' :: _ => (string? t).map fun (s, rest) => (.string s, rest)
    | 0, '[' :: _ => none
    | depth + 1, '[' :: rest =>
      (arrayItems? (value? depth) rest).map fun (items, rest') => (.array items, rest')
    | 0, '\x7b' :: _ => none
    | depth + 1, '\x7b' :: rest =>
      match skipBlanks rest with
      | '\x7d' :: rest' => some (.table .inline [], rest')
      | _ => do
        let (assignments, rest') ← inlineAssignments? (value? depth) rest
        return (← inlineTable? assignments, rest')
    | _, _ => scalar? t

/-! ## Documents -/

/-- A line that begins with a bracket: a header. -/
def header? (t : Text) : Option (Statement × Text) :=
  match t with
  | '[' :: '[' :: rest => do
    let (path, rest) ← key? rest
    return (.element path, ← expect? ']' (← expect? ']' rest))
  | '[' :: rest => do
    let (path, rest) ← key? rest
    return (.header path, ← expect? ']' rest)
  | _ => none

/-- A line that says something, up to its end. -/
def statement? (t : Text) : Option (Statement × Text) := do
  let (s, rest) ← match t with
    | '[' :: _ => header? t
    | _ => (assignment? (value? maxDepth) t).map fun ((path, v), rest) => (.assign path v, rest)
  return (s, ← lineEnd? rest)

/-- The statements of a document. -/
def statements? (t : Text) : Option (List Statement) :=
  match skipFiller t with
  | [] => some []
  | t' => do
    let (s, rest) ← statement? t'
    if rest.length < t.length then return s :: (← statements? rest) else none
termination_by t.length

/-- What follows a byte order mark, if there is one. -/
def skipByteOrderMark : Text → Text
  | '\uFEFF' :: rest => rest
  | t => t

/-- The table that a document describes. -/
def parse? (t : Text) : Option Entries :=
  (statements? (skipByteOrderMark t)).bind ofStatements?

end SqlIndent.Toml
