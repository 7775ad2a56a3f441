import SqlIndent.Toml.Value

/-!
# Building TOML tables

A document names tables by headers and by dotted keys. What a line may add to a table depends on how
the table came to be: a table with a header is not opened again, a table made by dotted keys gets no
header, and a table in braces gets nothing more.
-/

namespace SqlIndent.Toml

/-- Gives a key a new value, computed from its value so far; a new key comes last. -/
def alter (key : Text) (f : Option Value → Option Value) : Entries → Option Entries
  | [] => (f none).map fun v => [(key, v)]
  | (k, v) :: rest =>
    if k = key then (f (some v)).map fun v' => (k, v') :: rest
    else (alter key f rest).map ((k, v) :: ·)

/-- Changes the last element of a list. -/
def alterLast (f : Entries → Option Entries) : List Entries → Option (List Entries)
  | [] => none
  | [es] => (f es).map ([·])
  | es :: rest => (alterLast f rest).map (es :: ·)

/-- Adds a value under a dotted key. On the way to the last part, tables made by dotted keys may be
extended; tables that are only implied by headers, and the last element of an array of tables, may
only be passed through. -/
def insertDotted (v : Value) : List Text → Entries → Option Entries
  | [], _ => none
  | [key], es =>
    alter key (fun
      | none => some v
      | some _ => none) es
  | key :: next :: more, es =>
    alter key (fun
      | none => (insertDotted v (next :: more) []).map (.table .dotted)
      | some (.table .dotted inner) =>
        (insertDotted v (next :: more) inner).map (.table .dotted)
      | some (.table .implied inner) =>
        if more.isEmpty then none
        else (insertDotted v (next :: more) inner).map (.table .implied)
      | some (.tables elements) =>
        if more.isEmpty then none
        else (alterLast (insertDotted v (next :: more)) elements).map .tables
      | some _ => none) es

/-- Goes down along a header, naming tables on the way where there are none, and gives the last part
a new value. Of an array of tables the last element is meant. -/
def alterHeader (f : Option Value → Option Value) : List Text → Entries → Option Entries
  | [], _ => none
  | [key], es => alter key f es
  | key :: next :: more, es =>
    alter key (fun
      | none => (alterHeader f (next :: more) []).map (.table .implied)
      | some (.table .inline _) => none
      | some (.table origin inner) => (alterHeader f (next :: more) inner).map (.table origin)
      | some (.tables elements) => (alterLast (alterHeader f (next :: more)) elements).map .tables
      | some _ => none) es

/-- Opens the table of a header: a new one, or one that was only implied so far. -/
def openTable : Option Value → Option Value
  | none => some (.table .header [])
  | some (.table .implied inner) => some (.table .header inner)
  | some _ => none

/-- Opens a new element of an array of tables. -/
def openElement : Option Value → Option Value
  | none => some (.tables [[]])
  | some (.tables elements) => some (.tables (elements ++ [[]]))
  | some _ => none

/-- Changes the table to which an opened header leads. -/
def within (f : Entries → Option Entries) : List Text → Entries → Option Entries
  | [], es => f es
  | path, es =>
    alterHeader (fun
      | some (.table origin inner) => (f inner).map (.table origin)
      | some (.tables elements) => (alterLast f elements).map .tables
      | _ => none) path es

/-- A line of a document that says something. -/
inductive Statement where
  /-- `[path]` -/
  | header (path : List Text)
  /-- `[[path]]` -/
  | element (path : List Text)
  /-- `path = value` -/
  | assign (path : List Text) (value : Value)
deriving Repr

/-- A document under construction. -/
structure Building where
  root : Entries := []
  /-- The path of the last header. -/
  current : List Text := []

/-- Adds a line. -/
def Building.add (b : Building) : Statement → Option Building
  | .header path => (alterHeader openTable path b.root).map ({ root := ·, current := path })
  | .element path => (alterHeader openElement path b.root).map ({ root := ·, current := path })
  | .assign path v => (within (insertDotted v path) b.current b.root).map ({ b with root := · })

/-- The table that the lines of a document describe. -/
def ofStatements? (lines : List Statement) : Option Entries :=
  (lines.foldlM Building.add {}).map Building.root

/-- The table in braces that assignments describe. -/
def inlineTable? (assignments : List (List Text × Value)) : Option Value :=
  (assignments.foldlM (fun es (path, v) => insertDotted v path es) []).map (.table .inline)

end SqlIndent.Toml
