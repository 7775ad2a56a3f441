import SqlIndent.Text.Basic

/-!
# TOML values

Tables remember how they came to be, because that decides what later lines may still add to them.
Floats and dates are kept as written: nothing here computes with them.
-/

namespace SqlIndent.Toml

/-- How a table came to be. -/
inductive TableOrigin where
  /-- Written in braces, and complete. -/
  | inline
  /-- Opened by a header of its own. -/
  | header
  /-- Named only on the way to the table of a longer header. -/
  | implied
  /-- Named only on the way to the last part of a dotted key. -/
  | dotted
deriving DecidableEq, Repr

/-- A TOML value. -/
inductive Value where
  | string (t : Text)
  | integer (n : Int)
  | float (written : Text)
  | boolean (b : Bool)
  | datetime (written : Text)
  | array (items : List Value)
  /-- An array whose elements are opened by double-bracket headers. -/
  | tables (elements : List (List (Text × Value)))
  | table (origin : TableOrigin) (entries : List (Text × Value))
deriving Repr

/-- The entries of a table, in the order in which they were written. -/
abbrev Entries := List (Text × Value)

namespace Value

/-- The truth value, for a boolean. -/
def bool? : Value → Option Bool
  | boolean b => some b
  | _ => none

/-- The number, for an integer that is not negative. -/
def nat? : Value → Option Nat
  | integer (.ofNat n) => some n
  | _ => none

/-- The text, for a string. -/
def text? : Value → Option Text
  | string t => some t
  | _ => none

/-- The elements, for an array of either form. -/
def items? : Value → Option (List Value)
  | array items => some items
  | tables elements => some (elements.map (table .header))
  | _ => none

/-- The texts, for an array of strings. -/
def texts? (v : Value) : Option (List Text) :=
  v.items?.bind (·.mapM text?)

/-- The values of the named fields of a record. A record is a table without other keys, or an array
of the fields in order, where fields may be missing at the end and further elements count for
nothing. -/
def fields? (names : List Text) : Value → Option (List (Option Value))
  | table _ entries =>
    if entries.all fun e => names.contains e.1 then some (names.map (List.lookup · entries)) else none
  | v => v.items?.map fun items => (List.range names.length).map (items[·]?)

end Value
end SqlIndent.Toml
