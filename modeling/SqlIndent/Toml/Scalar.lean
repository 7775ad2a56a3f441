import SqlIndent.Toml.Quoted
import SqlIndent.Toml.Value

/-!
# Unquoted TOML values

Truth values, integers, floats, dates and times are runs of letters, digits and a few signs. A run is
read as a whole: it is one of these values or none.
-/

namespace SqlIndent.Toml

/-- Decimal digits. -/
def isDigit (c : Char) : Bool :=
  '0' ≤ c && c ≤ '9'

/-- Letters, digits and the signs that occur in unquoted values. -/
def isScalarChar (c : Char) : Bool :=
  isDigit c || ('a' ≤ c && c ≤ 'z') || ('A' ≤ c && c ≤ 'Z') ||
    c == '_' || c == '+' || c == '-' || c == '.' || c == ':'

/-! ## Digits -/

/-- The values of a non-empty run of digits below `base`, where single underscores may stand between
digits. -/
def digits? (base : Nat) : Text → Option (List Nat)
  | [] => none
  | c :: rest => do
    let d ← hexValue? c
    if d < base then
      match rest with
      | [] => some [d]
      | '_' :: rest' => (digits? base rest').map (d :: ·)
      | rest => (digits? base rest).map (d :: ·)
    else none

/-- The number that digits stand for. -/
def ofDigits (base : Nat) (ds : List Nat) : Nat :=
  ds.foldl (fun n d => base * n + d) 0

/-- A run of decimal digits that starts with zero only if it is zero. -/
def decimal? (t : Text) : Option (List Nat) :=
  match digits? 10 t with
  | some (0 :: _ :: _) => none
  | ds => ds

/-! ## Integers -/

/-- Integers have 64 bits. -/
def inRange64 (n : Int) : Bool :=
  -(Nat.pow 2 63 : Int) ≤ n && n < Nat.pow 2 63

/-- An integer, without regard to its size. -/
def unboundedInteger? : Text → Option Int
  | '0' :: 'x' :: rest => (digits? 16 rest).map fun ds => ofDigits 16 ds
  | '0' :: 'o' :: rest => (digits? 8 rest).map fun ds => ofDigits 8 ds
  | '0' :: 'b' :: rest => (digits? 2 rest).map fun ds => ofDigits 2 ds
  | '+' :: rest => (decimal? rest).map fun ds => ofDigits 10 ds
  | '-' :: rest => (decimal? rest).map fun ds => -(ofDigits 10 ds : Int)
  | t => (decimal? t).map fun ds => ofDigits 10 ds

/-- An integer of 64 bits. -/
def integer? (t : Text) : Option Int :=
  (unboundedInteger? t).filter inRange64

/-! ## Floats -/

/-- Whether digits times a power of ten are too large for a double, that is, round to infinity. -/
def overflows (ds : List Nat) (exponent : Int) : Bool :=
  let m := ofDigits 10 ds
  let size : Int := (Nat.toDigits 10 m).length + exponent
  if m = 0 || size < 309 then false
  else if size > 310 then true
  else
    (Nat.pow 2 1024 - Nat.pow 2 970) * Nat.pow 10 (-exponent).toNat ≤ m * Nat.pow 10 exponent.toNat

/-- The exponent of a float, from its letter on; none is zero. -/
def exponent? : Text → Option Int
  | [] => some 0
  | e :: rest =>
    if e = 'e' ∨ e = 'E' then
      match rest with
      | '+' :: rest' => (digits? 10 rest').map fun ds => ofDigits 10 ds
      | '-' :: rest' => (digits? 10 rest').map fun ds => -(ofDigits 10 ds : Int)
      | _ => (digits? 10 rest).map fun ds => ofDigits 10 ds
    else none

/-- Digits and underscores. -/
def isNumeral (c : Char) : Bool :=
  isDigit c || c == '_'

/-- The digits and the exponent of a float without its sign. It has a fraction or an exponent or
both. -/
def unsignedFloat? (t : Text) : Option (List Nat × Int) := do
  let whole ← decimal? (t.takeWhile isNumeral)
  match t.dropWhile isNumeral with
  | '.' :: rest =>
    let fraction ← digits? 10 (rest.takeWhile isNumeral)
    let exponent ← exponent? (rest.dropWhile isNumeral)
    return (whole ++ fraction, exponent - fraction.length)
  | [] => none
  | rest => return (whole, ← exponent? rest)

/-- Whether a text without sign is infinity or not a number. -/
def isSpecialFloat (t : Text) : Bool :=
  t == ['i', 'n', 'f'] || t == ['n', 'a', 'n']

/-- Whether a run is a float. A positive number too large for a double is none. -/
def isFloat : Text → Bool
  | '-' :: rest => isSpecialFloat rest || (unsignedFloat? rest).isSome
  | t =>
    let rest := match t with
      | '+' :: rest => rest
      | rest => rest
    isSpecialFloat rest || (unsignedFloat? rest).any fun (ds, e) => !overflows ds e

/-! ## Dates and times -/

/-- A number of exactly `count` decimal digits, and what follows it. -/
def fixedDigits? (count : Nat) (t : Text) : Option (Nat × Text) :=
  let ds := t.take count
  if ds.length = count ∧ ds.all isDigit then
    some (ofDigits 10 (ds.map fun c => c.toNat - '0'.toNat), t.drop count)
  else none

/-- What follows an expected character. -/
def expect? (c : Char) : Text → Option Text
  | d :: rest => if d = c then some rest else none
  | [] => none

/-- The number of days of a month. -/
def daysInMonth (year month : Nat) : Nat :=
  if month = 2 then
    if year % 4 = 0 ∧ (year % 100 ≠ 0 ∨ year % 400 = 0) then 29 else 28
  else if month = 4 ∨ month = 6 ∨ month = 9 ∨ month = 11 then 30
  else 31

/-- What follows a date. -/
def date? (t : Text) : Option Text := do
  let (year, t) ← fixedDigits? 4 t
  let (month, t) ← fixedDigits? 2 (← expect? '-' t)
  let (day, t) ← fixedDigits? 2 (← expect? '-' t)
  if 1 ≤ month ∧ month ≤ 12 ∧ 1 ≤ day ∧ day ≤ daysInMonth year month then some t else none

/-- What follows hours and minutes. -/
def hoursMinutes? (t : Text) : Option Text := do
  let (hour, t) ← fixedDigits? 2 t
  let (minute, t) ← fixedDigits? 2 (← expect? ':' t)
  if hour ≤ 23 ∧ minute ≤ 59 then some t else none

/-- What follows a time of day, with or without a fraction of a second. -/
def time? (t : Text) : Option Text := do
  let (second, t) ← fixedDigits? 2 (← expect? ':' (← hoursMinutes? t))
  if second ≤ 60 then
    match t with
    | '.' :: d :: rest => if isDigit d then some (rest.dropWhile isDigit) else none
    | ['.'] => none
    | t => some t
  else none

/-- Whether a text is a distance from universal time, or empty. -/
def isOffset : Text → Bool
  | [] => true
  | ['Z'] => true
  | ['z'] => true
  | c :: rest => (c == '+' || c == '-') && hoursMinutes? rest == some []

/-- Characters that may stand between a date and a time. -/
def isDateTimeSeparator (c : Char) : Bool :=
  c == 'T' || c == 't' || c == ' '

/-- Whether a text is a date, a time, or both. Only both together may have an offset. -/
def isDateTime (t : Text) : Bool :=
  match date? t with
  | some [] => true
  | some (c :: rest) => isDateTimeSeparator c && (time? rest).any isOffset
  | none => time? t == some []

/-! ## Runs -/

/-- The run of characters that an unquoted value may consist of, and what follows it. A space
belongs to the run where it parts a date from a time. -/
def scalarRun (t : Text) : Text × Text :=
  let run := t.takeWhile isScalarChar
  let rest := t.dropWhile isScalarChar
  match rest with
  | ' ' :: d :: rest' =>
    if date? run == some [] && isDigit d then
      (run ++ ' ' :: (d :: rest').takeWhile isScalarChar, (d :: rest').dropWhile isScalarChar)
    else (run, rest)
  | _ => (run, rest)

/-- The value of a run. -/
def ofRun? (run : Text) : Option Value :=
  if run = ['t', 'r', 'u', 'e'] then some (.boolean true)
  else if run = ['f', 'a', 'l', 's', 'e'] then some (.boolean false)
  else if isDateTime run then some (.datetime run)
  else if isFloat run then some (.float run)
  else (integer? run).map .integer

/-- An unquoted value, and what follows it. -/
def scalar? (t : Text) : Option (Value × Text) :=
  (ofRun? (scalarRun t).1).map (·, (scalarRun t).2)

end SqlIndent.Toml
