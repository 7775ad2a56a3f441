import SqlIndent.Toml.Filler

/-!
# TOML strings

A string has one of four forms: between quotation marks with escapes, between apostrophes as it
stands, and each of these over several lines between tripled marks. Inside the forms over several
lines a line end is a line feed, the one right after the opening marks is dropped, and up to two
marks may stand right before the closing three.
-/

namespace SqlIndent.Toml

/-- The value of a hexadecimal digit. -/
def hexValue? (c : Char) : Option Nat :=
  if '0' ≤ c ∧ c ≤ '9' then some (c.toNat - '0'.toNat)
  else if 'a' ≤ c ∧ c ≤ 'f' then some (c.toNat - 'a'.toNat + 10)
  else if 'A' ≤ c ∧ c ≤ 'F' then some (c.toNat - 'A'.toNat + 10)
  else none

/-- The character whose code point is written in exactly `count` hexadecimal digits. -/
def codePoint? (count : Nat) (t : Text) : Option (Char × Text) := do
  let digits ← (t.take count).mapM hexValue?
  let n := digits.foldl (fun n d => 16 * n + d) 0
  if digits.length = count ∧ n.isValidChar then some (Char.ofNat n, t.drop count) else none

/-- The character that an escape stands for; the backslash is already read. -/
def escape? : Text → Option (Char × Text)
  | 'b' :: rest => some ('\x08', rest)
  | 't' :: rest => some ('\t', rest)
  | 'n' :: rest => some ('\n', rest)
  | 'f' :: rest => some ('\x0c', rest)
  | 'r' :: rest => some ('\r', rest)
  | '"' :: rest => some ('"', rest)
  | '\\' :: rest => some ('\\', rest)
  | 'u' :: rest => codePoint? 4 rest
  | 'U' :: rest => codePoint? 8 rest
  | _ => none

theorem codePoint?_length {count : Nat} {t rest : Text} {c : Char}
    (h : codePoint? count t = some (c, rest)) : rest.length ≤ t.length := by
  simp only [codePoint?, Option.bind_eq_bind, Option.bind_eq_some_iff] at h
  obtain ⟨_, _, h⟩ := h
  split at h
  · obtain ⟨_, rfl⟩ := Prod.mk.inj (Option.some.inj h)
    simp
  · simp at h

theorem escape?_length {t rest : Text} {c : Char} (h : escape? t = some (c, rest)) :
    rest.length < t.length := by
  unfold escape? at h
  split at h
  case h_8 | h_9 => exact Nat.lt_succ_of_le (codePoint?_length h)
  case h_10 => simp at h
  all_goals
    obtain ⟨_, rfl⟩ := Prod.mk.inj (Option.some.inj h)
    simp

/-- Puts a character in front of a text that was read. -/
def consRead (c : Char) (r : Text × Text) : Text × Text :=
  (c :: r.1, r.2)

/-- The rest of a string between quotation marks, and what follows it. -/
def basicRest : Text → Option (Text × Text)
  | [] => none
  | '"' :: rest => some ([], rest)
  | '\\' :: rest =>
    match _h : escape? rest with
    | some (c, rest') => (basicRest rest').map (consRead c)
    | none => none
  | c :: rest => if isPlain c then (basicRest rest).map (consRead c) else none
termination_by t => t.length
decreasing_by
  · have := escape?_length _h
    simp only [List.length_cons]
    omega
  · simp

/-- The rest of a string between apostrophes, and what follows it. -/
def literalRest : Text → Option (Text × Text)
  | [] => none
  | '\'' :: rest => some ([], rest)
  | c :: rest => if isPlain c then (literalRest rest).map (consRead c) else none

/-- The marks right after the closing three: up to two of them belong to the string. -/
def closingMarks (mark : Char) (t : Text) : Text × Text :=
  let marks := (t.take 2).takeWhile (· == mark)
  (marks, t.drop marks.length)

/-- What follows a line end at the beginning of a text, if there is one. -/
def skipNewline (t : Text) : Text :=
  (newline? t).getD t

theorem newline?_length {t rest : Text} (h : newline? t = some rest) : rest.length < t.length := by
  unfold newline? at h
  split at h
  · obtain rfl := Option.some.inj h
    simp
  · obtain rfl := Option.some.inj h
    simp only [List.length_cons]
    omega
  · simp at h

/-- The rest of a string between tripled quotation marks, and what follows it. A backslash at the
end of a line drops the blanks and line ends up to the next other character. -/
def multilineBasicRest : Text → Option (Text × Text)
  | [] => none
  | '"' :: '"' :: '"' :: rest => some (closingMarks '"' rest)
  | '"' :: rest => (multilineBasicRest rest).map (consRead '"')
  | '\\' :: rest =>
    match _hn : newline? (skipBlanks rest) with
    | some rest' => multilineBasicRest (skipBlankLines rest')
    | none =>
      match _he : escape? rest with
      | some (c, rest') => (multilineBasicRest rest').map (consRead c)
      | none => none
  | '\r' :: '\n' :: rest => (multilineBasicRest rest).map (consRead '\n')
  | '\n' :: rest => (multilineBasicRest rest).map (consRead '\n')
  | c :: rest => if isPlain c then (multilineBasicRest rest).map (consRead c) else none
termination_by t => t.length
decreasing_by
  · simp
  · have h1 := newline?_length _hn
    have h2 := length_skipBlankLines_le rest'
    have h3 := (List.dropWhile_suffix isTab (l := rest)).length_le
    simp only [skipBlanks] at h1
    simp only [List.length_cons]
    omega
  · have := escape?_length _he
    simp only [List.length_cons]
    omega
  · simp only [List.length_cons]
    omega
  · simp
  · simp

/-- The rest of a string between tripled apostrophes, and what follows it. -/
def multilineLiteralRest : Text → Option (Text × Text)
  | [] => none
  | '\'' :: '\'' :: '\'' :: rest => some (closingMarks '\'' rest)
  | '\r' :: '\n' :: rest => (multilineLiteralRest rest).map (consRead '\n')
  | '\n' :: rest => (multilineLiteralRest rest).map (consRead '\n')
  | c :: rest => if isPlain c then (multilineLiteralRest rest).map (consRead c) else none

/-- A string of one of the forms that stay on one line. -/
def lineString? : Text → Option (Text × Text)
  | '"' :: rest => basicRest rest
  | '\'' :: rest => literalRest rest
  | _ => none

/-- A string of any form. -/
def string? : Text → Option (Text × Text)
  | '"' :: '"' :: '"' :: rest => multilineBasicRest (skipNewline rest)
  | '\'' :: '\'' :: '\'' :: rest => multilineLiteralRest (skipNewline rest)
  | t => lineString? t

end SqlIndent.Toml
