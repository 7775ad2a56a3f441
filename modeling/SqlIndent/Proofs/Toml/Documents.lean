import Mathlib.Data.List.TakeWhile
import SqlIndent.Proofs.Toml.Strings
import SqlIndent.Toml.Parser

/-!
# Reading written documents

A written document is a list of lines: headers, and assignments of truth values, numbers and arrays
of strings. Each line is read as the statement it was written for, and the reader goes on right
after it. Numbers need some care, because dates, times and floats are tried before integers.
-/

namespace SqlIndent.Toml

/-! ## Blanks and line ends -/

/-- Characters with which blanks, line ends and comments start. -/
def isFillerChar (c : Char) : Bool :=
  [' ', '\t', '\n', '\r', '#'].contains c

lemma skipBlankLines_cons {c : Char} (h : isFillerChar c = false) (t : Text) :
    skipBlankLines (c :: t) = c :: t := by
  unfold skipBlankLines
  split <;> simp_all [isFillerChar]

/-- What is neither a blank nor a comment is not skipped. -/
lemma skipFiller_cons {c : Char} (h : isFillerChar c = false) (t : Text) :
    skipFiller (c :: t) = c :: t := by
  rw [skipFiller, skipBlankLines_cons h]
  split
  next heq =>
    rw [List.cons.injEq] at heq
    exact absurd h (by rw [heq.1]; decide)
  · rfl

/-- Spaces and line feeds are skipped. -/
lemma skipFiller_blank_cons {b c : Char} (hb : b = ' ' ∨ b = '\n') (h : isFillerChar c = false)
    (t : Text) : skipFiller (b :: c :: t) = c :: t := by
  have hskip : skipBlankLines (b :: c :: t) = c :: t := by
    rcases hb with rfl | rfl
    · rw [skipBlankLines, skipBlankLines_cons h]
    · rw [skipBlankLines, skipBlankLines_cons h]
  rw [skipFiller, hskip]
  split
  next heq =>
    rw [List.cons.injEq] at heq
    exact absurd h (by rw [heq.1]; decide)
  · rfl

lemma isTab_eq_false_of_not_isFillerChar {c : Char} (h : isFillerChar c = false) :
    isTab c = false := by
  simp only [isFillerChar, List.contains_eq_mem, decide_eq_false_iff_not, List.mem_cons,
    not_or] at h
  simp [isTab, h.1, h.2.1]

lemma skipBlanks_cons {c : Char} (h : isTab c = false) (t : Text) :
    skipBlanks (c :: t) = c :: t := by
  simp [skipBlanks, h]

lemma skipBlanks_space_cons {c : Char} (h : isTab c = false) (t : Text) :
    skipBlanks (' ' :: c :: t) = c :: t := by
  simp [skipBlanks, h, show isTab ' ' = true by decide]

lemma lineEnd?_lineFeed (rest : Text) : lineEnd? ('\n' :: rest) = some rest := by
  rw [lineEnd?, skipBlanks_cons (by decide)]
  rfl

/-- A run of characters of a class ends right before a character out of it. -/
lemma takeWhile_dropWhile_run {p : Char → Bool} {run : Text} {c : Char}
    (hrun : ∀ x ∈ run, p x = true) (hc : p c = false) (rest : Text) :
    (run ++ c :: rest).takeWhile p = run ∧ (run ++ c :: rest).dropWhile p = c :: rest := by
  have hstop : ¬ p c = true := by simp [hc]
  constructor
  · rw [List.takeWhile_append_of_pos hrun, List.takeWhile_cons_of_neg hstop, List.append_nil]
  · rw [List.dropWhile_append_of_pos hrun, List.dropWhile_cons_of_neg hstop]

/-! ## Unquoted values -/

/-- A run before a character that belongs to no unquoted value, and that does not part a date from a
time, is read as a whole. -/
lemma scalar?_run {run : Text} {v : Value} (hrun : ∀ c ∈ run, isScalarChar c = true)
    (hv : ofRun? run = some v) (rest : Text) :
    scalar? (run ++ '\n' :: rest) = some (v, '\n' :: rest) := by
  have hstop : isScalarChar '\n' = false := by decide
  obtain ⟨htake, hdrop⟩ := takeWhile_dropWhile_run hrun hstop rest
  have hscalar : scalarRun (run ++ '\n' :: rest) = (run, '\n' :: rest) := by
    rw [scalarRun, htake, hdrop]
    split
    next heq => simp at heq
    · rfl
  rw [scalar?, hscalar, hv]
  rfl

lemma ofRun?_writeBool (b : Bool) : ofRun? (writeBool b) = some (.boolean b) := by
  cases b <;> rfl

/-! ### Decimal digits -/

section Digits

variable {ds : Text} (hds : ∀ c ∈ ds, isDigit c = true)

/-- The value of a decimal digit. -/
def digitValue (c : Char) : Nat :=
  c.toNat - '0'.toNat

lemma hexValue?_of_isDigit {c : Char} (h : isDigit c = true) :
    hexValue? c = some (digitValue c) := by
  simp only [isDigit, Bool.and_eq_true, decide_eq_true_eq] at h
  rw [hexValue?, if_pos h, digitValue]

lemma isDigit_iff {c : Char} : isDigit c = true ↔ 48 ≤ c.toNat ∧ c.toNat ≤ 57 := by
  simp only [isDigit, Bool.and_eq_true, decide_eq_true_eq, Char.le_def, UInt32.le_iff_toNat_le]
  rfl

lemma digitValue_lt {c : Char} (h : isDigit c = true) : digitValue c < 10 := by
  rw [isDigit_iff] at h
  have hzero : '0'.toNat = 48 := by decide
  rw [digitValue]
  omega

lemma eq_zero_of_digitValue {c : Char} (h : isDigit c = true) (hc : digitValue c = 0) :
    c = '0' := by
  rw [isDigit_iff] at h
  have hzero : '0'.toNat = 48 := by decide
  rw [digitValue] at hc
  apply Char.toNat_inj.1
  omega

/-- A decimal digit is none of the other characters of unquoted values. -/
lemma ne_of_isDigit {c d : Char} (hc : isDigit c = true) (hd : isDigit d = false) : c ≠ d := by
  rintro rfl
  rw [hc] at hd
  exact absurd hd (by decide)

include hds

lemma digits?_of_isDigit (hne : ds ≠ []) : digits? 10 ds = some (ds.map digitValue) := by
  induction ds with
  | nil => exact absurd rfl hne
  | cons c ds ih =>
    have hc := hds c (by simp)
    have hrest : ∀ x ∈ ds, isDigit x = true := fun x hx => hds x (by simp [hx])
    rw [digits?, hexValue?_of_isDigit hc]
    simp only [Option.bind_eq_bind, Option.bind_some, if_pos (digitValue_lt hc)]
    cases ds with
    | nil => rfl
    | cons d ds =>
      have hd : d ≠ '_' := ne_of_isDigit (hrest d (by simp)) (by decide)
      split
      next heq => simp at heq
      next heq => simp [hd] at heq
      · rw [ih hrest (by simp)]
        rfl

lemma expect?_of_isDigit {c : Char} (hc : isDigit c = false) : expect? c ds = none := by
  cases ds with
  | nil => rfl
  | cons d ds =>
    have hd : d ≠ c := ne_of_isDigit (hds d (by simp)) hc
    rw [expect?, if_neg hd]

omit hds in
/-- A field of fixed length takes just that many characters. -/
lemma fixedDigits?_eq_some {count n : Nat} {t rest : Text}
    (h : fixedDigits? count t = some (n, rest)) : rest = t.drop count := by
  simp only [fixedDigits?] at h
  split at h
  · rw [Option.some.injEq, Prod.mk.injEq] at h
    exact h.2.symm
  · simp at h

/-- Digits alone are no date: the first hyphen is missing. -/
lemma date?_of_isDigit : date? ds = none := by
  rw [date?, Option.bind_eq_bind, Option.bind_eq_none_iff]
  rintro ⟨year, rest⟩ hyear
  have hrest : ∀ c ∈ rest, isDigit c = true := by
    rw [fixedDigits?_eq_some hyear]
    exact fun c hc => hds c (List.mem_of_mem_drop hc)
  simp [expect?_of_isDigit hrest (show isDigit '-' = false by decide)]

/-- Digits alone are no time: the first colon is missing. -/
lemma time?_of_isDigit : time? ds = none := by
  have hhours : hoursMinutes? ds = none := by
    rw [hoursMinutes?, Option.bind_eq_bind, Option.bind_eq_none_iff]
    rintro ⟨hour, rest⟩ hhour
    have hrest : ∀ c ∈ rest, isDigit c = true := by
      rw [fixedDigits?_eq_some hhour]
      exact fun c hc => hds c (List.mem_of_mem_drop hc)
    simp [expect?_of_isDigit hrest (show isDigit ':' = false by decide)]
  simp [time?, hhours]

/-- A run of digits is no date and no time: both need marks between their fields. -/
lemma isDateTime_of_isDigit : isDateTime ds = false := by
  rw [isDateTime, date?_of_isDigit hds, time?_of_isDigit hds]
  rfl

/-- Digits alone are no float: the fraction and the exponent are missing. -/
lemma unsignedFloat?_of_isDigit : unsignedFloat? ds = none := by
  have hdrop : ds.dropWhile isNumeral = [] := by
    rw [List.dropWhile_eq_nil_iff]
    intro c hc
    simp [isNumeral, hds c hc]
  rw [unsignedFloat?, Option.bind_eq_bind, Option.bind_eq_none_iff]
  intro whole _
  simp [hdrop]

/-- A run of digits is no floating-point number: a point or an exponent is missing. -/
lemma isFloat_of_isDigit : isFloat ds = false := by
  have hfloat := unsignedFloat?_of_isDigit hds
  have hspecial : isSpecialFloat ds = false := by
    cases ds with
    | nil => rfl
    | cons c ds =>
      have hi : c ≠ 'i' := ne_of_isDigit (hds c (by simp)) (by decide)
      have hn : c ≠ 'n' := ne_of_isDigit (hds c (by simp)) (by decide)
      simp [isSpecialFloat, hi, hn]
  unfold isFloat
  split
  next rest =>
    exact absurd (hds '-' (by simp)) (by decide)
  · split
    next rest =>
      exact absurd (hds '+' (by simp)) (by decide)
    · simp [hspecial, hfloat]

/-- Digits alone have neither a sign nor a base. -/
lemma unboundedInteger?_of_isDigit :
    unboundedInteger? ds = (decimal? ds).map fun values => (ofDigits 10 values : Int) := by
  have hnot : ∀ c ∈ ds, ∀ d : Char, isDigit d = false → c ≠ d := fun c hc d hd =>
    ne_of_isDigit (hds c hc) hd
  rw [unboundedInteger?.eq_6]
  · rintro rest rfl
    exact hnot 'x' (by simp) 'x' (by decide) rfl
  · rintro rest rfl
    exact hnot 'o' (by simp) 'o' (by decide) rfl
  · rintro rest rfl
    exact hnot 'b' (by simp) 'b' (by decide) rfl
  · rintro rest rfl
    exact hnot '+' (by simp) '+' (by decide) rfl
  · rintro rest rfl
    exact hnot '-' (by simp) '-' (by decide) rfl

end Digits

lemma isDigit_of_mem_toDigits {n : Nat} {c : Char} (h : c ∈ Nat.toDigits 10 n) : isDigit c = true :=
  Nat.isDigit_of_mem_toDigits (by decide) (by decide) h

/-- Only zero is written with a zero in front. -/
lemma head?_toDigits {n : Nat} (hn : 0 < n) : (Nat.toDigits 10 n).head? ≠ some '0' := by
  induction n using Nat.strongRecOn with
  | ind n ih =>
    by_cases hsmall : n < 10
    · rw [Nat.toDigits_of_lt_base hsmall]
      have htable : ∀ m < 10, 0 < m → [Nat.digitChar m].head? ≠ some '0' := by decide
      exact htable n hsmall hn
    · rw [Nat.toDigits_of_base_le (by decide) (by omega), List.head?_append]
      have hhead := ih (n / 10) (by omega) (by omega)
      cases h : (Nat.toDigits 10 (n / 10)).head? with
      | none => exact absurd (List.head?_eq_none_iff.1 h) Nat.toDigits_ne_nil
      | some c =>
        rw [h] at hhead
        simpa using hhead

/-- The digits of a number, having no needless zero in front, are read as decimal digits. -/
lemma decimal?_toDigits (n : Nat) :
    decimal? (Nat.toDigits 10 n) = some ((Nat.toDigits 10 n).map digitValue) := by
  have hdigits := digits?_of_isDigit (fun c => isDigit_of_mem_toDigits) (@Nat.toDigits_ne_nil n 10)
  rw [decimal?, hdigits]
  split
  next heq =>
    -- a zero in front of other digits
    rw [Option.some.injEq, List.map_eq_cons_iff] at heq
    obtain ⟨c, rest, hcons, hc, hrest⟩ := heq
    have hmem : c ∈ Nat.toDigits 10 n := by simp [hcons]
    have hzero : c = '0' := eq_zero_of_digitValue (isDigit_of_mem_toDigits hmem) hc
    have hpos : 0 < n := by
      by_contra hn
      obtain rfl : n = 0 := by omega
      rw [Nat.toDigits_zero, List.cons.injEq] at hcons
      simp [← hcons.2] at hrest
    exact absurd (by rw [hcons, hzero]; rfl) (head?_toDigits hpos)
  · rfl

/-- **Numbers are read back.** -/
lemma ofRun?_toDigits {n : Nat} (hn : n < Nat.pow 2 63) :
    ofRun? (Nat.toDigits 10 n) = some (.integer n) := by
  have hdigit : ∀ c ∈ Nat.toDigits 10 n, isDigit c = true := fun c => isDigit_of_mem_toDigits
  have hvalue : ofDigits 10 ((Nat.toDigits 10 n).map digitValue) = n := by
    rw [ofDigits, List.foldl_map]
    exact Nat.ofDigitChars_ten_toDigits
  have hnot : ∀ c u, isDigit c = false → Nat.toDigits 10 n ≠ c :: u := by
    intro c u hc heq
    exact absurd (hdigit c (by simp [heq])) (by simp [hc])
  have hrange : inRange64 (n : Int) = true := by
    simp only [inRange64, Bool.and_eq_true, decide_eq_true_eq]
    omega
  rw [ofRun?, if_neg (hnot 't' _ (by decide)), if_neg (hnot 'f' _ (by decide)),
    isDateTime_of_isDigit hdigit, isFloat_of_isDigit hdigit, integer?,
    unboundedInteger?_of_isDigit hdigit, decimal?_toDigits, Option.map_some, hvalue,
    Option.filter_some, hrange]
  rfl

/-! ## Values -/

lemma isScalarChar_of_isDigit {c : Char} (h : isDigit c = true) : isScalarChar c = true := by
  simp [isScalarChar, h]

/-- A value that starts with none of the marks of strings, arrays and tables is unquoted. -/
lemma value?_scalar {depth : Nat} {c : Char} (h : isScalarChar c = true) (t : Text) :
    value? depth (c :: t) = scalar? (c :: t) := by
  have hnot : ∀ d : Char, isScalarChar d = false → c ≠ d := by
    rintro d hd rfl
    rw [h] at hd
    exact absurd hd (by decide)
  unfold value?
  split
  case h_7 => rfl
  all_goals
    rename_i heq
    exact absurd (List.cons.inj heq).1 (hnot _ (by decide))

/-- What is read for a written truth value. -/
lemma value?_writeBool (depth : Nat) (b : Bool) (rest : Text) :
    value? depth (writeBool b ++ '\n' :: rest) = some (.boolean b, '\n' :: rest) := by
  have hrun : ∀ c ∈ writeBool b, isScalarChar c = true := by
    apply List.all_eq_true.1
    cases b <;> rfl
  have hread := scalar?_run hrun (ofRun?_writeBool b) rest
  cases b with
  | true => exact (value?_scalar (by decide) _).trans hread
  | false => exact (value?_scalar (by decide) _).trans hread

/-- What is read for a written number. -/
lemma value?_toDigits (depth : Nat) {n : Nat} (hn : n < Nat.pow 2 63) (rest : Text) :
    value? depth (Nat.toDigits 10 n ++ '\n' :: rest) = some (.integer n, '\n' :: rest) := by
  have hrun : ∀ c ∈ Nat.toDigits 10 n, isScalarChar c = true := fun c hc =>
    isScalarChar_of_isDigit (isDigit_of_mem_toDigits hc)
  have hread := scalar?_run hrun (ofRun?_toDigits hn) rest
  obtain ⟨c, t, hcons⟩ := List.exists_cons_of_ne_nil (@Nat.toDigits_ne_nil n 10)
  rw [hcons] at hrun hread ⊢
  rw [List.cons_append, value?_scalar (hrun c (by simp))]
  exact hread

/-! ### Arrays of strings -/

/-- A written string starts with one of the two marks. -/
lemma exists_cons_writeString (t : Text) :
    ∃ mark u, writeString t = mark :: u ∧ (mark = '"' ∨ mark = '\'') := by
  unfold writeString
  split
  · exact ⟨'"', _, rfl, Or.inl rfl⟩
  · exact ⟨'\'', _, rfl, Or.inr rfl⟩
  · exact ⟨'"', _, rfl, Or.inl rfl⟩
  · exact ⟨'\'', _, rfl, Or.inr rfl⟩

/-- What is read for a written string, where no further mark follows. -/
lemma value?_writeString (depth : Nat) (t : Text) {c : Char} (hquote : c ≠ '"') (hmark : c ≠ '\'')
    (rest : Text) : value? depth (writeString t ++ c :: rest) = some (.string t, c :: rest) := by
  have hread := @string?_writeString (c :: rest) (by simpa using hquote) (by simpa using hmark) t
  obtain ⟨mark, u, hcons, rfl | rfl⟩ := exists_cons_writeString t
  · rw [hcons, List.cons_append, value?, ← List.cons_append, ← hcons, hread]
    rfl
  · rw [hcons, List.cons_append, value?, ← List.cons_append, ← hcons, hread]
    rfl

section Arrays

variable {value : ValueReader} {t u rest after : Text} {v : Value}

lemma arrayItems?_nil (hskip : skipFiller t = ']' :: rest) :
    arrayItems? value t = some ([], rest) := by
  rw [arrayItems?, hskip]
  rfl

/-- The last element of an array. -/
lemma arrayItems?_last (hskip : skipFiller t = u) (hstart : u.head? ≠ some ']')
    (hvalue : value u = some (v, rest)) (hafter : skipFiller rest = ']' :: after) :
    arrayItems? value t = some ([v], after) := by
  rw [arrayItems?, hskip]
  split
  · simp at hstart
  · simp [hvalue, hafter]

/-- An element of an array with a comma after it. -/
lemma arrayItems?_more (hskip : skipFiller t = u) (hstart : u.head? ≠ some ']')
    (hvalue : value u = some (v, rest)) (hafter : skipFiller rest = ',' :: after)
    (hlength : after.length < t.length) :
    arrayItems? value t = (arrayItems? value after).map fun r => (v :: r.1, r.2) := by
  rw [arrayItems?, hskip]
  split
  · simp at hstart
  · simp only [hvalue, hafter, Option.bind_eq_bind, Option.bind_some, if_pos hlength]
    cases arrayItems? value after <;> rfl

end Arrays

/-- A space before a written string is skipped, and nothing else. -/
lemma skipFiller_writeString {lead : Text} (hlead : lead = [] ∨ lead = [' ']) (t rest : Text) :
    skipFiller (lead ++ (writeString t ++ rest)) = writeString t ++ rest := by
  obtain ⟨mark, u, hcons, hmark⟩ := exists_cons_writeString t
  have hstart : isFillerChar mark = false := by
    rcases hmark with rfl | rfl <;> decide
  rw [hcons, List.cons_append]
  rcases hlead with rfl | rfl
  · exact skipFiller_cons hstart _
  · exact skipFiller_blank_cons (Or.inl rfl) hstart _

/-- A written string does not begin like the end of an array. -/
lemma head?_writeString_append (t rest : Text) : (writeString t ++ rest).head? ≠ some ']' := by
  obtain ⟨mark, u, hcons, rfl | rfl⟩ := exists_cons_writeString t <;> simp [hcons]

/-- The elements of an array are read back, also after the space that follows a comma. -/
lemma arrayItems?_writeString (depth : Nat) (ts : List Text) (rest : Text) (t : Text) {lead : Text}
    (hlead : lead = [] ∨ lead = [' ']) :
    arrayItems? (value? depth)
        (lead ++ (Text.joinWith [',', ' '] ((t :: ts).map writeString) ++ ']' :: rest)) =
      some ((t :: ts).map .string, rest) := by
  induction ts generalizing t lead with
  | nil =>
    exact arrayItems?_last (skipFiller_writeString hlead t _) (head?_writeString_append t _)
      (value?_writeString depth t (by decide) (by decide) rest) (skipFiller_cons (by decide) rest)
  | cons u us ih =>
    -- the rest starts with the space after the comma, which is why `lead` is kept general
    have hjoin : Text.joinWith [',', ' '] ((t :: u :: us).map writeString) ++ ']' :: rest =
        writeString t ++ ',' ::
          ([' '] ++ (Text.joinWith [',', ' '] ((u :: us).map writeString) ++ ']' :: rest)) := by
      simp [Text.joinWith]
    rw [hjoin, arrayItems?_more (skipFiller_writeString hlead t _) (head?_writeString_append t _)
      (value?_writeString depth t (by decide) (by decide) _) (skipFiller_cons (by decide) _)
      (by simp only [List.length_append, List.length_cons]; omega), ih u (Or.inr rfl)]
    rfl

/-- What is read for a written array. -/
lemma value?_writeStrings (depth : Nat) (ts : List Text) (rest : Text) :
    value? (depth + 1) (writeStrings ts ++ rest) = some (.array (ts.map .string), rest) := by
  have hitems : arrayItems? (value? depth)
      (Text.joinWith [',', ' '] (ts.map writeString) ++ ']' :: rest) =
        some (ts.map .string, rest) := by
    cases ts with
    | nil => exact arrayItems?_nil (skipFiller_cons (by decide) rest)
    | cons t ts => exact arrayItems?_writeString depth ts rest t (Or.inl rfl)
  rw [writeStrings, List.cons_append, value?, List.append_assoc, List.singleton_append, hitems]
  rfl

/-! ## Lines -/

/-- A text that stands for a value on a line of a document: it starts with no blank, and it is read
back up to the end of the line. -/
structure IsWritten (written : Text) (v : Value) : Prop where
  isTab_head? : ∀ c ∈ written.head?, isTab c = false
  read : ∀ rest, value? maxDepth (written ++ '\n' :: rest) = some (v, '\n' :: rest)

lemma isWritten_writeBool (b : Bool) : IsWritten (writeBool b) (.boolean b) where
  isTab_head? := by
    cases b with
    | true =>
      rintro c ⟨⟩
      rfl
    | false =>
      rintro c ⟨⟩
      rfl
  read := value?_writeBool maxDepth b

/-- A number that fits the format is written as a line can hold it. -/
lemma isWritten_toDigits {n : Nat} (hn : n < Nat.pow 2 63) :
    IsWritten (Nat.toDigits 10 n) (.integer n) where
  isTab_head? := by
    intro c hc
    have hdigit := isDigit_of_mem_toDigits (List.mem_of_mem_head? hc)
    rw [isTab, Bool.or_eq_false_iff, beq_eq_false_iff_ne, beq_eq_false_iff_ne]
    exact ⟨ne_of_isDigit hdigit (by decide), ne_of_isDigit hdigit (by decide)⟩
  read := value?_toDigits maxDepth hn

lemma isWritten_writeStrings (ts : List Text) :
    IsWritten (writeStrings ts) (.array (ts.map .string)) where
  isTab_head? := by
    rintro c ⟨⟩
    decide
  read rest := value?_writeStrings _ ts ('\n' :: rest)

/-- Keys that are written as they are. -/
def isBareKey (key : Text) : Bool :=
  !key.isEmpty && key.all isBareKeyChar

section Keys

variable {key : Text} (hkey : isBareKey key = true)

include hkey

/-- A bare key starts with one of its characters, all of which are fit for it. -/
lemma exists_cons_of_isBareKey :
    ∃ k ks, key = k :: ks ∧ isBareKeyChar k = true ∧ ∀ c ∈ key, isBareKeyChar c = true := by
  simp only [isBareKey, Bool.and_eq_true, Bool.not_eq_true', List.isEmpty_eq_false_iff,
    List.all_eq_true] at hkey
  obtain ⟨k, ks, rfl⟩ := List.exists_cons_of_ne_nil hkey.1
  exact ⟨k, ks, rfl, hkey.2 k (by simp), hkey.2⟩

omit hkey in
lemma isFillerChar_of_isBareKeyChar {c : Char} (hc : isBareKeyChar c = true) :
    isFillerChar c = false := by
  rw [← Bool.not_eq_true]
  intro hfiller
  simp only [isFillerChar, List.contains_eq_mem, decide_eq_true_eq, List.mem_cons,
    List.not_mem_nil, or_false] at hfiller
  rcases hfiller with rfl | rfl | rfl | rfl | rfl <;> exact absurd hc (by decide)

/-- A bare key is read up to the first character that cannot belong to it. -/
lemma simpleKey?_bare {c : Char} (hc : isBareKeyChar c = false) (rest : Text) :
    simpleKey? (key ++ c :: rest) = some (key, c :: rest) := by
  obtain ⟨k, ks, rfl, hk, hchars⟩ := exists_cons_of_isBareKey hkey
  obtain ⟨htake, hdrop⟩ := takeWhile_dropWhile_run hchars hc rest
  unfold simpleKey?
  split
  next heq =>
    rw [(List.cons.inj heq).1] at hk
    exact absurd hk (by decide)
  next heq =>
    rw [(List.cons.inj heq).1] at hk
    exact absurd hk (by decide)
  · rw [htake, hdrop]
    rfl

/-- A bare key is a key of one part, unless a dot comes next. -/
lemma key?_bare {c : Char} (hc : isBareKeyChar c = false) {rest after : Text}
    (hafter : skipBlanks (c :: rest) = after) (hdot : after.head? ≠ some '.') :
    key? (key ++ c :: rest) = some ([key], after) := by
  have hstart : skipBlanks (key ++ c :: rest) = key ++ c :: rest := by
    obtain ⟨k, ks, rfl, hk, -⟩ := exists_cons_of_isBareKey hkey
    exact skipBlanks_cons (isTab_eq_false_of_not_isFillerChar (isFillerChar_of_isBareKeyChar hk)) _
  have hparts : keyParts? (key ++ c :: rest) = some ([key], after) := by
    rw [keyParts?, hstart, simpleKey?_bare hkey hc]
    simp only [Option.bind_eq_bind, Option.bind_some, hafter]
    split
    next => simp at hdot
    · rfl
  rw [key?, hparts]
  rfl

end Keys

section Lines

variable {key : String} (hkey : isBareKey key.toList = true)

include hkey

/-- A written header is read, with the end of its line, as the header of that table. -/
lemma statement?_writeHeader (rest : Text) :
    statement? (writeHeader key ++ rest) = some (.header [key.toList], rest) := by
  have hread : key? (key.toList ++ ']' :: '\n' :: rest) =
      some ([key.toList], ']' :: '\n' :: rest) :=
    key?_bare hkey (by decide) (skipBlanks_cons (by decide) _) (by simp)
  have hheader : header? ('[' :: (key.toList ++ ']' :: '\n' :: rest)) =
      some (.header [key.toList], '\n' :: rest) := by
    unfold header?
    split
    next heq =>
      -- a second bracket is not the start of a bare key
      obtain ⟨k, ks, hcons, hk, -⟩ := exists_cons_of_isBareKey hkey
      rw [hcons] at heq
      have hbracket : k = '[' := by
        simp only [List.cons_append, List.cons.injEq, true_and] at heq
        exact heq.1
      rw [hbracket] at hk
      exact absurd hk (by decide)
    next heq =>
      obtain rfl := (List.cons.inj heq).2
      rw [hread]
      rfl
    next hno => exact absurd rfl (hno _)
  have htext : writeHeader key ++ rest = '[' :: (key.toList ++ ']' :: '\n' :: rest) := by
    simp [writeHeader]
  rw [htext, statement?]
  simp only [hheader, Option.bind_eq_bind, Option.bind_some, lineEnd?_lineFeed]
  rfl

/-- A written assignment is read, with the end of its line, as the key and the value. -/
lemma statement?_writeAssignment {written : Text} {v : Value} (hv : IsWritten written v)
    (rest : Text) :
    statement? (writeAssignment key written ++ rest) = some (.assign [key.toList] v, rest) := by
  have htext : writeAssignment key written ++ rest =
      key.toList ++ ' ' :: '=' :: ' ' :: (written ++ '\n' :: rest) := by
    simp [writeAssignment]
  have hname := @key?_bare _ hkey ' ' (by decide) ('=' :: ' ' :: (written ++ '\n' :: rest)) _
    (skipBlanks_space_cons (by decide) _) (by simp)
  have hskip : skipBlanks (' ' :: (written ++ '\n' :: rest)) = written ++ '\n' :: rest := by
    cases written with
    | nil => exact skipBlanks_space_cons (by decide) _
    | cons c t => exact skipBlanks_space_cons (hv.isTab_head? c rfl) _
  have hassign : assignment? (value? maxDepth)
      (key.toList ++ ' ' :: '=' :: ' ' :: (written ++ '\n' :: rest)) =
        some (([key.toList], v), '\n' :: rest) := by
    rw [assignment?, hname]
    simp only [Option.bind_eq_bind, Option.bind_some, expect?, if_pos, hskip, hv.read,
      skipBlanks_cons (show isTab '\n' = false by decide)]
    rfl
  obtain ⟨k, ks, hcons, hk, -⟩ := exists_cons_of_isBareKey hkey
  have hbracket : k ≠ '[' := by
    rintro rfl
    exact absurd hk (by decide)
  rw [htext, statement?, hassign]
  · simp only [Option.map_some, Option.bind_eq_bind, Option.bind_some, lineEnd?_lineFeed]
    rfl
  · intro u heq
    rw [hcons] at heq
    exact hbracket (List.cons.inj heq).1

omit hkey in
lemma statements?_nil : statements? [] = some [] := by
  rw [statements?, skipFiller]
  rfl

omit hkey in
/-- One line of a document after another: each has to make the rest shorter. -/
lemma statements?_cons {t line rest : Text} {s : Statement} (hskip : skipFiller t = line ++ rest)
    (hne : line ≠ []) (hs : statement? (line ++ rest) = some (s, rest))
    (hlength : (line ++ rest).length ≤ t.length) :
    statements? t = (statements? rest).map (s :: ·) := by
  have hpos := List.length_pos_iff.2 hne
  rw [List.length_append] at hlength
  rw [statements?, hskip]
  split
  next heq => exact absurd (List.append_eq_nil_iff.1 heq).1 hne
  · simp only [hs, Option.bind_eq_bind, Option.bind_some]
    rw [if_pos (by omega)]
    cases statements? rest <;> rfl

/-- **Headers are read back**, also after an empty line. -/
lemma statements?_writeHeader {lead : Text} (hlead : lead = [] ∨ lead = ['\n']) (rest : Text) :
    statements? (lead ++ (writeHeader key ++ rest)) =
      (statements? rest).map (.header [key.toList] :: ·) := by
  refine statements?_cons ?_ (by simp [writeHeader]) (statement?_writeHeader hkey rest) (by simp)
  rcases hlead with rfl | rfl
  · exact skipFiller_cons (by decide) _
  · exact skipFiller_blank_cons (Or.inr rfl) (by decide) _

/-- **Assignments are read back**, if their values are. -/
lemma statements?_writeAssignment {written : Text} {v : Value} (hv : IsWritten written v)
    (rest : Text) :
    statements? (writeAssignment key written ++ rest) =
      (statements? rest).map (.assign [key.toList] v :: ·) := by
  refine statements?_cons ?_ (by simp [writeAssignment])
    (statement?_writeAssignment hkey hv rest) (Nat.le_refl _)
  obtain ⟨k, ks, hcons, hk, -⟩ := exists_cons_of_isBareKey hkey
  rw [writeAssignment, hcons]
  exact skipFiller_cons (isFillerChar_of_isBareKeyChar hk) _

end Lines

end SqlIndent.Toml
