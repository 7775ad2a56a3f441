import SqlIndent.Document.Json
import SqlIndent.Proofs.Toml.Documents

/-!
# Reading replacements

A reader of JSON that knows nothing of how replacements are written: it takes all values, with
blanks between their parts, strings with every escape, and numbers with fraction and exponent. The
one line of a replacement is JSON that it reads back (`Replacement.parse?_toJson`).
-/

namespace SqlIndent
namespace Json

/-- A JSON value. Numbers are kept as written. -/
inductive Value where
  | null
  | boolean (b : Bool)
  | number (numeral : Text)
  | string (t : Text)
  | array (items : List Value)
  | object (members : List (Text × Value))
deriving Repr

/-- The characters that may stand between the parts of a value. -/
def isSpace (c : Char) : Bool :=
  c == ' ' || c == '\t' || c == '\n' || c == '\r'

/-- What follows the blanks at the beginning of a text. -/
def skipSpaces (t : Text) : Text :=
  t.dropWhile isSpace

/-! ## Strings -/

/-- A UTF-16 code unit in four hexadecimal digits, and what follows it. -/
def codeUnit? : Text → Option (Nat × Text)
  | a :: b :: c :: d :: rest =>
    ([a, b, c, d].mapM Toml.hexValue?).map fun digits => (Toml.ofDigits 16 digits, rest)
  | _ => none

/-- The character that an escape with code units stands for. Where the first unit is no character,
it is the first one of a pair, and another escape has the second one. -/
def escapedUnits? (t : Text) : Option (Char × Text) := do
  let (first, rest) ← codeUnit? t
  if first.isValidChar then return (Char.ofNat first, rest)
  match rest with
  | '\\' :: 'u' :: rest =>
    let (second, rest) ← codeUnit? rest
    if first < 0xDC00 ∧ 0xDC00 ≤ second ∧ second < 0xE000 then
      return (Char.ofNat (0x10000 + (first - 0xD800) * 0x400 + (second - 0xDC00)), rest)
    none
  | _ => none

/-- The character that an escape stands for; the backslash is already read. -/
def escape? : Text → Option (Char × Text)
  | '"' :: rest => some ('"', rest)
  | '\\' :: rest => some ('\\', rest)
  | '/' :: rest => some ('/', rest)
  | 'b' :: rest => some ('\x08', rest)
  | 'f' :: rest => some ('\x0c', rest)
  | 'n' :: rest => some ('\n', rest)
  | 'r' :: rest => some ('\r', rest)
  | 't' :: rest => some ('\t', rest)
  | 'u' :: rest => escapedUnits? rest
  | _ => none

example : escape? "ud83d\\ude00!".toList = some ('😀', ['!']) := by decide

lemma codeUnit?_length {t rest : Text} {n : Nat} (h : codeUnit? t = some (n, rest)) :
    rest.length ≤ t.length := by
  unfold codeUnit? at h
  split at h
  · rw [Option.map_eq_some_iff] at h
    obtain ⟨digits, -, h⟩ := h
    obtain ⟨-, rfl⟩ := Prod.mk.inj h
    simp only [List.length_cons]
    omega
  · simp at h

lemma escapedUnits?_length {t rest : Text} {c : Char} (h : escapedUnits? t = some (c, rest)) :
    rest.length ≤ t.length := by
  simp only [escapedUnits?, Option.bind_eq_bind, Option.bind_eq_some_iff] at h
  obtain ⟨⟨first, rest'⟩, hfirst, h⟩ := h
  have hrest' := codeUnit?_length hfirst
  dsimp only at h
  split at h
  · obtain ⟨-, rfl⟩ := Prod.mk.inj (Option.some.inj h)
    exact hrest'
  split at h
  · rw [Option.bind_eq_some_iff] at h
    obtain ⟨⟨second, rest''⟩, hsecond, h⟩ := h
    have hrest'' := codeUnit?_length hsecond
    simp only [List.length_cons] at hrest'
    dsimp only at h
    split at h
    · obtain ⟨-, rfl⟩ := Prod.mk.inj (Option.some.inj h)
      omega
    · simp at h
  · simp at h

/-- An escape takes characters away, which is why reading a string ends. -/
lemma escape?_length {t rest : Text} {c : Char} (h : escape? t = some (c, rest)) :
    rest.length < t.length := by
  unfold escape? at h
  split at h
  case h_9 => exact Nat.lt_succ_of_le (escapedUnits?_length h)
  case h_10 => simp at h
  all_goals
    obtain ⟨-, rfl⟩ := Prod.mk.inj (Option.some.inj h)
    simp

/-- The rest of a string after its first quotation mark, and what follows the string. -/
def stringRest : Text → Option (Text × Text)
  | [] => none
  | '"' :: rest => some ([], rest)
  | '\\' :: rest =>
    match _h : escape? rest with
    | some (c, rest') => (stringRest rest').map (Toml.consRead c)
    | none => none
  | c :: rest => if 0x20 ≤ c.toNat then (stringRest rest).map (Toml.consRead c) else none
termination_by t => t.length
decreasing_by
  · have := escape?_length _h
    simp only [List.length_cons]
    omega
  · simp

/-! ## Numbers -/

/-- The characters of numbers. -/
def isNumberChar (c : Char) : Bool :=
  Toml.isDigit c || c == '-' || c == '+' || c == '.' || c == 'e' || c == 'E'

/-- Digits, at least one. -/
def isDigits (t : Text) : Bool :=
  !t.isEmpty && t.all Toml.isDigit

/-- Digits that start with zero only if they are a single zero. -/
def isWhole (t : Text) : Bool :=
  isDigits t && (t == ['0'] || t.head? != some '0')

/-- An exponent from its letter on, or none. -/
def isExponent : Text → Bool
  | [] => true
  | e :: rest =>
    (e == 'e' || e == 'E') &&
      match rest with
      | '+' :: digits => isDigits digits
      | '-' :: digits => isDigits digits
      | digits => isDigits digits

/-- A number without its sign. -/
def isUnsigned (t : Text) : Bool :=
  isWhole (t.takeWhile Toml.isDigit) &&
    match t.dropWhile Toml.isDigit with
    | '.' :: rest =>
      isDigits (rest.takeWhile Toml.isDigit) && isExponent (rest.dropWhile Toml.isDigit)
    | rest => isExponent rest

/-- A number. -/
def isNumber : Text → Bool
  | '-' :: t => isUnsigned t
  | t => isUnsigned t

/-! ## Values -/

/-- The reader of a value inside another one. -/
abbrev ValueReader := Text → Option (Value × Text)

/-- Items with commas between them, at least one, up to a closing mark, and what follows it. -/
def items? {α : Type} (item : Text → Option (α × Text)) (close : Char) (t : Text) :
    Option (List α × Text) := do
  let (a, rest) ← item t
  match skipSpaces rest with
  | [] => none
  | c :: rest' =>
    if c = close then return ([a], rest')
    else if c = ',' then
      if rest'.length < t.length then
        let (more, rest'') ← items? item close rest'
        return (a :: more, rest'')
      else none
    else none
termination_by t.length

/-- The same, or no items at all. -/
def list? {α : Type} (item : Text → Option (α × Text)) (close : Char) (t : Text) :
    Option (List α × Text) :=
  match skipSpaces t with
  | [] => none
  | c :: rest => if c = close then some ([], rest) else items? item close t

/-- A name, a colon and a value. -/
def member? (value : ValueReader) (t : Text) : Option ((Text × Value) × Text) := do
  let (name, rest) ← stringRest (← Toml.expect? '"' (skipSpaces t))
  let (v, rest) ← value (← Toml.expect? ':' (skipSpaces rest))
  return ((name, v), rest)

/-- A value that nests at most `depth` levels, and what follows it. -/
def value? : Nat → ValueReader
  | depth, t =>
    match depth, skipSpaces t with
    | _, '"' :: rest => (stringRest rest).map fun (s, rest') => (.string s, rest')
    | depth + 1, '[' :: rest =>
      (list? (value? depth) ']' rest).map fun (items, rest') => (.array items, rest')
    | depth + 1, '\x7b' :: rest =>
      (list? (member? (value? depth)) '\x7d' rest).map fun (members, rest') =>
        (.object members, rest')
    | _, 'n' :: 'u' :: 'l' :: 'l' :: rest => some (.null, rest)
    | _, 't' :: 'r' :: 'u' :: 'e' :: rest => some (.boolean true, rest)
    | _, 'f' :: 'a' :: 'l' :: 's' :: 'e' :: rest => some (.boolean false, rest)
    | _, t' =>
      let numeral := t'.takeWhile isNumberChar
      if isNumber numeral then some (.number numeral, t'.dropWhile isNumberChar) else none

/-- The value that a text is, with blanks around it. It nests no deeper than the text is long. -/
def parse? (t : Text) : Option Value :=
  (value? t.length t).bind fun (v, rest) => if skipSpaces rest = [] then some v else none

namespace Value

/-- The number, for a whole number that is not negative. -/
def nat? : Value → Option Nat
  | number numeral => if isWhole numeral then some (Nat.ofDigitChars 10 numeral 0) else none
  | _ => none

/-- The text, for a string. -/
def text? : Value → Option Text
  | string t => some t
  | _ => none

/-- The value of a member, for an object. -/
def get? (name : Text) : Value → Option Value
  | object members => members.lookup name
  | _ => none

end Value
end Json

open Json

/-- The place that a value describes. -/
def Position.ofJson? (v : Value) : Option Position := do
  let line ← (← v.get? "line".toList).nat?
  let character ← (← v.get? "character".toList).nat?
  return ⟨line, character⟩

/-- The part of a document that a value describes. -/
def DocumentRange.ofJson? (v : Value) : Option DocumentRange := do
  let start ← Position.ofJson? (← v.get? "start".toList)
  let stop ← Position.ofJson? (← v.get? "end".toList)
  return ⟨start, stop⟩

/-- The replacement that a value describes. -/
def Replacement.ofJson? (v : Value) : Option Replacement := do
  let range ← DocumentRange.ofJson? (← v.get? "range".toList)
  let newText ← (← v.get? "newText".toList).text?
  return ⟨range, newText⟩

/-- The replacement that a text describes as JSON. -/
def Replacement.parse? (t : Text) : Option Replacement :=
  (Json.parse? t).bind Replacement.ofJson?

/-! ## Written values are read back -/

namespace Json

lemma skipSpaces_cons {c : Char} (h : isSpace c = false) (t : Text) :
    skipSpaces (c :: t) = c :: t := by
  simp [skipSpaces, h]

/-- The escape of a control character is read back. -/
lemma escapedUnits?_of_lt {c : Char} (h : c.toNat < 0x20) (rest : Text) :
    escapedUnits? ('0' :: '0' :: hexDigit (c.toNat / 16) :: hexDigit (c.toNat % 16) :: rest)
      = some (c, rest) := by
  have htable : ∀ n < 0x20,
      ['0', '0', hexDigit (n / 16), hexDigit (n % 16)].mapM Toml.hexValue?
        = some [0, 0, n / 16, n % 16] := by
    decide +kernel
  have hvalue : Toml.ofDigits 16 [0, 0, c.toNat / 16, c.toNat % 16] = c.toNat := by
    simp only [Toml.ofDigits, List.foldl_cons, List.foldl_nil]
    omega
  have hvalid : c.toNat.isValidChar := Or.inl (by omega)
  simp [escapedUnits?, codeUnit?, htable c.toNat h, hvalue, hvalid]

/-- An ordinary character of a string stands for itself. -/
lemma stringRest_plain {c : Char} (hquote : c ≠ '"') (hbackslash : c ≠ '\\')
    (hplain : 0x20 ≤ c.toNat) (rest : Text) :
    stringRest (c :: rest) = (stringRest rest).map (Toml.consRead c) := by
  rw [stringRest.eq_4 _ _ hquote hbackslash, if_pos hplain]

lemma stringRest_escape {c : Char} {e rest : Text} (h : escape? e = some (c, rest)) :
    stringRest ('\\' :: e) = (stringRest rest).map (Toml.consRead c) := by
  rw [stringRest]
  split
  next c' rest' h' =>
    rw [h, Option.some.injEq, Prod.mk.injEq] at h'
    rw [h'.1, h'.2]
  next h' => simp [h] at h'

/-- **One character.** -/
lemma stringRest_escapeChar (c : Char) (rest : Text) :
    stringRest (escapeChar c ++ rest) = (stringRest rest).map (Toml.consRead c) := by
  unfold escapeChar
  split
  next h => exact stringRest_escape (by rw [h]; rfl)
  next hquote =>
  split
  next h => exact stringRest_escape (by rw [h]; rfl)
  next hbackslash =>
  split
  next h => exact stringRest_escape (by rw [h]; rfl)
  split
  next h => exact stringRest_escape (by rw [h]; rfl)
  split
  next h => exact stringRest_escape (by rw [h]; rfl)
  split
  next h => exact stringRest_escape (by rw [h]; rfl)
  split
  next h => exact stringRest_escape (by rw [h]; rfl)
  split
  next h => exact stringRest_escape (escapedUnits?_of_lt h rest)
  next h => exact stringRest_plain hquote hbackslash (Nat.le_of_not_lt h) rest

/-- **A text is read back from a string.** -/
lemma stringRest_flatMap_escapeChar (t rest : Text) :
    stringRest (t.flatMap escapeChar ++ '"' :: rest) = some (t, rest) := by
  induction t with
  | nil => rw [List.flatMap_nil, List.nil_append, stringRest]
  | cons c t ih =>
    rw [List.flatMap_cons, List.append_assoc, stringRest_escapeChar, ih]
    rfl

/-- What was written is read back where the next character belongs to no number. -/
def IsReadAs {α : Type} (reader : Text → Option (α × Text)) (written : Text) (a : α) : Prop :=
  ∀ (c : Char) (rest : Text), isNumberChar c = false →
    reader (written ++ c :: rest) = some (a, c :: rest)

/-- A written string is read as its text. -/
lemma isReadAs_string (depth : Nat) (t : Text) :
    IsReadAs (value? depth) (string t) (.string t) := by
  intro c rest _
  have hread := stringRest_flatMap_escapeChar t (c :: rest)
  have hspaces : skipSpaces (string t ++ c :: rest) =
      '"' :: (t.flatMap escapeChar ++ '"' :: c :: rest) := by
    rw [string, List.cons_append, List.append_assoc]
    exact skipSpaces_cons (by decide) _
  rw [value?.eq_1 _ _ _ hspaces, hread]
  rfl

/-- The digits of a number have no needless zero in front. -/
lemma isWhole_number (n : Nat) : isWhole (number n) = true := by
  have hne : number n ≠ [] := Nat.toDigits_ne_nil
  have hdigits : isDigits (number n) = true := by
    simp only [isDigits, Bool.and_eq_true, Bool.not_eq_true', List.isEmpty_eq_false_iff,
      List.all_eq_true]
    exact ⟨hne, fun c => Toml.isDigit_of_mem_toDigits⟩
  rw [isWhole, hdigits, Bool.true_and, Bool.or_eq_true]
  rcases Nat.eq_zero_or_pos n with rfl | hpos
  · exact Or.inl rfl
  · exact Or.inr (bne_iff_ne.2 (Toml.head?_toDigits hpos))

lemma isNumber_number (n : Nat) : isNumber (number n) = true := by
  have hdigit : ∀ c ∈ number n, Toml.isDigit c = true := fun c => Toml.isDigit_of_mem_toDigits
  have htake : (number n).takeWhile Toml.isDigit = number n := List.takeWhile_eq_self_iff.2 hdigit
  have hdrop : (number n).dropWhile Toml.isDigit = [] := List.dropWhile_eq_nil_iff.2 hdigit
  unfold isNumber
  split
  next heq => exact absurd (hdigit '-' (by simp [heq])) (by decide)
  next heq => simp [isUnsigned, htake, hdrop, isWhole_number, isExponent]

/-- A written number is read as its digits; here it matters that no digit follows. -/
lemma isReadAs_number (depth n : Nat) :
    IsReadAs (value? depth) (number n) (.number (number n)) := by
  intro c rest hc
  have hchars : ∀ x ∈ number n, isNumberChar x = true := fun x hx => by
    simp [isNumberChar, Toml.isDigit_of_mem_toDigits hx]
  obtain ⟨htake, hdrop⟩ := Toml.takeWhile_dropWhile_run hchars hc rest
  obtain ⟨d, ds, hcons⟩ := List.exists_cons_of_ne_nil (@Nat.toDigits_ne_nil n 10)
  have hd : Toml.isDigit d = true := Toml.isDigit_of_mem_toDigits (by rw [hcons]; simp)
  have hnot : ∀ x : Char, Toml.isDigit x = false → d ≠ x := fun x hx => Toml.ne_of_isDigit hd hx
  have hspaces : skipSpaces (number n ++ c :: rest) = number n ++ c :: rest := by
    rw [number, hcons, List.cons_append]
    refine skipSpaces_cons ?_ _
    simp [isSpace, hnot ' ' (by decide), hnot '\t' (by decide), hnot '\n' (by decide),
      hnot '\r' (by decide)]
  -- none of the other values begins with a digit
  have hother : ∀ x u, Toml.isDigit x = false → skipSpaces (number n ++ c :: rest) ≠ x :: u := by
    intro x u hx heq
    rw [hspaces, number, hcons, List.cons_append, List.cons.injEq] at heq
    exact hnot x hx heq.1
  rw [value?.eq_7, hspaces, htake, hdrop, if_pos (isNumber_number n)]
  · exact fun _ => hother _ _ (by decide)
  · exact fun _ => hother _ _ (by decide)
  · exact fun _ => hother _ _ (by decide)
  · exact fun _ => hother _ _ (by decide)
  · exact fun _ _ _ => hother _ _ (by decide)
  · exact fun _ _ _ => hother _ _ (by decide)

/-- **Items with commas between them.** -/
lemma items?_joinWith {α : Type} {item : Text → Option (α × Text)} {close : Char}
    (hspace : isSpace close = false) (hnumber : isNumberChar close = false) (hcomma : close ≠ ',')
    (rest : Text) {parts : List (Text × α)} (hne : parts ≠ [])
    (hparts : ∀ p ∈ parts, IsReadAs item p.1 p.2) :
    items? item close (Text.joinWith [','] (parts.map Prod.fst) ++ close :: rest)
      = some (parts.map Prod.snd, rest) := by
  match parts with
  | [] => exact absurd rfl hne
  | [p] =>
    have hread := hparts p (by simp) close rest hnumber
    rw [items?]
    simp [Text.joinWith, hread, skipSpaces_cons hspace]
  | p :: q :: parts =>
    let more := Text.joinWith [','] ((q :: parts).map Prod.fst) ++ close :: rest
    have hmore : items? item close more = some ((q :: parts).map Prod.snd, rest) :=
      items?_joinWith hspace hnumber hcomma rest (List.cons_ne_nil q parts)
        fun r hr => hparts r (List.mem_cons_of_mem p hr)
    have hjoin : Text.joinWith [','] ((p :: q :: parts).map Prod.fst) ++ close :: rest
        = p.1 ++ ',' :: more := by
      simp [Text.joinWith, more]
    have hread := hparts p (by simp) ',' more (by decide)
    have hspaces : skipSpaces (',' :: more) = ',' :: more := skipSpaces_cons (by decide) _
    have hlt : more.length < (p.1 ++ ',' :: more).length := by
      simp only [List.length_append, List.length_cons]
      omega
    rw [hjoin, items?, hread]
    simp only [Option.bind_eq_bind, Option.bind_some, hspaces, if_neg (Ne.symm hcomma), if_true,
      if_pos hlt, hmore]
    rfl

/-- A member of an object is read as its name and its value. -/
lemma IsReadAs.member {value : ValueReader} {written : Text} {v : Value} (name : Text)
    (h : IsReadAs value written v) :
    IsReadAs (member? value) (string name ++ ':' :: written) (name, v) := by
  intro c rest hc
  have hname := stringRest_flatMap_escapeChar name (':' :: (written ++ c :: rest))
  have hvalue := h c rest hc
  rw [member?, string]
  simp [skipSpaces_cons (show isSpace '"' = false by decide), Toml.expect?, hname,
    skipSpaces_cons (show isSpace ':' = false by decide), hvalue]

/-- **Objects.** -/
lemma isReadAs_object {depth : Nat} {members : List (Text × Text × Value)} (hne : members ≠ [])
    (hmembers : ∀ m ∈ members, IsReadAs (value? depth) m.2.1 m.2.2) :
    IsReadAs (value? (depth + 1)) (object (members.map fun m => (m.1, m.2.1)))
      (.object (members.map fun m => (m.1, m.2.2))) := by
  intro c rest _
  let parts := members.map fun m => (string m.1 ++ ':' :: m.2.1, (m.1, m.2.2))
  let body := Text.joinWith [','] (parts.map Prod.fst) ++ '\x7d' :: c :: rest
  have hitems : items? (member? (value? depth)) '\x7d' body
      = some (parts.map Prod.snd, c :: rest) := by
    refine items?_joinWith (by decide) (by decide) (by decide) _ (by simpa [parts] using hne) ?_
    simp only [parts, List.mem_map]
    rintro p ⟨m, hm, rfl⟩
    exact (hmembers m hm).member m.1
  -- the first member begins with the quotation mark of its name
  have hlist : list? (member? (value? depth)) '\x7d' body
      = some (parts.map Prod.snd, c :: rest) := by
    obtain ⟨m, more, rfl⟩ := List.exists_cons_of_ne_nil hne
    have hbody : ∃ u, body = '"' :: u := by
      cases more <;> exact ⟨_, rfl⟩
    obtain ⟨u, hu⟩ := hbody
    rw [list?, hitems, hu, skipSpaces_cons (by decide)]
    rfl
  have hspaces : skipSpaces (object (members.map fun m => (m.1, m.2.1)) ++ c :: rest)
      = '\x7b' :: body := by
    have hwritten : object (members.map fun m => (m.1, m.2.1)) ++ c :: rest = '\x7b' :: body := by
      simp [object, body, parts, Function.comp_def]
    rw [hwritten]
    exact skipSpaces_cons (by decide) _
  rw [value?.eq_3 _ _ _ hspaces, hlist]
  simp [parts, Function.comp_def]

lemma nat?_number (n : Nat) : (Value.number (number n)).nat? = some n := by
  rw [Value.nat?, if_pos (isWhole_number n), number, Nat.ofDigitChars_ten_toDigits]

end Json

/-- A written place is read as an object that tells the place. -/
lemma Position.exists_isReadAs_toJson (depth : Nat) (p : Position) :
    ∃ v, IsReadAs (value? (depth + 1)) p.toJson v ∧ ofJson? v = some p := by
  refine ⟨_, @isReadAs_object depth [("line".toList, number p.line, .number (number p.line)),
    ("character".toList, number p.character, .number (number p.character))] (by simp) ?_, ?_⟩
  · simp [isReadAs_number]
  · simp [ofJson?, Value.get?, List.lookup_cons, nat?_number]

/-- A written range is read as an object that tells the range. -/
lemma DocumentRange.exists_isReadAs_toJson (depth : Nat) (r : DocumentRange) :
    ∃ v, IsReadAs (value? (depth + 2)) r.toJson v ∧ ofJson? v = some r := by
  obtain ⟨start, hstart, hstart'⟩ := r.start.exists_isReadAs_toJson depth
  obtain ⟨stop, hstop, hstop'⟩ := r.stop.exists_isReadAs_toJson depth
  refine ⟨_, @isReadAs_object (depth + 1) [("start".toList, r.start.toJson, start),
    ("end".toList, r.stop.toJson, stop)] (by simp) ?_, ?_⟩
  · simp [hstart, hstop]
  · simp [ofJson?, Value.get?, List.lookup_cons, hstart', hstop']

/-- A written replacement is read as an object that tells the replacement. -/
lemma Replacement.exists_isReadAs_toJson (depth : Nat) (r : Replacement) :
    ∃ v, IsReadAs (value? (depth + 3)) r.toJson v ∧ ofJson? v = some r := by
  obtain ⟨range, hrange, hrange'⟩ := r.range.exists_isReadAs_toJson depth
  refine ⟨_, @isReadAs_object (depth + 2) [("range".toList, r.range.toJson, range),
    ("newText".toList, string r.newText, .string r.newText)] (by simp) ?_, ?_⟩
  · simp [hrange, isReadAs_string]
  · simp [ofJson?, Value.get?, List.lookup_cons, hrange', Value.text?]

/-- **A replacement is read back from its line.** -/
theorem Replacement.parse?_toJson (r : Replacement) : parse? (r.toJson ++ ['\n']) = some r := by
  have hlength : 3 ≤ (r.toJson ++ ['\n']).length := by
    simp only [toJson, object, List.length_cons, List.length_append]
    omega
  obtain ⟨depth, hdepth⟩ := Nat.exists_eq_add_of_le' hlength
  obtain ⟨v, hread, hv⟩ := r.exists_isReadAs_toJson depth
  have hvalue := hread '\n' [] (by decide)
  rw [parse?, Json.parse?, hdepth, hvalue]
  exact hv

/-! ## One line -/

namespace Json

/-- An escaped character holds no line feed, as a line feed is escaped itself. -/
lemma lineFeed_notMem_escapeChar (c : Char) : '\n' ∉ escapeChar c := by
  have hdigit : ∀ n < 16, hexDigit n ≠ '\n' := by decide
  unfold escapeChar
  repeat' split
  any_goals decide
  next h =>
    simp [(hdigit (c.toNat / 16) (by omega)).symm, (hdigit (c.toNat % 16) (by omega)).symm]
  next hfeed _ _ _ _ _ => simpa using Ne.symm hfeed

lemma lineFeed_notMem_string (t : Text) : '\n' ∉ string t := by
  simp [string, lineFeed_notMem_escapeChar]

lemma lineFeed_notMem_number (n : Nat) : '\n' ∉ number n := fun h =>
  absurd (Toml.isDigit_of_mem_toDigits h) (by decide)

lemma lineFeed_notMem_joinWith {parts : List Text} (h : ∀ p ∈ parts, '\n' ∉ p) :
    '\n' ∉ Text.joinWith [','] parts := by
  fun_induction Text.joinWith [','] parts with
  | case1 => simp
  | case2 p => exact h p (by simp)
  | case3 p parts _ ih =>
    have hp := h p (by simp)
    have hparts := ih fun q hq => h q (List.mem_cons_of_mem p hq)
    simp [hp, hparts]

/-- Written objects hold no line feed if the values of their members hold none. -/
lemma lineFeed_notMem_object {members : List (Text × Text)} (h : ∀ m ∈ members, '\n' ∉ m.2) :
    '\n' ∉ object members := by
  have hjoin : '\n' ∉ Text.joinWith [','] (members.map fun (name, value) =>
      string name ++ ':' :: value) := by
    apply lineFeed_notMem_joinWith
    simp only [List.mem_map]
    rintro p ⟨m, hm, rfl⟩
    simp [lineFeed_notMem_string, h m hm]
  simp [object, hjoin]

end Json

lemma Position.lineFeed_notMem_toJson (p : Position) : '\n' ∉ p.toJson :=
  lineFeed_notMem_object (by simp [lineFeed_notMem_number])

/-- **A replacement is one line.** -/
theorem Replacement.lineFeed_notMem_toJson (r : Replacement) : '\n' ∉ r.toJson := by
  have hrange : '\n' ∉ r.range.toJson :=
    lineFeed_notMem_object (by simp [Position.lineFeed_notMem_toJson])
  exact lineFeed_notMem_object (by simp [hrange, lineFeed_notMem_string])

end SqlIndent
