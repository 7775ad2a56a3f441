import SqlIndent.Path

/-!
# Glob patterns

A pattern is a path whose parts may hold wildcards: `?` for any character, `*` for any characters,
`[...]` and `[!...]` for one character in or out of a class. The part `**` stands for directories to
any depth. Hidden files are matched like others. Like a path, a pattern starts at the root if it
begins with a slash, and at the working directory otherwise.
-/

namespace SqlIndent.Glob

/-- The members of a character class. -/
inductive Member where
  | one (c : Char)
  | between (first last : Char)
deriving DecidableEq, Repr

/-- Whether a member accepts a character. -/
def Member.accepts (c : Char) : Member → Bool
  | one d => c == d
  | between first last => first ≤ c && c ≤ last

/-- A wildcard or an ordinary character. -/
inductive Token where
  | char (c : Char)
  | anyChar
  | anyChars
  | within (members : List Member)
  | without (members : List Member)
deriving DecidableEq, Repr

/-- Whether a token other than `anyChars` accepts a character. -/
def Token.accepts (c : Char) : Token → Bool
  | char d => c == d
  | anyChar | anyChars => true
  | within members => members.any (·.accepts c)
  | without members => !members.any (·.accepts c)

/-- Of a list of marks, whether there is one from each place on. -/
def orLater (bs : List Bool) : List Bool :=
  bs.foldr (fun b later => (b || later.headD false) :: later) []

theorem length_orLater (bs : List Bool) : (orLater bs).length = bs.length := by
  unfold orLater
  induction bs with
  | nil => rfl
  | cons b bs ih => rw [List.foldr_cons, List.length_cons, List.length_cons, ih]

/-- For each suffix of a text, from the whole text to the empty one, whether tokens match it. The
text is gone through once for each token, so that many `*` cost no more than other tokens. -/
def matchSuffixes (t : Text) : List Token → List Bool
  | [] => t.foldr (fun _ later => false :: later) [true]
  | .anyChars :: tokens => orLater (matchSuffixes t tokens)
  | token :: tokens =>
    List.zipWith (fun c b => token.accepts c && b) t (matchSuffixes t tokens).tail ++ [false]

/-- Whether tokens match a whole text. -/
def matchTokens (tokens : List Token) (t : Text) : Bool :=
  (matchSuffixes t tokens).headD false

theorem length_matchSuffixes (t : Text) (tokens : List Token) :
    (matchSuffixes t tokens).length = t.length + 1 := by
  induction tokens with
  | nil => simp [matchSuffixes]
  | cons token tokens ih =>
    cases token with
    | anyChars => rw [matchSuffixes, length_orLater, ih]
    | _ => simp [matchSuffixes, ih]

theorem matchSuffixes_eq_cons (t : Text) (tokens : List Token) :
    matchSuffixes t tokens = matchTokens tokens t :: (matchSuffixes t tokens).tail := by
  have h := length_matchSuffixes t tokens
  unfold matchTokens
  cases hm : matchSuffixes t tokens with
  | nil => simp [hm] at h
  | cons b bs => rfl

theorem tail_matchSuffixes_cons (c : Char) (t : Text) (tokens : List Token) :
    (matchSuffixes (c :: t) tokens).tail = matchSuffixes t tokens := by
  induction tokens with
  | nil => rfl
  | cons token tokens ih =>
    have h := matchSuffixes_eq_cons t tokens
    have hc := matchSuffixes_eq_cons (c :: t) tokens
    rw [ih] at hc
    cases token with
    | anyChars =>
      rw [matchSuffixes, hc]
      rfl
    | _ =>
      simp only [matchSuffixes, ih]
      rw [h]
      rfl

theorem matchSuffixes_cons (c : Char) (t : Text) (tokens : List Token) :
    matchSuffixes (c :: t) tokens = matchTokens tokens (c :: t) :: matchSuffixes t tokens := by
  rw [matchSuffixes_eq_cons, tail_matchSuffixes_cons]

theorem matchSuffixes_nil (tokens : List Token) :
    matchSuffixes [] tokens = [matchTokens tokens []] := by
  have h : (matchSuffixes [] tokens).tail = [] :=
    List.eq_nil_of_length_eq_zero (by simp [length_matchSuffixes])
  rw [matchSuffixes_eq_cons, h]

@[simp] theorem matchTokens_nil (t : Text) : matchTokens [] t = t.isEmpty := by
  cases t <;> rfl

@[simp] theorem matchTokens_anyChars_nil (tokens : List Token) :
    matchTokens (.anyChars :: tokens) [] = matchTokens tokens [] := by
  rw [matchTokens, matchSuffixes, matchSuffixes_nil]
  simp [orLater]

theorem matchTokens_anyChars_cons (c : Char) (t : Text) (tokens : List Token) :
    matchTokens (.anyChars :: tokens) (c :: t) =
      (matchTokens tokens (c :: t) || matchTokens (.anyChars :: tokens) t) := by
  rw [matchTokens, matchSuffixes, matchSuffixes_cons]
  rfl

theorem matchTokens_cons_nil {token : Token} (h : token ≠ .anyChars) (tokens : List Token) :
    matchTokens (token :: tokens) [] = false := by
  cases token with
  | anyChars => exact absurd rfl h
  | _ => rfl

theorem matchTokens_cons_cons {token : Token} (h : token ≠ .anyChars) (tokens : List Token)
    (c : Char) (t : Text) :
    matchTokens (token :: tokens) (c :: t) = (token.accepts c && matchTokens tokens t) := by
  rw [matchTokens, matchSuffixes, tail_matchSuffixes_cons, matchSuffixes_eq_cons]
  · rfl
  · exact h

/-- One part of a pattern. -/
inductive Part where
  /-- A name without wildcards. -/
  | name (text : Text)
  /-- A name with wildcards. -/
  | wild (tokens : List Token)
  /-- Directories to any depth. -/
  | anyDepth
deriving DecidableEq, Repr

/-- Whether a part other than `anyDepth` matches a name. -/
def Part.accepts (name : Text) : Part → Bool
  | .name text => name == text
  | wild tokens => matchTokens tokens name
  | anyDepth => true

/-! ## Reading patterns -/

/-- The members of a class: a dash between two characters makes a range. -/
def members : Text → List Member
  | a :: '-' :: b :: rest => .between a b :: members rest
  | a :: rest => .one a :: members rest
  | [] => []

/-- The members up to the closing bracket, and what follows it. The first character is always a
member, a bracket too. -/
def class? : Text → Option (List Member × Text)
  | [] => none
  | c :: rest =>
    match rest.dropWhile (· != ']') with
    | _ :: rest' => some (members (c :: rest.takeWhile (· != ']')), rest')
    | [] => none

theorem class?_length {t rest : Text} {ms : List Member} (h : class? t = some (ms, rest)) :
    rest.length < t.length := by
  unfold class? at h
  split at h
  · simp at h
  next c tail =>
    split at h
    next d rest' hd =>
      obtain ⟨_, rfl⟩ := Prod.mk.inj (Option.some.inj h)
      have := (List.dropWhile_suffix (· != ']') (l := tail)).length_le
      rw [hd, List.length_cons] at this
      simp only [List.length_cons]
      omega
    · simp at h

/-- The tokens of a part other than `**`; two stars in a row, and a class that is not closed, are
errors. -/
def tokens? : Text → Option (List Token)
  | [] => some []
  | '?' :: rest => (tokens? rest).map (.anyChar :: ·)
  | '*' :: '*' :: _ => none
  | '*' :: rest => (tokens? rest).map (.anyChars :: ·)
  | '[' :: '!' :: rest =>
    match _h : class? rest with
    | some (ms, rest') => (tokens? rest').map (.without ms :: ·)
    | none => none
  | '[' :: rest =>
    match _h : class? rest with
    | some (ms, rest') => (tokens? rest').map (.within ms :: ·)
    | none => none
  | c :: rest => (tokens? rest).map (.char c :: ·)
termination_by t => t.length
decreasing_by
  · simp
  · simp
  · have := class?_length _h
    simp only [List.length_cons]
    omega
  · have := class?_length _h
    simp only [List.length_cons]
    omega
  · simp

/-- The text of tokens that are all ordinary characters. -/
def plainText? (tokens : List Token) : Option Text :=
  tokens.mapM fun
    | .char c => some c
    | _ => none

/-- One part of a pattern. -/
def part? (t : Text) : Option Part :=
  if t = ['*', '*'] then some .anyDepth
  else (tokens? t).map fun tokens =>
    match plainText? tokens with
    | some text => .name text
    | none => .wild tokens

/-- The path at which a pattern starts. -/
def start (pattern : Text) : Text :=
  if Path.isAbsolute pattern then ['/'] else Path.here

/-- The parts of a pattern from there on. -/
def texts (pattern : Text) : List Text :=
  Path.parts (if Path.isAbsolute pattern then pattern.tail else pattern)

/-- A pattern, part by part; none if it is empty, or if one of its parts is in error, or if it ends
in a slash and so can match directories only. -/
def parse? (pattern : Text) : Option (List Part) :=
  if pattern.isEmpty || pattern.getLast? == some '/' then none
  else (texts pattern).mapM part?

end SqlIndent.Glob
