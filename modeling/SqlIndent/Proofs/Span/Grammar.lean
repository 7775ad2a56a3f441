import SqlIndent.Proofs.Text.Blank
import SqlIndent.Proofs.Text.Upper
import SqlIndent.Span.Lexeme

/-!
# The grammar of lexemes

Each kind of lexeme has a shape, and a condition on the one character that comes after it: a word
is followed by no word character, a comment by the end of its line, and so on. `Lexeme.Fits` states
both. A text is cut into lexemes in exactly one way that fits everywhere (`lexemes_eq_iff`), so to
know how a text is cut it is enough to show pieces of it that fit.
-/

namespace SqlIndent

namespace Lexeme

/-! ## Bodies of literals -/

/-- Texts in which the closer occurs in pairs only. -/
inductive Doubled (closer : Char) : Text → Prop
  | nil : Doubled closer []
  | plain {c : Char} {t : Text} : c ≠ closer → Doubled closer t → Doubled closer (c :: t)
  | pair {t : Text} : Doubled closer t → Doubled closer (closer :: closer :: t)

/-- Texts in which a closing brace stands only right after an opening one. -/
inductive Braced : Text → Prop
  | nil : Braced []
  | plain {c : Char} {t : Text} : c ≠ '}' → Braced t → Braced (c :: t)
  | pair {t : Text} : Braced t → Braced ('{' :: '}' :: t)

lemma doubledBody_cons_of_ne {closer c : Char} (h : c ≠ closer) (t : Text) :
    doubledBody closer (c :: t) = (c :: (doubledBody closer t).1, (doubledBody closer t).2) := by
  cases t with
  | nil => simp [doubledBody, h]
  | cons d t => simp [doubledBody, h]

/-- A closer that comes twice stands for itself, and the literal goes on. -/
lemma doubledBody_pair (closer : Char) (t : Text) :
    doubledBody closer (closer :: closer :: t)
      = (closer :: closer :: (doubledBody closer t).1, (doubledBody closer t).2) := by
  simp [doubledBody]

/-- A single closer ends the literal. -/
lemma doubledBody_closer {closer : Char} {t : Text} (h : t.head? ≠ some closer) :
    doubledBody closer (closer :: t) = ([closer], true) := by
  cases t with
  | nil => simp [doubledBody]
  | cons d t =>
    have hd : d ≠ closer := by simpa using h
    simp [doubledBody, hd]

/-- A doubled body is read up to the closer that stands alone after it. -/
lemma Doubled.doubledBody_append {closer : Char} {body rest : Text} (h : Doubled closer body)
    (hrest : rest.head? ≠ some closer) :
    doubledBody closer (body ++ closer :: rest) = (body ++ [closer], true) := by
  induction h with
  | nil => exact doubledBody_closer hrest
  | plain hc _ ih =>
    rw [List.cons_append, doubledBody_cons_of_ne hc, ih]
    rfl
  | pair _ ih =>
    rw [List.cons_append, List.cons_append, doubledBody_pair, ih]
    rfl

/-- A doubled body without a closer after it is read to its end. -/
lemma Doubled.doubledBody_eq {closer : Char} {body : Text} (h : Doubled closer body) :
    doubledBody closer body = (body, false) := by
  induction h with
  | nil => rfl
  | plain hc _ ih => rw [doubledBody_cons_of_ne hc, ih]
  | pair _ ih => rw [doubledBody_pair, ih]

/-- Reading a doubling literal ends at a closer that stands alone, or takes everything. -/
lemma doubledBody_cases (closer : Char) (t : Text) :
    (∃ body rest, Doubled closer body ∧ rest.head? ≠ some closer ∧ t = body ++ closer :: rest ∧
      doubledBody closer t = (body ++ [closer], true)) ∨
    Doubled closer t ∧ doubledBody closer t = (t, false) := by
  induction t using doubledBody.induct closer with
  | case1 => exact Or.inr ⟨.nil, rfl⟩
  | case2 c =>
    by_cases hc : c = closer
    · subst hc
      exact Or.inl ⟨[], [], .nil, by simp, rfl, doubledBody_closer (by simp)⟩
    · have h := Doubled.plain hc .nil
      exact Or.inr ⟨h, h.doubledBody_eq⟩
  | case3 rest _ _ _ ih =>
    -- a pair of closers goes into the body
    rcases ih with ⟨body, rest', hbody, hrest, rfl, -⟩ | ⟨hrest, -⟩
    · exact Or.inl ⟨_, rest', .pair hbody, hrest, rfl, hbody.pair.doubledBody_append hrest⟩
    · exact Or.inr ⟨.pair hrest, hrest.pair.doubledBody_eq⟩
  | case4 d rest hd =>
    -- a closer that stands alone ends the literal
    refine Or.inl ⟨[], d :: rest, .nil, by simpa using hd, rfl, ?_⟩
    exact doubledBody_closer (by simpa using hd)
  | case5 c d rest hc _ _ _ ih =>
    rcases ih with ⟨body, rest', hbody, hrest, heq, -⟩ | ⟨hrest, -⟩
    · rw [heq]
      have h := Doubled.plain hc hbody
      exact Or.inl ⟨_, rest', h, hrest, rfl, h.doubledBody_append hrest⟩
    · have h := Doubled.plain hc hrest
      exact Or.inr ⟨h, h.doubledBody_eq⟩

lemma braceBody_closer (t : Text) : braceBody ('}' :: t) = (['}'], true) := by
  simp [braceBody]

/-- An empty pair of braces is taken as a whole. -/
lemma braceBody_pair (t : Text) :
    braceBody ('{' :: '}' :: t) = ('{' :: '}' :: (braceBody t).1, (braceBody t).2) := by
  simp [braceBody]

/-- Any other character between braces is taken by itself, an opening brace too. -/
lemma braceBody_cons {c : Char} {t : Text} (hc : c ≠ '}') (h : c = '{' → t.head? ≠ some '}') :
    braceBody (c :: t) = (c :: (braceBody t).1, (braceBody t).2) := by
  rw [braceBody.eq_3]
  · simp [hc]
  · rintro rest rfl rfl
    simp at h

lemma Braced.head?_ne {t : Text} (h : Braced t) : t.head? ≠ some '}' := by
  cases h with
  | nil => simp
  | plain hc _ => simpa using hc
  | pair _ => simp

/-- A brace body is read up to the closing brace after it, unless the two braces pair up. -/
lemma Braced.braceBody_append {body : Text} (h : Braced body) (hlast : body.getLast? ≠ some '{')
    (rest : Text) : braceBody (body ++ '}' :: rest) = (body ++ ['}'], true) := by
  induction h with
  | nil => exact braceBody_closer rest
  | @plain c t hc ht ih =>
    cases t with
    | nil =>
      have hbrace : c ≠ '{' := by simpa using hlast
      rw [List.cons_append, braceBody_cons hc fun h => absurd h hbrace, ih (by simp)]
      rfl
    | cons d t =>
      have hd : d ≠ '}' := by simpa using ht.head?_ne
      rw [List.cons_append, braceBody_cons hc fun _ => by simpa using hd,
        ih (by simpa using hlast)]
      rfl
  | @pair t _ ih =>
    have ht : t.getLast? ≠ some '{' := by
      intro ht
      simp [List.getLast?_cons, ht] at hlast
    rw [List.cons_append, List.cons_append, braceBody_pair, ih ht]
    rfl

/-- Where closing braces stand right after opening ones only, none of them closes the literal. -/
lemma Braced.braceBody_eq {body : Text} (h : Braced body) : braceBody body = (body, false) := by
  induction h with
  | nil => rfl
  | plain hc ht ih => rw [braceBody_cons hc fun _ => ht.head?_ne, ih]
  | pair _ ih => rw [braceBody_pair, ih]

/-- Reading a brace literal ends at a closing brace that pairs with none before it, or takes
everything. -/
lemma braceBody_cases (t : Text) :
    (∃ body rest, Braced body ∧ body.getLast? ≠ some '{' ∧ t = body ++ '}' :: rest ∧
      braceBody t = (body ++ ['}'], true)) ∨
    Braced t ∧ braceBody t = (t, false) := by
  induction t using braceBody.induct with
  | case1 => exact Or.inr ⟨.nil, rfl⟩
  | case2 rest _ _ _ ih =>
    rcases ih with ⟨body, rest', hbody, hlast, rfl, -⟩ | ⟨hrest, -⟩
    · have hlast' : ('{' :: '}' :: body).getLast? ≠ some '{' := by
        cases body with
        | nil => simp
        | cons c body => simpa using hlast
      exact Or.inl ⟨_, rest', .pair hbody, hlast', rfl, hbody.pair.braceBody_append hlast' rest'⟩
    · exact Or.inr ⟨.pair hrest, hrest.pair.braceBody_eq⟩
  | case3 rest _ =>
    exact Or.inl ⟨[], rest, .nil, by simp, rfl, braceBody_closer rest⟩
  | case4 c rest hpair hc _ _ _ ih =>
    rcases ih with ⟨body, rest', hbody, hlast, rfl, -⟩ | ⟨hrest, -⟩
    · have h := Braced.plain hc hbody
      have hlast' : (c :: body).getLast? ≠ some '{' := by
        cases body with
        | nil =>
          -- `c` stands right before the closing brace
          intro hbrace
          exact hpair rest' (by simpa using hbrace) rfl
        | cons d body => simpa using hlast
      exact Or.inl ⟨_, rest', h, hlast', rfl, h.braceBody_append hlast' rest'⟩
    · have h := Braced.plain hc hrest
      exact Or.inr ⟨h, h.braceBody_eq⟩

/-! ## Lexemes before a given character -/

/-- The shape of a lexeme, and what may come after it: `next` is the character right after the
lexeme, or `none` at the end of the text. -/
inductive Fits : Lexeme → Option Char → Prop
  /-- A closed literal with a doubling closer; another closer would pair up with the last one. -/
  | doubled {d : Delimiter} {body : Text} {next : Option Char} :
      d ≠ .brace → Doubled d.closer body → next ≠ some d.closer →
      Fits ⟨.literal d, d.opener :: (body ++ [d.closer]), true⟩ next
  /-- A closed brace literal. -/
  | brace {body : Text} {next : Option Char} :
      Braced body → body.getLast? ≠ some '{' →
      Fits ⟨.literal .brace, '{' :: (body ++ ['}']), true⟩ next
  /-- A literal with a doubling closer that is never closed. -/
  | openDoubled {d : Delimiter} {body : Text} :
      d ≠ .brace → Doubled d.closer body → Fits ⟨.literal d, d.opener :: body, false⟩ none
  /-- A brace literal that is never closed. -/
  | openBrace {body : Text} : Braced body → Fits ⟨.literal .brace, '{' :: body, false⟩ none
  /-- A comment reaches to the end of its line. -/
  | comment {t : Text} {next : Option Char} :
      (∀ c ∈ t, isLineEnd c = false) → (∀ c ∈ next, isLineEnd c = true) →
      Fits ⟨.comment, '-' :: '-' :: t, true⟩ next
  /-- A word is a maximal run of word characters. -/
  | word {t : Text} {next : Option Char} :
      t ≠ [] → (∀ c ∈ t, Text.isWordChar c = true) → (∀ c ∈ next, Text.isWordChar c = false) →
      Fits ⟨.word, t, true⟩ next
  /-- A blank lexeme is a maximal run of blanks. -/
  | blank {t : Text} {next : Option Char} :
      t ≠ [] → (∀ c ∈ t, Text.isBlank c = true) → (∀ c ∈ next, Text.isBlank c = false) →
      Fits ⟨.blank, t, true⟩ next
  /-- Any other character stands alone, but two hyphens would open a comment. -/
  | punctuation {c : Char} {next : Option Char} :
      Delimiter.ofOpener? c = none → Text.isWordChar c = false → Text.isBlank c = false →
      (c = '-' → next ≠ some '-') → Fits ⟨.punctuation, [c], true⟩ next

/-! ### The first characters of lexemes -/

/-- Characters that open literals are not plain. -/
lemma ofOpener?_of_isPlain {c : Char} (h : Text.isPlain c = true) :
    Delimiter.ofOpener? c = none := by
  have hsingle := Text.ne_of_isPlain h (show Text.isPlain '\'' = false by decide)
  have hdouble := Text.ne_of_isPlain h (show Text.isPlain '"' = false by decide)
  have hbrace := Text.ne_of_isPlain h (show Text.isPlain '{' = false by decide)
  have hbracket := Text.ne_of_isPlain h (show Text.isPlain '[' = false by decide)
  simp [Delimiter.ofOpener?, hsingle, hdouble, hbrace, hbracket]

/-- Blanks open no literals. -/
lemma ofOpener?_of_isBlank {c : Char} (h : Text.isBlank c = true) :
    Delimiter.ofOpener? c = none := by
  unfold Delimiter.ofOpener?
  repeat' split
  all_goals first | rfl | (subst c; exact absurd h (by decide))

lemma opener_of_ofOpener? {c : Char} {d : Delimiter} (h : Delimiter.ofOpener? c = some d) :
    c = d.opener := by
  unfold Delimiter.ofOpener? at h
  repeat' split at h
  all_goals first | (cases h; assumption) | exact absurd h (by simp)

lemma isLineEnd_hyphen : isLineEnd '-' = false := by decide

/-- A literal is read by the rule of its delimiter. -/
lemma literalBody_of_ne_brace {d : Delimiter} (h : d ≠ .brace) (t : Text) :
    literalBody d t = doubledBody d.closer t := by
  cases d <;> first | rfl | exact absurd rfl h

/-! ### Reading a lexeme that fits -/

/-- An opener begins a literal that goes on with the body of its delimiter. -/
lemma first_literal {d : Delimiter} {rest body : Text} {closed : Bool}
    (h : literalBody d rest = (body, closed)) :
    first d.opener rest = ⟨.literal d, d.opener :: body, closed⟩ := by
  simp [first, Delimiter.ofOpener?_opener, h]

lemma takeWhile_append {p : Char → Bool} {t rest : Text} (ht : ∀ c ∈ t, p c = true)
    (hrest : ∀ c ∈ rest.head?, p c = false) : (t ++ rest).takeWhile p = t := by
  rw [List.takeWhile_append_of_pos ht]
  cases rest with
  | nil => simp
  | cons c rest =>
    have hc : p c = false := hrest c (by simp)
    simp [hc]

/-- Two hyphens begin a comment that runs to the end of the line. -/
lemma first_comment {t rest : Text} (ht : ∀ c ∈ t, isLineEnd c = false)
    (hrest : ∀ c ∈ rest.head?, isLineEnd c = true) :
    first '-' ('-' :: (t ++ rest)) = ⟨.comment, '-' :: '-' :: t, true⟩ := by
  have htake : ('-' :: (t ++ rest)).takeWhile (!isLineEnd ·) = '-' :: t := by
    rw [← List.cons_append]
    apply takeWhile_append
    · intro c hc
      rcases List.mem_cons.1 hc with rfl | hc
      · simp [isLineEnd_hyphen]
      · simp [ht c hc]
    · intro c hc
      simp [hrest c hc]
  have hopener : Delimiter.ofOpener? '-' = none := by decide
  simp only [first, hopener, List.head?_cons, and_self, if_true, htake]

/-- A word character begins a word that runs as far as word characters do. -/
lemma first_word {c : Char} {t rest : Text} (hc : Text.isWordChar c = true)
    (ht : ∀ x ∈ t, Text.isWordChar x = true)
    (hrest : ∀ x ∈ rest.head?, Text.isWordChar x = false) :
    first c (t ++ rest) = ⟨.word, c :: t, true⟩ := by
  have hplain := Text.isPlain_of_isWordChar hc
  have hhyphen : c ≠ '-' := Text.ne_of_isPlain hplain (by decide)
  simp [first, ofOpener?_of_isPlain hplain, hhyphen, hc, takeWhile_append ht hrest]

lemma first_blank {c : Char} {t rest : Text} (hc : Text.isBlank c = true)
    (ht : ∀ x ∈ t, Text.isBlank x = true)
    (hrest : ∀ x ∈ rest.head?, Text.isBlank x = false) :
    first c (t ++ rest) = ⟨.blank, c :: t, true⟩ := by
  have hhyphen : c ≠ '-' := by
    rintro rfl
    exact absurd hc (by decide)
  simp [first, ofOpener?_of_isBlank hc, hhyphen, Text.isWordChar_eq_false_of_isBlank hc, hc,
    takeWhile_append ht hrest]

/-- A character that begins nothing else is punctuation, a hyphen too unless another one follows. -/
lemma first_punctuation {c : Char} {rest : Text} (hopener : Delimiter.ofOpener? c = none)
    (hword : Text.isWordChar c = false) (hblank : Text.isBlank c = false)
    (hrest : c = '-' → rest.head? ≠ some '-') :
    first c rest = ⟨.punctuation, [c], true⟩ := by
  have hcomment : ¬(c = '-' ∧ rest.head? = some '-') := fun h => hrest h.1 h.2
  simp only [first, hopener, if_neg hcomment, hword, hblank, Bool.false_eq_true, if_false]

/-- A lexeme that fits before the rest of a text is the first one that is read. -/
lemma first_of_fits {x : Lexeme} {rest : Text} (h : Fits x rest.head?) :
    ∃ c t, x.text = c :: t ∧ first c (t ++ rest) = x := by
  -- an open literal fits only where nothing comes after it, so the head has to be a variable
  generalize hnext : rest.head? = next at h
  cases h with
  | @doubled d body _ hd hbody hclosed =>
    subst hnext
    refine ⟨d.opener, body ++ [d.closer], rfl, first_literal ?_⟩
    rw [literalBody_of_ne_brace hd, List.append_assoc]
    exact hbody.doubledBody_append hclosed
  | @brace body _ hbody hlast =>
    refine ⟨'{', body ++ ['}'], rfl, @first_literal .brace _ _ _ ?_⟩
    rw [List.append_assoc]
    exact hbody.braceBody_append hlast rest
  | @openDoubled d body hd hbody =>
    rw [List.head?_eq_none_iff] at hnext
    subst hnext
    refine ⟨d.opener, body, rfl, first_literal ?_⟩
    rw [literalBody_of_ne_brace hd, List.append_nil]
    exact hbody.doubledBody_eq
  | @openBrace body hbody =>
    rw [List.head?_eq_none_iff] at hnext
    subst hnext
    refine ⟨'{', body, rfl, @first_literal .brace _ _ _ ?_⟩
    rw [List.append_nil]
    exact hbody.braceBody_eq
  | @comment t _ ht hend =>
    subst hnext
    exact ⟨'-', '-' :: t, rfl, first_comment ht hend⟩
  | @word t _ hne ht hend =>
    subst hnext
    obtain ⟨c, t, rfl⟩ := List.exists_cons_of_ne_nil hne
    exact ⟨c, t, rfl, first_word (ht c (by simp)) (fun x hx => ht x (by simp [hx])) hend⟩
  | @blank t _ hne ht hend =>
    subst hnext
    obtain ⟨c, t, rfl⟩ := List.exists_cons_of_ne_nil hne
    exact ⟨c, t, rfl, first_blank (ht c (by simp)) (fun x hx => ht x (by simp [hx])) hend⟩
  | @punctuation c _ hopener hword hblank hhyphen =>
    subst hnext
    exact ⟨c, [], rfl, first_punctuation hopener hword hblank hhyphen⟩

/-! ### The first lexeme fits -/

/-- The literal that an opener begins fits what follows it. -/
lemma fits_first_literal {d : Delimiter} (rest : Text) :
    ∃ tail, d.opener :: rest = (first d.opener rest).text ++ tail ∧
      Fits (first d.opener rest) tail.head? := by
  by_cases hd : d = .brace
  · subst hd
    rcases braceBody_cases rest with ⟨body, tail, hbody, hlast, rfl, h⟩ | ⟨hbody, h⟩
    · rw [first_literal (d := .brace) h]
      exact ⟨tail, by simp, .brace hbody hlast⟩
    · rw [first_literal (d := .brace) h]
      exact ⟨[], by simp, .openBrace hbody⟩
  · rcases doubledBody_cases d.closer rest with ⟨body, tail, hbody, htail, rfl, h⟩ | ⟨hbody, h⟩
    · rw [← literalBody_of_ne_brace hd] at h
      rw [first_literal h]
      exact ⟨tail, by simp, .doubled hd hbody htail⟩
    · rw [← literalBody_of_ne_brace hd] at h
      rw [first_literal h]
      exact ⟨[], by simp, .openDoubled hd hbody⟩

/-- A run and the character at which it stops. -/
lemma head?_dropWhile (p : Char → Bool) (t : Text) :
    ∀ c ∈ (t.dropWhile p).head?, p c = false := by
  intro c hc
  have hne : t.dropWhile p ≠ [] := by
    intro hnil
    simp [hnil] at hc
  have hhead := List.head_dropWhile_not p hne
  rw [List.head?_eq_some_head hne, Option.mem_def, Option.some.injEq] at hc
  rwa [hc] at hhead

/-- Every text begins with a run, possibly empty, up to its end or to a character that does not
belong to the run. -/
lemma exists_run (p : Char → Bool) (t : Text) :
    ∃ run tail, t = run ++ tail ∧ (∀ c ∈ run, p c = true) ∧ ∀ c ∈ tail.head?, p c = false :=
  ⟨t.takeWhile p, t.dropWhile p, List.takeWhile_append_dropWhile.symm,
    fun _ hc => List.mem_takeWhile_imp hc, head?_dropWhile p t⟩

/-- What is read first fits before what is left. -/
lemma fits_first (c : Char) (rest : Text) :
    ∃ tail, c :: rest = (first c rest).text ++ tail ∧ Fits (first c rest) tail.head? := by
  -- the cases are tried in the order in which `first` tries them
  by_cases hopener : ∃ d, Delimiter.ofOpener? c = some d
  · obtain ⟨d, hd⟩ := hopener
    rw [opener_of_ofOpener? hd]
    exact fits_first_literal rest
  have hnone : Delimiter.ofOpener? c = none := by
    simpa [← Option.isSome_iff_exists] using hopener
  by_cases hcomment : c = '-' ∧ rest.head? = some '-'
  · obtain ⟨rfl, hrest⟩ := hcomment
    obtain ⟨t, rfl⟩ := List.head?_eq_some_iff.1 hrest
    obtain ⟨run, tail, rfl, hrun, htail⟩ := exists_run (!isLineEnd ·) t
    simp only [Bool.not_eq_true', Bool.not_eq_false'] at hrun htail
    rw [first_comment hrun htail]
    exact ⟨tail, rfl, .comment hrun htail⟩
  by_cases hword : Text.isWordChar c = true
  · obtain ⟨run, tail, rfl, hrun, htail⟩ := exists_run Text.isWordChar rest
    rw [first_word hword hrun htail]
    refine ⟨tail, rfl, .word (by simp) ?_ htail⟩
    intro x hx
    rcases List.mem_cons.1 hx with rfl | hx
    · exact hword
    · exact hrun x hx
  by_cases hblank : Text.isBlank c = true
  · obtain ⟨run, tail, rfl, hrun, htail⟩ := exists_run Text.isBlank rest
    rw [first_blank hblank hrun htail]
    refine ⟨tail, rfl, .blank (by simp) ?_ htail⟩
    intro x hx
    rcases List.mem_cons.1 hx with rfl | hx
    · exact hblank
    · exact hrun x hx
  rw [Bool.not_eq_true] at hword hblank
  have hhyphen : c = '-' → rest.head? ≠ some '-' := fun h hrest => hcomment ⟨h, hrest⟩
  rw [first_punctuation hnone hword hblank hhyphen]
  exact ⟨rest, rfl, .punctuation hnone hword hblank hhyphen⟩

end Lexeme

/-! ## Cutting a text -/

open Lexeme

lemma Lexeme.Fits.text_ne_nil {x : Lexeme} {next : Option Char} (h : Fits x next) :
    x.text ≠ [] := by
  cases h <;> simp_all

/-- A lexeme that fits is cut off first, and the rest is cut as if it stood alone. -/
lemma lexemes_of_fits {x : Lexeme} {rest : Text} (h : Fits x rest.head?) :
    lexemes (x.text ++ rest) = x :: lexemes rest := by
  obtain ⟨c, t, htext, hfirst⟩ := first_of_fits h
  rw [htext, List.cons_append, lexemes, hfirst, htext, ← List.cons_append, List.drop_left]

@[simp] lemma lexemes_nil : lexemes [] = [] := by
  rw [lexemes]

lemma lexemes_singleton {x : Lexeme} (h : Fits x none) : lexemes x.text = [x] := by
  have := @lexemes_of_fits x [] h
  rwa [List.append_nil, lexemes_nil] at this

/-- The text that lexemes spell. -/
def spelling (xs : List Lexeme) : Text :=
  xs.flatMap Lexeme.text

@[simp] lemma spelling_nil : spelling [] = [] := rfl

@[simp] lemma spelling_cons (x : Lexeme) (xs : List Lexeme) :
    spelling (x :: xs) = x.text ++ spelling xs := rfl

@[simp] lemma spelling_append (xs ys : List Lexeme) :
    spelling (xs ++ ys) = spelling xs ++ spelling ys :=
  List.flatMap_append

/-- Every lexeme fits before the text that the lexemes after it spell. -/
def Cut : List Lexeme → Prop
  | [] => True
  | x :: xs => Fits x (spelling xs).head? ∧ Cut xs

/-- A text that is spelled by lexemes that fit one another is cut into them again. -/
lemma lexemes_spelling {xs : List Lexeme} (h : Cut xs) : lexemes (spelling xs) = xs := by
  induction xs with
  | nil => simp
  | cons x xs ih => rw [spelling_cons, lexemes_of_fits h.1, ih h.2]

/-- The lexemes of a text spell it, and they fit one another; the next two lemmas are the halves. -/
lemma spelling_lexemes_and_cut (t : Text) : spelling (lexemes t) = t ∧ Cut (lexemes t) := by
  induction t using lexemes.induct with
  | case1 => simp [Cut]
  | case2 c rest ih =>
    obtain ⟨tail, htail, hfits⟩ := fits_first c rest
    rw [lexemes]
    rw [htail, List.drop_left] at ih ⊢
    refine ⟨?_, ?_, ih.2⟩
    · rw [spelling_cons, ih.1]
    · rwa [ih.1]

@[simp] lemma spelling_lexemes (t : Text) : spelling (lexemes t) = t :=
  (spelling_lexemes_and_cut t).1

lemma cut_lexemes (t : Text) : Cut (lexemes t) :=
  (spelling_lexemes_and_cut t).2

/-- A text is cut in the one way in which every lexeme fits. -/
theorem lexemes_eq_iff {t : Text} {xs : List Lexeme} :
    lexemes t = xs ↔ spelling xs = t ∧ Cut xs := by
  constructor
  · rintro rfl
    exact spelling_lexemes_and_cut t
  · rintro ⟨rfl, h⟩
    exact lexemes_spelling h

/-- Two cuts can be put together where the last lexeme of the first fits the beginning of the
second. -/
lemma Cut.append {xs ys : List Lexeme} (hxs : Cut xs) (hys : Cut ys)
    (h : ∀ x ∈ xs.getLast?, Fits x (spelling ys).head?) : Cut (xs ++ ys) := by
  induction xs with
  | nil => exact hys
  | cons x xs ih =>
    cases xs with
    | nil => exact ⟨h x (by simp), hys⟩
    | cons y xs =>
      -- what comes after `x` starts with `y`, whatever is appended
      obtain ⟨c, t, hc⟩ := List.exists_cons_of_ne_nil hxs.2.1.text_ne_nil
      have hhead : (spelling (y :: (xs ++ ys))).head? = (spelling (y :: xs)).head? := by
        simp [hc]
      refine ⟨?_, ih hxs.2 (by simpa using h)⟩
      change Fits x (spelling (y :: (xs ++ ys))).head?
      rw [hhead]
      exact hxs.1

/-- Two texts are cut apart where the last lexeme of the first fits before the second. -/
lemma lexemes_append {s t : Text} (h : ∀ x ∈ (lexemes s).getLast?, Fits x t.head?) :
    lexemes (s ++ t) = lexemes s ++ lexemes t := by
  rw [lexemes_eq_iff]
  refine ⟨by simp, (cut_lexemes s).append (cut_lexemes t) ?_⟩
  simpa using h

end SqlIndent
