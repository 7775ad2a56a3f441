import SqlIndent.Proofs.Span.Grammar

/-!
# Neighbouring spans

What the significant spans of a text have to do with each other once the blanks between them are
gone: only the last one can be a literal that lacks its closer, and where a span stands right
against the next one, it fits before the first character of that next one. Everything that is said
about layouts rests on these two facts.
-/

namespace SqlIndent

open Lexeme

namespace Lexeme.Fits

/-! ## Shapes by kind -/

lemma blank_shape {x : Lexeme} {next : Option Char} (h : Fits x next) (hx : x.kind = .blank) :
    x.text ≠ [] ∧ (∀ c ∈ x.text, Text.isBlank c = true) ∧
      ∀ c ∈ next, Text.isBlank c = false := by
  cases h with
  | blank hne ht hend => exact ⟨hne, ht, hend⟩
  | _ => simp at hx

/-- A word is a maximal run of word characters. -/
lemma word_shape {x : Lexeme} {next : Option Char} (h : Fits x next) (hx : x.kind = .word) :
    x.text ≠ [] ∧ (∀ c ∈ x.text, Text.isWordChar c = true) ∧
      ∀ c ∈ next, Text.isWordChar c = false := by
  cases h with
  | word hne ht hend => exact ⟨hne, ht, hend⟩
  | _ => simp at hx

/-- Punctuation is a single character, neither a word character nor a blank. -/
lemma punctuation_shape {x : Lexeme} {next : Option Char} (h : Fits x next)
    (hx : x.kind = .punctuation) :
    ∃ c, x.text = [c] ∧ Text.isWordChar c = false ∧ Text.isBlank c = false := by
  cases h with
  | @punctuation c _ _ hword hblank _ => exact ⟨c, rfl, hword, hblank⟩
  | _ => simp at hx

/-- A comment begins with two hyphens and runs to the end of the line. -/
lemma comment_shape {x : Lexeme} {next : Option Char} (h : Fits x next) (hx : x.kind = .comment) :
    x.terminated = true ∧ (∃ t, x.text = '-' :: '-' :: t ∧ ∀ c ∈ t, isLineEnd c = false) ∧
      ∀ c ∈ next, isLineEnd c = true := by
  cases h with
  | @comment t _ ht hend => exact ⟨rfl, ⟨t, rfl, ht⟩, hend⟩
  | _ => simp at hx

lemma literal_head? {x : Lexeme} {next : Option Char} {d : Delimiter} (h : Fits x next)
    (hx : x.kind = .literal d) : x.text.head? = some d.opener := by
  cases h with
  | doubled _ _ _ => cases hx; rfl
  | brace _ _ => cases hx; rfl
  | openDoubled _ _ => cases hx; rfl
  | openBrace _ => cases hx; rfl
  | _ => simp at hx

/-- A closed literal begins with its opener and ends with its closer. -/
lemma literal_shape {x : Lexeme} {next : Option Char} {d : Delimiter} (h : Fits x next)
    (hx : x.kind = .literal d) (hclosed : x.terminated = true) :
    ∃ body, x.text = d.opener :: (body ++ [d.closer]) := by
  cases h with
  | @doubled d' body _ _ _ _ =>
    cases hx
    exact ⟨body, rfl⟩
  | @brace body _ _ _ =>
    cases hx
    exact ⟨body, rfl⟩
  | openDoubled _ _ => exact absurd hclosed (by simp)
  | openBrace _ => exact absurd hclosed (by simp)
  | _ => simp at hx

/-- Lexemes other than blanks start with a character that is not blank. -/
lemma isBlank_head? {x : Lexeme} {next : Option Char} (h : Fits x next) (hkind : x.kind ≠ .blank) :
    ∀ c ∈ x.text.head?, Text.isBlank c = false := by
  intro c hc
  cases h with
  | @doubled d _ _ _ _ _ => cases hc; cases d <;> decide
  | brace _ _ => cases hc; decide
  | @openDoubled d _ _ _ => cases hc; cases d <;> decide
  | openBrace _ => cases hc; decide
  | comment _ _ => cases hc; decide
  | word _ ht _ =>
    have hword := ht c (List.mem_of_head? hc)
    exact Text.isBlank_eq_false_of_isPlain (Text.isPlain_of_isWordChar hword)
  | blank _ _ _ => exact absurd rfl hkind
  | punctuation _ _ hblank _ => cases hc; exact hblank

/-! ## What may come after a lexeme instead -/

/-- What fits some character fits the end of the text as well. -/
lemma atEnd {x : Lexeme} {next : Option Char} (h : Fits x next) : Fits x none := by
  cases h with
  | doubled hd hbody _ => exact .doubled hd hbody (by simp)
  | brace hbody hlast => exact .brace hbody hlast
  | openDoubled hd hbody => exact .openDoubled hd hbody
  | openBrace hbody => exact .openBrace hbody
  | comment ht _ => exact .comment ht (by simp)
  | word hne ht _ => exact .word hne ht (by simp)
  | blank hne ht _ => exact .blank hne ht (by simp)
  | punctuation hopener hword hblank _ => exact .punctuation hopener hword hblank (by simp)

/-- Blanks may follow everything but blanks; a comment has to be followed by a line end. -/
lemma before_blank {x : Lexeme} {next : Option Char} {c : Char} (h : Fits x next)
    (hclosed : x.terminated = true) (hkind : x.kind ≠ .blank) (hc : Text.isBlank c = true)
    (hcomment : x.kind = .comment → isLineEnd c = true) : Fits x (some c) := by
  cases h with
  | @doubled d body _ hd hbody _ =>
    refine .doubled hd hbody ?_
    intro hnext
    rw [Option.some.injEq] at hnext
    subst hnext
    exact absurd hc (by cases d <;> decide)
  | brace hbody hlast => exact .brace hbody hlast
  | openDoubled _ _ => exact absurd hclosed (by simp)
  | openBrace _ => exact absurd hclosed (by simp)
  | comment ht _ => exact .comment ht (by simpa using hcomment rfl)
  | word hne ht _ => exact .word hne ht (by simpa using Text.isWordChar_eq_false_of_isBlank hc)
  | blank _ _ _ => exact absurd rfl hkind
  | punctuation hopener hword hblank _ =>
    refine .punctuation hopener hword hblank fun _ hnext => ?_
    rw [Option.some.injEq] at hnext
    subst hnext
    exact absurd hc (by decide)

/-- A closed lexeme that is not blank may be followed by a line feed. -/
lemma before_lineFeed {x : Lexeme} {next : Option Char} (h : Fits x next)
    (hclosed : x.terminated = true) (hkind : x.kind ≠ .blank) : Fits x (some '\n') :=
  h.before_blank hclosed hkind (by decide) fun _ => by decide

/-- A closed lexeme that is neither blank nor a comment may be followed by a space. -/
lemma before_space {x : Lexeme} {next : Option Char} (h : Fits x next)
    (hclosed : x.terminated = true) (hkind : x.kind ≠ .blank) (hcomment : x.kind ≠ .comment) :
    Fits x (some ' ') :=
  h.before_blank hclosed hkind (by decide) fun hx => absurd hx hcomment

/-- A comma may follow everything but a comment. -/
lemma before_comma {x : Lexeme} {next : Option Char} (h : Fits x next)
    (hclosed : x.terminated = true) (hcomment : x.kind ≠ .comment) : Fits x (some ',') := by
  cases h with
  | @doubled d body _ hd hbody _ => exact .doubled hd hbody (by cases d <;> decide)
  | brace hbody hlast => exact .brace hbody hlast
  | openDoubled _ _ => exact absurd hclosed (by simp)
  | openBrace _ => exact absurd hclosed (by simp)
  | comment _ _ => exact absurd rfl hcomment
  | word hne ht _ => exact .word hne ht (by simp; decide +kernel)
  | blank hne ht _ => exact .blank hne ht (by simp; decide)
  | punctuation hopener hword hblank _ => exact .punctuation hopener hword hblank (by simp)

/-- What may be followed by a word character may be followed by any plain character. -/
lemma before_plain {x : Lexeme} {c c' : Char} (h : Fits x (some c))
    (hc : Text.isWordChar c = true) (hc' : Text.isPlain c' = true) : Fits x (some c') := by
  cases h with
  | @doubled d _ _ hd hbody _ =>
    refine .doubled hd hbody ?_
    rw [ne_eq, Option.some.injEq]
    exact Text.ne_of_isPlain hc' (by cases d <;> decide)
  | brace hbody hlast => exact .brace hbody hlast
  | comment _ hend =>
    have hline := hend c rfl
    simp only [isLineEnd, Bool.or_eq_true, beq_iff_eq] at hline
    rcases hline with rfl | rfl
    · exact absurd hc (by decide +kernel)
    · exact absurd hc (by decide +kernel)
  | word _ _ hend => exact absurd hc (by simp [hend c rfl])
  | blank hne ht _ =>
    exact .blank hne ht (by simpa using Text.isBlank_eq_false_of_isPlain hc')
  | punctuation hopener hword hblank _ =>
    refine .punctuation hopener hword hblank fun _ => ?_
    rw [ne_eq, Option.some.injEq]
    exact Text.ne_of_isPlain hc' (by decide)

/-- Only at the end of the text can a literal lack its closer. -/
lemma terminated {x : Lexeme} {c : Char} (h : Fits x (some c)) : x.terminated = true := by
  cases h <;> rfl

/-- Nothing but a literal can lack its closer. -/
lemma terminated_of_literal {x : Lexeme} {next : Option Char} (h : Fits x next)
    (hliteral : ∀ d, x.kind = .literal d → x.terminated = true) : x.terminated = true := by
  cases h with
  | openDoubled _ _ => exact hliteral _ rfl
  | openBrace _ => exact hliteral _ rfl
  | _ => rfl

end Lexeme.Fits

/-! ## Spans without their places -/

/-- A span as a lexeme: kind, text, and whether it is closed. -/
def Span.lexeme (s : Span) : Lexeme :=
  ⟨s.kind, s.text, s.terminated⟩

@[simp] lemma Span.lexeme_kind (s : Span) : s.lexeme.kind = s.kind := rfl

@[simp] lemma Span.lexeme_text (s : Span) : s.lexeme.text = s.text := rfl

@[simp] lemma Span.lexeme_terminated (s : Span) : s.lexeme.terminated = s.terminated := rfl

/-- The lexemes of a text, blanks left out. -/
def tokens (t : Text) : List Lexeme :=
  (lexemes t).filter (·.kind != .blank)

/-- The significant spans of a text that is placed at byte `start`; `spaced` tells whether blanks
come right before it. -/
def significantFrom (start : Nat) (spaced : Bool) (t : Text) : List Span :=
  (locate start spaced (lexemes t)).filter (·.kind != .blank)

/-- Places do not change the lexemes. -/
lemma map_lexeme_locate (start : Nat) (spaced : Bool) (xs : List Lexeme) :
    (locate start spaced xs).map Span.lexeme = xs := by
  induction xs generalizing start spaced with
  | nil => rfl
  | cons x xs ih => rw [locate, List.map_cons, ih, Span.lexeme]

/-- Significant spans are the tokens of the text, with their places. -/
lemma map_lexeme_significantFrom (start : Nat) (spaced : Bool) (t : Text) :
    (significantFrom start spaced t).map Span.lexeme = tokens t := by
  have h := map_lexeme_locate start spaced (lexemes t)
  rw [tokens, ← h, List.filter_map]
  rfl

lemma map_lexeme_significant (t : Text) : (significant t).map Span.lexeme = tokens t :=
  map_lexeme_significantFrom 0 false t

lemma lexeme_mem_lexemes {t : Text} {s : Span} (h : s ∈ significant t) : s.lexeme ∈ lexemes t := by
  have hmem : s.lexeme ∈ tokens t := map_lexeme_significant t ▸ List.mem_map_of_mem h
  exact (List.mem_filter.1 hmem).1

/-- The span of a lexeme that stands at byte `start`. -/
def Lexeme.located (x : Lexeme) (start : Nat) (spaced : Bool) : Span :=
  ⟨x.kind, x.text, start, spaced, x.terminated⟩

@[simp] lemma Lexeme.located_kind (x : Lexeme) (start : Nat) (spaced : Bool) :
    (x.located start spaced).kind = x.kind := rfl

@[simp] lemma Lexeme.located_spaced (x : Lexeme) (start : Nat) (spaced : Bool) :
    (x.located start spaced).spaced = spaced := rfl

/-- A lexeme that fits before the rest of the text is cut off there. -/
lemma significantFrom_cons {x : Lexeme} {rest : Text} (h : Fits x rest.head?) (start : Nat)
    (spaced : Bool) :
    significantFrom start spaced (x.text ++ rest)
      = [x.located start spaced].filter (·.kind != .blank) ++
        significantFrom (start + x.text.utf8Length) (x.kind == .blank) rest := by
  rw [significantFrom, lexemes_of_fits h, locate, ← List.singleton_append, List.filter_append]
  rfl

/-- It becomes a span of its own if it is not a run of blanks. -/
lemma significantFrom_of_fits {x : Lexeme} {rest : Text} (h : Fits x rest.head?)
    (hkind : x.kind ≠ .blank) (start : Nat) (spaced : Bool) :
    significantFrom start spaced (x.text ++ rest)
      = x.located start spaced :: significantFrom (start + x.text.utf8Length) false rest := by
  have hblank : (x.kind == .blank) = false := by simpa using hkind
  rw [significantFrom_cons h, hblank, List.filter_cons_of_pos (by simpa using hkind)]
  rfl

/-- A run of blanks is noted in the next span, whatever is noted before it. -/
lemma significantFrom_blank {x : Lexeme} {rest : Text} (h : Fits x rest.head?)
    (hkind : x.kind = .blank) (start : Nat) (spaced : Bool) :
    significantFrom start spaced (x.text ++ rest)
      = significantFrom (start + x.text.utf8Length) true rest := by
  have hblank : (x.kind == .blank) = true := by simpa using hkind
  rw [significantFrom_cons h, hblank, List.filter_cons_of_neg (by simp [hkind])]
  rfl

/-- Blanks at the front of a text are noted in its first span. -/
lemma significantFrom_blanks {g t : Text} (hg : ∀ c ∈ g, Text.isBlank c = true)
    (ht : ∀ c ∈ t.head?, Text.isBlank c = false) (start : Nat) :
    significantFrom start false (g ++ t)
      = significantFrom (start + g.utf8Length) (!g.isEmpty) t := by
  by_cases hnil : g = []
  · rw [hnil]
    rfl
  · have hfits : Fits ⟨.blank, g, true⟩ t.head? := .blank hnil hg ht
    have hspaced : (!g.isEmpty) = true := by simpa using hnil
    rw [hspaced]
    exact significantFrom_blank hfits rfl start false

/-! ## Connected spans -/

/-- What a significant span of a text has to do with the significant spans after it. -/
structure Span.Precedes (s : Span) (rest : List Span) : Prop where
  solid : s.kind ≠ .blank
  shape : Fits s.lexeme none
  /-- Only the last span can lack its closer. -/
  closed : rest ≠ [] → s.terminated = true
  /-- A span that touches the next one fits before its first character. -/
  touching : ∀ next ∈ rest.head?, next.spaced = false → Fits s.lexeme next.text.head?

/-- Spans that stand in a row like the significant spans of a text. -/
def Connected : List Span → Prop
  | [] => True
  | s :: rest => s.Precedes rest ∧ Connected rest

/-- After a lexeme the rest of a cut text starts with the next lexeme. -/
lemma head?_spelling_cons {x : Lexeme} {xs : List Lexeme} (h : Cut (x :: xs)) :
    (spelling (x :: xs)).head? = x.text.head? := by
  obtain ⟨c, t, hc⟩ := List.exists_cons_of_ne_nil h.1.text_ne_nil
  simp [hc]

/-- Two runs of blanks never stand side by side. -/
lemma kind_ne_blank_of_cut {x y : Lexeme} {xs : List Lexeme} (h : Cut (x :: y :: xs))
    (hx : x.kind = .blank) : y.kind ≠ .blank := by
  intro hy
  have hfits : Fits x y.text.head? := head?_spelling_cons h.2 ▸ h.1
  obtain ⟨hne, hblank, -⟩ := h.2.1.blank_shape hy
  obtain ⟨c, t, hc⟩ := List.exists_cons_of_ne_nil hne
  have hend := (hfits.blank_shape hx).2.2 c (by simp [hc])
  rw [hblank c (by simp [hc])] at hend
  exact absurd hend (by decide)

/-- Spans of a cut are connected once the blank ones are left out: what touches the next span still
fits before it, and only the last span can lack its closer. -/
lemma connected_locate {xs : List Lexeme} (h : Cut xs) (start : Nat) (spaced : Bool) :
    Connected ((locate start spaced xs).filter (·.kind != .blank)) := by
  induction xs generalizing start spaced with
  | nil => trivial
  | cons x xs ih =>
    rw [locate, List.filter_cons]
    have hrest := ih h.2 (start + x.text.utf8Length) (x.kind == .blank)
    by_cases hx : x.kind = .blank
    · simpa [hx] using hrest
    rw [if_pos (by simpa using hx)]
    refine ⟨⟨hx, h.1.atEnd, ?_, ?_⟩, hrest⟩
    · -- something comes after `x`, so `x` fits before a character
      intro hne
      cases xs with
      | nil => simp [locate] at hne
      | cons y ys =>
        have hfits : Fits x y.text.head? := head?_spelling_cons h.2 ▸ h.1
        obtain ⟨c, t, hc⟩ := List.exists_cons_of_ne_nil h.2.1.text_ne_nil
        rw [hc] at hfits
        exact hfits.terminated
    · intro next hnext hspaced
      cases xs with
      | nil => simp [locate] at hnext
      | cons y ys =>
        have hfits : Fits x y.text.head? := head?_spelling_cons h.2 ▸ h.1
        by_cases hy : y.kind = .blank
        · -- the next span comes after the blank `y`, so it is spaced
          cases ys with
          | nil => simp [locate, hy] at hnext
          | cons z zs =>
            have hz := kind_ne_blank_of_cut h.2 hy
            simp [locate, hy, hz] at hnext
            subst hnext
            simp at hspaced
        · simp [locate, hy] at hnext
          subst hnext
          exact hfits

/-- The significant spans of a text are connected. -/
lemma connected_significantFrom (start : Nat) (spaced : Bool) (t : Text) :
    Connected (significantFrom start spaced t) :=
  connected_locate (cut_lexemes t) start spaced

/-- The significant spans of a text are connected. -/
theorem connected_significant (t : Text) : Connected (significant t) :=
  connected_significantFrom 0 false t

end SqlIndent
