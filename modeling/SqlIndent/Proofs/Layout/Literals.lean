import SqlIndent.Proofs.Layout.Tokens

/-!
# Literals of formatted text

Formatting never opens, closes, drops or recases a literal. Of all spans only commas and comments
move, and the pieces of words, punctuation and comments hold no literals, however they are cased. So
the literals of a formatted text are those of its source, with each closed quoted literal split into
its words (`literals_format`).
-/

namespace SqlIndent

open Lexeme

/-- Whether a kind is that of a literal. -/
def Kind.isLiteral : Kind → Bool
  | .literal _ => true
  | _ => false

/-- The literals of a text, in order. -/
def literals (t : Text) : List Span :=
  (significant t).filter (·.kind.isLiteral)

/-- What stands inside a quoted literal: all but its quotes, of which an open literal has one. -/
def Lexeme.quotedBody (x : Lexeme) : Text :=
  if x.terminated then x.text.inner else x.text.tail

/-- The words inside a quoted literal, each with its kind of quotes. -/
def Lexeme.wordsInside (x : Lexeme) : List (Delimiter × Text) :=
  match x.kind with
  | .literal d => if d.isQuote then x.quotedBody.words.map (d, ·) else []
  | _ => []

/-- The words inside the quoted literals of a text, in order. -/
def literalWords (t : Text) : List (Delimiter × Text) :=
  (literals t).flatMap fun s => s.lexeme.wordsInside

namespace Layout

variable {options : Options}

/-! ## The literals of one piece -/

/-- A lexeme made of plain characters is no literal, for it would start with its opener. -/
lemma isLiteral_eq_false_of_isPlain {x : Lexeme} {next : Option Char} (h : Fits x next)
    (hplain : ∀ c ∈ x.text, Text.isPlain c = true) : x.kind.isLiteral = false := by
  cases hk : x.kind with
  | literal d =>
    have hopener : d.opener ∈ x.text := List.mem_of_head? (h.literal_head? hk)
    exact absurd (hplain _ hopener) (by cases d <;> decide)
  | _ => rfl

/-- The piece of a word holds no literal, also where upper-casing makes it fall apart. -/
lemma filter_literal_tokens_word {s : Span} (h : Fits s.lexeme none) (hkind : s.kind = .word) :
    (tokens (piece options s)).filter (·.kind.isLiteral) = [] := by
  rw [List.filter_eq_nil_iff]
  intro x hx
  have hmem : x ∈ lexemes (piece options s) := List.mem_of_mem_filter hx
  obtain ⟨next, hfits⟩ := exists_fits_of_mem (cut_lexemes _) hmem
  have hplain : ∀ c ∈ x.text, Text.isPlain c = true := by
    intro c hc
    have hpiece := mem_spelling hmem hc
    rw [spelling_lexemes] at hpiece
    exact (piece_word_shape options h hkind).2 c hpiece
  simp [isLiteral_eq_false_of_isPlain hfits hplain]

/-- A piece holds the literals that are kept of its span, and none if its span is no literal. -/
lemma filter_literal_tokens_piece {s : Span} (h : Fits s.lexeme none) (hkind : s.kind ≠ .blank) :
    (tokens (piece options s)).filter (·.kind.isLiteral)
      = if s.kind.isLiteral then s.kept else [] := by
  cases hk : s.kind with
  | literal d =>
    rw [piece_literal hk, if_pos (by rfl), Span.kept, hk]
    dsimp only
    by_cases hquote : (d.isQuote && s.terminated) = true
    · rw [if_pos hquote]
      rw [Bool.and_eq_true] at hquote
      rw [tokens_quote h hk hquote.1 hquote.2, List.filter_eq_self.2]
      · rfl
      · intro x hx
        obtain ⟨t, -, rfl⟩ := List.mem_map.1 hx
        rfl
    · rw [if_neg hquote]
      rw [Bool.not_eq_true] at hquote
      simp [tokens_verbatim h hk hquote, hk, Kind.isLiteral]
  | comment => simp [tokens_comment h hk, trimmedComment, Kind.isLiteral]
  | punctuation => simp [tokens_punctuation h hk, hk, Kind.isLiteral]
  | word => exact filter_literal_tokens_word h hk
  | blank => exact absurd hk hkind

/-! ## The literals of a formatted text -/

/-- Of the pieces of the spans, the literals are what is kept of the literal spans. -/
lemma filter_literal_flatMap_tokens {spans : List Span} (h : Connected spans) :
    (spans.flatMap fun s => tokens (piece options s)).filter (·.kind.isLiteral)
      = (spans.filter (·.kind.isLiteral)).flatMap Span.kept := by
  induction spans with
  | nil => rfl
  | cons s rest ih =>
    rw [List.flatMap_cons, List.filter_append, filter_literal_tokens_piece h.1.shape h.1.solid,
      ih h.2, List.filter_cons]
    by_cases hliteral : s.kind.isLiteral = true <;> simp [hliteral]

/-- Joining comments takes away commas and comments only. -/
lemma filter_literal_reattached (spans : List Span) :
    (reattached spans).filter (·.kind.isLiteral) = spans.filter (·.kind.isLiteral) := by
  induction spans using reattached.induct with
  | case1 => rw [reattached_nil]
  | case2 s spans d rest hahead ih =>
    obtain ⟨p, rfl, hs, hp, hd⟩ := commentAhead?_eq_some hahead
    have hcomma : p.kind = .punctuation := (Span.isComma_iff.1 hp).1
    rw [reattached_of_some hahead, ih]
    simp [hs, hcomma, hd, Kind.isLiteral]
  | case3 s spans hahead ih =>
    rw [reattached_of_none hahead, List.filter_cons, ih, List.filter_cons]

lemma map_lexeme_literals (t : Text) :
    (literals t).map Span.lexeme = (tokens t).filter (·.kind.isLiteral) := by
  rw [literals, ← map_lexeme_significant, List.filter_map]
  rfl

/-- The literals of a formatted text are the pieces that are kept of the literals of the source. -/
lemma map_lexeme_literals_format (options : Options) (keywords : KeywordSet) (t : Text) :
    (literals (format options keywords t)).map Span.lexeme = (literals t).flatMap Span.kept := by
  have hconnected := connected_reattached (connected_significant t)
  rw [map_lexeme_literals, tokens_format, filter_literal_flatMap_tokens hconnected,
    filter_literal_reattached, literals]

/-! ## The words inside quoted literals -/

/-- A word between quotes is the one word inside them. -/
lemma wordsInside_quoted {d : Delimiter} (hquote : d.isQuote = true) {w : Text} (hne : w ≠ [])
    (hsolid : ∀ c ∈ w, Text.isBlank c = false) :
    (closedLiteral d (quoted d.opener w)).wordsInside = [(d, w)] := by
  have hbody : (closedLiteral d (quoted d.opener w)).quotedBody = w := by
    rw [Lexeme.quotedBody, closedLiteral, if_pos rfl, inner_quoted]
  rw [Lexeme.wordsInside, hbody, Text.words_of_forall hne hsolid, closedLiteral]
  simp [hquote]

/-- A word in quotes of its own holds just that word. -/
lemma flatMap_wordsInside_map_quoted {d : Delimiter} (hquote : d.isQuote = true) {ws : List Text}
    (hws : ∀ w ∈ ws, w ≠ [] ∧ ∀ c ∈ w, Text.isBlank c = false) :
    ((ws.map (quoted d.opener)).map (closedLiteral d)).flatMap Lexeme.wordsInside
      = ws.map (d, ·) := by
  induction ws with
  | nil => rfl
  | cons w ws ih =>
    obtain ⟨hne, hsolid⟩ := hws w (by simp)
    rw [List.map_cons, List.map_cons, List.flatMap_cons, wordsInside_quoted hquote hne hsolid,
      ih fun v hv => hws v (by simp [hv])]
    rfl

/-- Splitting a quoted literal keeps its words. -/
lemma flatMap_wordsInside_quotedWords {d : Delimiter} (hquote : d.isQuote = true) (t : Text) :
    ((quotedWords d.opener t).map (closedLiteral d)).flatMap Lexeme.wordsInside
      = t.inner.words.map (d, ·) := by
  unfold quotedWords
  split
  next hnone =>
    -- no word, so the literal is left empty
    rw [hnone]
    simp [Lexeme.wordsInside, Lexeme.quotedBody, closedLiteral, inner_quoted]
  · exact flatMap_wordsInside_map_quoted hquote fun w hw => Text.mem_words hw

/-- What is kept of a literal has the same words inside. -/
lemma flatMap_wordsInside_kept {s : Span} (h : s.kind.isLiteral = true) :
    s.kept.flatMap Lexeme.wordsInside = s.lexeme.wordsInside := by
  cases hk : s.kind with
  | literal d =>
    rw [Span.kept, hk]
    dsimp only
    by_cases hquote : (d.isQuote && s.terminated) = true
    · rw [if_pos hquote]
      rw [Bool.and_eq_true] at hquote
      have hwords := flatMap_wordsInside_quotedWords hquote.1 s.text
      have hbody : s.lexeme.quotedBody = s.text.inner := by
        rw [Lexeme.quotedBody, Span.lexeme_terminated, if_pos hquote.2, Span.lexeme_text]
      rw [Lexeme.wordsInside, Span.lexeme_kind, hk, hbody]
      dsimp only
      rw [if_pos hquote.1]
      exact hwords
    · rw [if_neg hquote, List.flatMap_singleton]
  | _ => simp [hk, Kind.isLiteral] at h

/-- The words in the literals of a text are told by the lexemes alone. -/
lemma literalWords_eq (t : Text) :
    literalWords t = ((literals t).map Span.lexeme).flatMap Lexeme.wordsInside := by
  rw [literalWords, List.flatMap_map]

end Layout

open Layout

/-- **Literals are stable.** Whatever the case of the words around them, the literals of a formatted
text are those of the source: brace and bracket literals and literals without a closer as they
stand, and each closed quoted literal as one literal for each word inside it, or as an empty one
where there is no word. So the words inside quotes stay the same, in the same order and case. -/
theorem literals_format (options : Options) (keywords : KeywordSet) (t : Text) :
    (literals (format options keywords t)).map Span.lexeme = (literals t).flatMap Span.kept ∧
      literalWords (format options keywords t) = literalWords t := by
  have hliterals := map_lexeme_literals_format options keywords t
  refine ⟨hliterals, ?_⟩
  rw [literalWords_eq, hliterals, List.flatMap_assoc, literalWords]
  apply List.flatMap_congr
  intro s hs
  exact flatMap_wordsInside_kept (List.mem_filter.1 hs).2

end SqlIndent
