import SqlIndent.Proofs.Layout.Reattached

/-!
# What formatting keeps

A formatted text has the tokens of its source, up to three changes that are meant: the words of a
quoted literal become literals of their own, trailing blanks of comments are dropped, and words
are upper-cased on request. A comma between two comments is the one thing that gets lost, and it
takes the second comment with it: it moves up behind the first comment and becomes part of it.
`tokens_format_eq_iff` and `comments_format_eq_iff` say that this is the exact condition.
-/

namespace SqlIndent

open Lexeme

/-- A comma directly between two comments. -/
def CommaBetweenComments (spans : List Span) : Prop :=
  ∃ a b c, [a, b, c] <:+: spans ∧ a.kind = .comment ∧ b.isComma = true ∧ c.kind = .comment

/-- What is kept of a span where words keep their case: the words of a closed quoted literal as
literals of their own, or an empty literal where there is no word; a comment without its trailing
blanks; any other span as it is. -/
def Span.kept (s : Span) : List Lexeme :=
  match s.kind with
  | .literal d =>
    if d.isQuote && s.terminated then
      (quotedWords d.opener s.text).map fun t => ⟨.literal d, t, true⟩
    else [s.lexeme]
  | .comment => [⟨.comment, Text.trimEnd s.text, s.terminated⟩]
  | _ => [s.lexeme]

/-- The texts of the comments, in order. -/
def comments (t : Text) : List Text :=
  ((significant t).filter (·.kind == .comment)).map Span.text

namespace Layout

variable {options : Options}

/-! ## Commas between comments -/

lemma commaBetweenComments_cons {s : Span} {spans : List Span} :
    CommaBetweenComments (s :: spans)
      ↔ (commentAhead? s spans).isSome = true ∨ CommaBetweenComments spans := by
  constructor
  · rintro ⟨a, b, c, hinfix, ha, hb, hc⟩
    rcases List.infix_cons_iff.1 hinfix with ⟨after, hafter⟩ | hinfix
    · rw [List.cons_append, List.cons.injEq] at hafter
      obtain ⟨rfl, rfl⟩ := hafter
      simp [commentAhead?, ha, hb, hc]
    · exact Or.inr ⟨a, b, c, hinfix, ha, hb, hc⟩
  · rintro (hahead | ⟨a, b, c, hinfix, h⟩)
    · obtain ⟨⟨d, rest⟩, hsome⟩ := Option.isSome_iff_exists.1 hahead
      obtain ⟨p, rfl, hs, hp, hd⟩ := commentAhead?_eq_some hsome
      exact ⟨s, p, d, List.infix_cons_iff.2 (Or.inl ⟨rest, rfl⟩), hs, hp, hd⟩
    · exact ⟨a, b, c, List.infix_cons hinfix, h⟩

/-- Where no comma stands between comments, nothing is joined. -/
lemma reattached_eq_self {spans : List Span} (h : ¬CommaBetweenComments spans) :
    reattached spans = spans := by
  induction spans with
  | nil => exact reattached_nil
  | cons s spans ih =>
    rw [commaBetweenComments_cons, not_or, Option.not_isSome_iff_eq_none] at h
    rw [reattached_of_none h.1, ih h.2]

/-- Joining comments makes them no more. -/
lemma countP_reattached_le (spans : List Span) :
    (reattached spans).countP (·.kind == .comment) ≤ spans.countP (·.kind == .comment) := by
  induction spans using reattached.induct with
  | case1 => rw [reattached_nil]
  | case2 s spans d rest hahead ih =>
    obtain ⟨p, rfl, hs, -, hd⟩ := commentAhead?_eq_some hahead
    rw [reattached_of_some hahead]
    refine Nat.le_trans ih ?_
    simp only [List.countP_cons, joined_kind, hs, hd]
    omega
  | case3 s spans hahead ih =>
    rw [reattached_of_none hahead]
    simp only [List.countP_cons]
    omega

/-- Each comma between comments costs a comment. -/
lemma countP_reattached_lt {spans : List Span} (h : CommaBetweenComments spans) :
    (reattached spans).countP (·.kind == .comment) < spans.countP (·.kind == .comment) := by
  induction spans with
  | nil =>
    obtain ⟨a, b, c, hinfix, -⟩ := h
    simp at hinfix
  | cons s spans ih =>
    rcases hahead : commentAhead? s spans with _ | ⟨d, rest⟩
    · rw [commaBetweenComments_cons, hahead] at h
      rw [reattached_of_none hahead]
      simp only [List.countP_cons]
      have := ih (by simpa using h)
      omega
    · rw [reattached_of_some hahead]
      refine Nat.lt_of_le_of_lt (countP_reattached_le _) ?_
      obtain ⟨p, rfl, hs, -, hd⟩ := commentAhead?_eq_some hahead
      simp only [List.countP_cons, joined_kind, hs, hd, beq_self_eq_true, if_true]
      omega

/-! ## The tokens of one piece -/

/-- The text of one lexeme is cut into that lexeme. -/
lemma tokens_singleton {x : Lexeme} (h : Fits x none) (hkind : x.kind ≠ .blank) :
    tokens x.text = [x] := by
  simp [tokens, lexemes_singleton h, hkind]

/-- A closed quoted literal is cut into its words, each a literal of its own. -/
lemma tokens_quote {s : Span} {d : Delimiter} (h : Fits s.lexeme none)
    (hkind : s.kind = .literal d) (hquote : d.isQuote = true) (hclosed : s.terminated = true) :
    tokens s.written = (quotedWords d.opener s.text).map (closedLiteral d) := by
  have hlexemes := @lexemes_written_quote s d [] h hkind hquote hclosed
  rw [List.append_nil, lexemes_nil, List.append_nil] at hlexemes
  rw [tokens, hlexemes, filter_spacedLiterals]

lemma tokens_verbatim {s : Span} {d : Delimiter} (h : Fits s.lexeme none)
    (hkind : s.kind = .literal d) (hverbatim : (d.isQuote && s.terminated) = false) :
    tokens s.written = [s.lexeme] := by
  rw [written_verbatim hkind hverbatim]
  exact tokens_singleton h (by simp [hkind])

lemma tokens_comment {s : Span} (h : Fits s.lexeme none) (hkind : s.kind = .comment) :
    tokens (piece options s) = [trimmedComment s] := by
  rw [piece_comment hkind]
  exact tokens_singleton (fits_trimmedComment h hkind) (by simp [trimmedComment])

lemma tokens_punctuation {s : Span} (h : Fits s.lexeme none) (hkind : s.kind = .punctuation) :
    tokens (piece options s) = [s.lexeme] := by
  obtain ⟨c, htext, hpiece, -, -⟩ := piece_punctuation_shape options h hkind
  rw [hpiece, ← htext]
  exact tokens_singleton h (by simp [hkind])

/-- Where words keep their case, the tokens of a piece are what is kept of its span. -/
lemma tokens_piece_eq_kept {indentSize : Nat} {s : Span} (h : Fits s.lexeme none)
    (hkind : s.kind ≠ .blank) : tokens (piece ⟨false, indentSize⟩ s) = s.kept := by
  unfold Span.kept
  cases hk : s.kind with
  | literal d =>
    dsimp only
    rw [piece_literal hk]
    by_cases hquote : (d.isQuote && s.terminated) = true
    · rw [if_pos hquote]
      rw [Bool.and_eq_true] at hquote
      exact tokens_quote h hk hquote.1 hquote.2
    · rw [if_neg hquote]
      rw [Bool.not_eq_true] at hquote
      exact tokens_verbatim h hk hquote
  | comment =>
    have hclosed : s.terminated = true := (h.comment_shape hk).1
    rw [tokens_comment h hk, trimmedComment, hclosed]
  | punctuation => exact tokens_punctuation h hk
  | word =>
    have hpiece : piece ⟨false, indentSize⟩ s = s.text := by
      rw [piece_code (by simp [Span.isCode, hk])]
      rfl
    rw [hpiece]
    exact tokens_singleton h hkind
  | blank => exact absurd hk hkind

/-- Whatever the case, a piece holds a comment exactly if its span is one. -/
lemma filter_tokens_piece {s : Span} (h : Fits s.lexeme none) (hkind : s.kind ≠ .blank) :
    (tokens (piece options s)).filter (·.kind == .comment)
      = if s.kind = .comment then [trimmedComment s] else [] := by
  cases hk : s.kind with
  | literal d =>
    rw [piece_literal hk]
    by_cases hquote : (d.isQuote && s.terminated) = true
    · rw [Bool.and_eq_true] at hquote
      rw [tokens_quote h hk hquote.1 hquote.2, List.filter_eq_nil_iff.2]
      · simp
      · intro x hx
        obtain ⟨t, -, rfl⟩ := List.mem_map.1 hx
        simp [closedLiteral]
    · rw [Bool.not_eq_true] at hquote
      simp [tokens_verbatim h hk hquote, hk]
  | comment => simp [tokens_comment h hk, trimmedComment]
  | punctuation => simp [tokens_punctuation h hk, hk]
  | word =>
    rw [if_neg (by simp), List.filter_eq_nil_iff]
    intro x hx
    have hmem : x ∈ lexemes (piece options s) := List.mem_of_mem_filter hx
    obtain ⟨next, hfits⟩ := exists_fits_of_mem (cut_lexemes _) hmem
    -- a comment would bring a hyphen into the word
    intro hcomment
    obtain ⟨-, ⟨t, ht, -⟩, -⟩ := hfits.comment_shape (by simpa using hcomment)
    have hhyphen := mem_spelling hmem (show '-' ∈ x.text by simp [ht])
    rw [spelling_lexemes] at hhyphen
    exact absurd ((piece_word_shape options h hk).2 _ hhyphen) (by decide)
  | blank => exact absurd hk hkind

/-! ## The tokens of a formatted text -/

/-- Without upper-casing, the pieces are cut into what is kept of the spans. -/
lemma flatMap_tokens_eq_kept (indentSize : Nat) {spans : List Span} (h : Connected spans) :
    (spans.flatMap fun s => tokens (piece ⟨false, indentSize⟩ s)) = spans.flatMap Span.kept := by
  induction spans with
  | nil => rfl
  | cons s rest ih =>
    rw [List.flatMap_cons, List.flatMap_cons, tokens_piece_eq_kept h.1.shape h.1.solid, ih h.2]

/-- The comments among the tokens of the pieces are the comments among the spans. -/
lemma filter_flatMap_tokens {spans : List Span} (h : Connected spans) :
    (spans.flatMap fun s => tokens (piece options s)).filter (·.kind == .comment)
      = (spans.filter (·.kind == .comment)).map trimmedComment := by
  induction spans with
  | nil => rfl
  | cons s rest ih =>
    rw [List.flatMap_cons, List.filter_append, filter_tokens_piece h.1.shape h.1.solid, ih h.2,
      List.filter_cons]
    by_cases hkind : s.kind = .comment <;> simp [hkind]

lemma comments_eq (t : Text) :
    comments t = ((tokens t).filter (·.kind == .comment)).map Lexeme.text := by
  rw [← map_lexeme_significant, List.filter_map, List.map_map]
  rfl

/-- The comments of a formatted text, whatever the case of its words. -/
lemma comments_format (options : Options) (keywords : KeywordSet) (t : Text) :
    comments (format options keywords t)
      = ((reattached (significant t)).filter (·.kind == .comment)).map
          fun s => Text.trimEnd s.text := by
  have hconnected := connected_reattached (connected_significant t)
  rw [comments_eq, tokens_format, filter_flatMap_tokens hconnected, List.map_map]
  rfl

end Layout

open Layout

/-- **Comments are kept, except around a comma.** The comments of a formatted text are those of
the source without their trailing blanks, exactly if the source has no comma directly between two
comments. -/
theorem comments_format_eq_iff (options : Options) (keywords : KeywordSet) (t : Text) :
    comments (format options keywords t) = (comments t).map Text.trimEnd
      ↔ ¬CommaBetweenComments (significant t) := by
  have hsource : (comments t).map Text.trimEnd
      = ((significant t).filter (·.kind == .comment)).map fun s => Text.trimEnd s.text := by
    rw [comments, List.map_map]
    rfl
  rw [comments_format, hsource]
  constructor
  · intro heq hcomma
    have hlength := congrArg List.length heq
    rw [List.length_map, List.length_map, ← List.countP_eq_length_filter,
      ← List.countP_eq_length_filter] at hlength
    have := countP_reattached_lt hcomma
    omega
  · intro hcomma
    rw [reattached_eq_self hcomma]

/-- A comma between two comments moves up, and the second comment becomes part of the first. -/
theorem comments_format_comma :
    comments (format { uppercase := false } (.ofLists {}) "--a\n,--b".toList)
        ≠ (comments "--a\n,--b".toList).map Text.trimEnd ∧
      comments (format { uppercase := false } (.ofLists {}) "--a\n,--b".toList)
        = ["--a, --b".toList] := by
  decide +kernel

/-- **Tokens are kept, except around a comma.** Where words keep their case, the tokens of a
formatted text are what is kept of the spans of the source, exactly if the source has no comma
directly between two comments. -/
theorem tokens_format_eq_iff (indentSize : Nat) (keywords : KeywordSet) (t : Text) :
    (significant (format ⟨false, indentSize⟩ keywords t)).map Span.lexeme
        = (significant t).flatMap Span.kept
      ↔ ¬CommaBetweenComments (significant t) := by
  have hconnected := connected_significant t
  rw [map_lexeme_significant, tokens_format, ← flatMap_tokens_eq_kept indentSize hconnected]
  constructor
  · intro heq hcomma
    -- compare the numbers of comments on both sides
    have hfilter := congrArg (fun xs => (xs.filter (·.kind == .comment)).length) heq
    simp only [filter_flatMap_tokens (connected_reattached hconnected),
      filter_flatMap_tokens hconnected, List.length_map, ← List.countP_eq_length_filter]
      at hfilter
    have := countP_reattached_lt hcomma
    omega
  · intro hcomma
    rw [reattached_eq_self hcomma]

end SqlIndent
