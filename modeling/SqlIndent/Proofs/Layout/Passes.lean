import SqlIndent.Keyword.Builtin
import SqlIndent.Proofs.Layout.Tokens

/-!
# Formatting twice

A second pass reads the breaks and spaces that the first pass wrote, single literals where there
was one literal of many words, trimmed comments, and comments that were joined. Still it lays the
text out as the first pass did: two passes do what one pass does that upper-cases words if either
of them does (`format_format`).

Upper-casing can make characters that are not word characters, and so cut a word into several. This
is the one way in which a first pass that upper-cases words changes what the second pass reads, and
`UpperKeepsWords` excludes it.
-/

namespace SqlIndent

open Lexeme

/-- Upper-casing leaves the words of a text in one piece. -/
def UpperKeepsWords (t : Text) : Prop :=
  ∀ s ∈ significant t, s.kind = .word → ∀ c ∈ s.text.upper, Text.isWordChar c = true

/-- A span with another note whether blanks come right before it. -/
def Span.respaced (s : Span) (spaced : Bool) : Span :=
  { s with spaced := spaced }

@[simp] lemma Span.respaced_kind (s : Span) (spaced : Bool) : (s.respaced spaced).kind = s.kind :=
  rfl

@[simp] lemma Span.respaced_spaced (s : Span) (spaced : Bool) :
    (s.respaced spaced).spaced = spaced := rfl

namespace Layout

variable {options : Options} {keywords : KeywordSet} {level : Nat} {prev : Option Span}

/-! ## Changing case twice -/

/-- Upper-casing twice is upper-casing once, so of two settings either suffices. -/
lemma recase_recase (u v : Bool) (n : Nat) (t : Text) :
    Options.recase ⟨v, n⟩ (Options.recase ⟨u, n⟩ t) = Options.recase ⟨u || v, n⟩ t := by
  cases u <;> cases v <;> simp [Options.recase]

/-- The key of a word does not depend on its case. -/
lemma key_recase {t : Text} (ht : ∀ c ∈ t, Text.isWordChar c = true) :
    (options.recase t).key = t.key := by
  have hplain : ∀ c ∈ options.recase t, Text.isBlank c = false := fun c hc =>
    Text.isBlank_eq_false_of_isPlain (isPlain_of_mem_recase ht c hc)
  have hsource : ∀ c ∈ t, Text.isBlank c = false := fun c hc =>
    Text.isBlank_eq_false_of_isPlain (Text.isPlain_of_isWordChar (ht c hc))
  rw [Text.key, Text.key, Text.trim_of_forall hplain, Text.trim_of_forall hsource]
  unfold Options.recase
  split
  · exact Text.upper_upper t
  · rfl

/-! ## Spans that are laid out alike -/

/-- Two spans that call for the same breaks and the same change of level. -/
structure Alike (c s : Span) : Prop where
  kind_eq : c.kind = s.kind
  key_eq : s.isCode = true → c.text.key = s.text.key
  comma_eq : c.isComma = s.isComma

lemma Alike.isCode_eq {c s : Span} (h : Alike c s) : c.isCode = s.isCode := by
  rw [Span.isCode, Span.isCode, h.kind_eq]

/-- Only the kind counts where a span is neither a word nor punctuation. -/
lemma alike_of_not_isCode {c s : Span} (hkind : c.kind = s.kind) (hcode : s.isCode = false) :
    Alike c s where
  kind_eq := hkind
  key_eq h := absurd h (by simp [hcode])
  comma_eq := by
    have hpunctuation : (s.kind == .punctuation) = false := by
      rw [Span.isCode, Bool.or_eq_false_iff] at hcode
      exact hcode.2
    simp [Span.isComma, hkind, hpunctuation]

lemma alike_of_text_eq {c s : Span} (hkind : c.kind = s.kind) (htext : c.text = s.text) :
    Alike c s where
  kind_eq := hkind
  key_eq _ := by rw [htext]
  comma_eq := by rw [Span.isComma, Span.isComma, hkind, htext]

/-- Spans that are alike end their lines alike. -/
lemma Alike.endsLine_eq {c s : Span} (h : Alike c s) : endsLine c = endsLine s := by
  by_cases hword : s.kind = .word
  · rw [endsLine, endsLine, h.kind_eq, h.key_eq (by simp [Span.isCode, hword])]
  · have hfalse : (s.kind == .word) = false := by simpa using hword
    rw [endsLine, endsLine, h.kind_eq, hfalse, Bool.false_and, Bool.false_and]

lemma Alike.levelAfter_eq {c s : Span} (h : Alike c s) (level : Nat) :
    levelAfter keywords level c = levelAfter keywords level s := by
  rw [levelAfter, levelAfter, h.isCode_eq]
  split
  next hcode => rw [h.key_eq hcode]
  · rfl

/-- Before spans that are alike lines are broken alike. -/
lemma Alike.breaksBefore_eq {c s : Span} (h : Alike c s) (prev : Option Span) :
    breaksBefore keywords prev c = breaksBefore keywords prev s := by
  rw [breaksBefore, breaksBefore, h.isCode_eq, h.kind_eq]
  cases hcode : s.isCode with
  | false => rfl
  | true => rw [h.key_eq hcode]

/-- Whether a line is broken before a span does not depend on its blanks. -/
lemma breaksBefore_respaced (prev : Option Span) (s : Span) (spaced : Bool) :
    breaksBefore keywords prev (s.respaced spaced) = breaksBefore keywords prev s := rfl

/-- Nor does it depend on them whether a comma moves up. -/
lemma movesUp_respaced (prev : Option Span) (s : Span) (spaced : Bool) (rest : List Span) :
    movesUp keywords prev (s.respaced spaced) rest = movesUp keywords prev s rest := rfl

/-- Of what comes after a span, its gap depends on one thing only: whether that is a comment. -/
lemma gap_congr {s : Span} {rest rest' : List Span}
    (h : rest.head?.any (·.kind == .comment) = rest'.head?.any (·.kind == .comment)) :
    gap options keywords level prev (s :: rest) = gap options keywords level prev (s :: rest') := by
  rw [gap, gap, movesUp, movesUp, h]

/-- Spans that are alike are laid out alike, up to the blanks before them and their pieces. -/
lemma Alike.laidOut_cons {c s : Span} (h : Alike c s) (rest : List Span) :
    laidOut options keywords level prev (c :: rest)
      = gap options keywords level prev (s.respaced c.spaced :: rest) ++ piece options c
        ++ laidOut options keywords (levelAfter keywords level s) (some s) rest := by
  have hgap : gap options keywords level prev (c :: rest)
      = gap options keywords level prev (s.respaced c.spaced :: rest) := by
    rw [gap, gap, movesUp_respaced, plainGap, plainGap, breaksBefore_respaced, movesUp, movesUp,
      h.comma_eq, h.breaksBefore_eq, h.kind_eq, Span.respaced_kind, Span.respaced_spaced]
  have hafter : ∀ level, laidOut options keywords level (some c) rest
      = laidOut options keywords level (some s) rest := fun _ =>
    laidOut_congr h.endsLine_eq (by rw [h.kind_eq]) rest
  rw [laidOut, hgap, h.levelAfter_eq, hafter]

/-- The gap that was written before a span tells the second pass to write it again. -/
lemma gap_respaced (s : Span) (rest : List Span) :
    gap options keywords level prev
        (s.respaced (!(gap options keywords level prev (s :: rest)).isEmpty) :: rest)
      = gap options keywords level prev (s :: rest) := by
  generalize hg : gap options keywords level prev (s :: rest) = g
  by_cases hmoves : movesUp keywords prev s rest = true
  · rw [gap, if_pos hmoves] at hg
    rw [gap, movesUp_respaced, if_pos hmoves, hg]
  rw [gap, if_neg hmoves] at hg
  rw [gap, movesUp_respaced, if_neg hmoves]
  by_cases hbreaks : breaksBefore keywords prev s = true
  · rw [plainGap, if_pos hbreaks] at hg
    rw [plainGap, breaksBefore_respaced, if_pos hbreaks, hg]
  rw [plainGap, if_neg hbreaks] at hg
  rw [plainGap, breaksBefore_respaced, if_neg hbreaks, Span.respaced_kind, Span.respaced_spaced]
  -- the blanks of the source count here only, and there are blanks now exactly if a space was put
  split at hg
  next hspace =>
    rw [Bool.and_eq_true] at hspace
    simp [← hg, hspace.1]
  next hspace =>
    rw [← hg, if_neg]
    intro hagain
    apply hspace
    simp only [List.isEmpty_nil, Bool.not_true, Bool.or_false, Bool.and_eq_true] at hagain
    simp [hagain.1, hagain.2]

/-! ## The second pass over one piece -/

/-- The words of a quoted literal are not split again. -/
lemma quotedWords_of_mem {quote : Char} {t w : Text} (h : w ∈ quotedWords quote t) :
    quotedWords quote w = [w] := by
  unfold quotedWords at h
  split at h
  · rw [List.mem_singleton] at h
    rw [h, quotedWords, inner_quoted, Text.words_nil]
  · obtain ⟨v, hv, rfl⟩ := List.mem_map.1 h
    obtain ⟨hne, hsolid⟩ := Text.mem_words hv
    rw [quotedWords, inner_quoted, Text.words_of_forall hne hsolid]
    rfl

/-- Only commas move up. -/
lemma gap_literal {s : Span} {d : Delimiter} (hkind : s.kind = .literal d) (rest : List Span) :
    gap options keywords level prev (s :: rest) = plainGap options keywords level prev s := by
  simp [gap, movesUp, Span.isComma, hkind]

/-- A literal is laid out like any other literal with its delimiter, but for what is written. -/
lemma laidOut_literal {c s : Span} {d : Delimiter} (hc : c.kind = .literal d)
    (hs : s.kind = .literal d) (rest : List Span) :
    laidOut options keywords level prev (c :: rest)
      = plainGap options keywords level prev (s.respaced c.spaced) ++ c.written
        ++ laidOut options keywords level (some s) rest := by
  have hcode : s.isCode = false := by simp [Span.isCode, hs]
  have halike : Alike c s := alike_of_not_isCode (hc.trans hs.symm) hcode
  rw [halike.laidOut_cons, gap_literal (by simpa using hs), piece_literal hc,
    levelAfter_literal hs]

/-- A quoted literal of a single word is laid out as it stands. -/
lemma laidOut_quoted_append {d : Delimiter} (hquote : d.isQuote = true) {s : Span}
    (hs : s.kind = .literal d) {body : Text} (hbody : Doubled d.closer body)
    (hword : quotedWords d.opener (quoted d.opener body) = [quoted d.opener body]) {text : Text}
    (htext : text.head? ≠ some d.closer) (spaced : Bool) (start : Nat) :
    laidOut options keywords level prev
        (significantFrom start spaced (quoted d.opener body ++ text))
      = plainGap options keywords level prev (s.respaced spaced) ++ quoted d.opener body
        ++ laidOut options keywords level (some s)
          (significantFrom (start + (quoted d.opener body).utf8Length) false text) := by
  have hfits := fits_quoted hquote hbody htext
  have hcut := significantFrom_of_fits hfits (by simp [closedLiteral]) start spaced
  have hwritten : ((closedLiteral d (quoted d.opener body)).located start spaced).written
      = quoted d.opener body := by
    rw [written_quote rfl hquote rfl]
    exact congrArg _ hword
  refine (congrArg _ hcut).trans ?_
  rw [laidOut_literal rfl hs, Lexeme.located_spaced, hwritten]
  rfl

/-- A second pass writes the words of a quoted literal with single spaces between them again. -/
lemma laidOut_quoted {d : Delimiter} (hquote : d.isQuote = true) {s : Span}
    (hs : s.kind = .literal d) {ts : List Text} (hne : ts ≠ [])
    (hts : ∀ t ∈ ts, ∃ body, t = quoted d.opener body ∧ Doubled d.closer body)
    (hwords : ∀ t ∈ ts, quotedWords d.opener t = [t]) {text : Text}
    (htext : text.head? ≠ some d.closer) (spaced : Bool) (start : Nat) :
    ∃ start', laidOut options keywords level prev
        (significantFrom start spaced (Text.joinWith [' '] ts ++ text))
      = plainGap options keywords level prev (s.respaced spaced) ++ Text.joinWith [' '] ts
        ++ laidOut options keywords level (some s) (significantFrom start' false text) := by
  induction ts generalizing prev start spaced with
  | nil => exact absurd rfl hne
  | cons t ts ih =>
    obtain ⟨body, rfl, hbody⟩ := hts t (by simp)
    have hword := hwords (quoted d.opener body) (by simp)
    cases ts with
    | nil => exact ⟨_, laidOut_quoted_append hquote hs hbody hword htext spaced start⟩
    | cons u us =>
      obtain ⟨start', hrest⟩ := @ih (some s) (by simp) (fun v hv => hts v (by simp [hv]))
        (fun v hv => hwords v (by simp [hv])) true
        (start + (quoted d.opener body).utf8Length + Text.utf8Length [' '])
      obtain ⟨body', rfl, -⟩ := hts u (by simp)
      have hclose : some ' ' ≠ some d.closer := by cases d <;> decide
      have hopener : Text.isBlank d.opener = false := by cases d <;> decide
      have hblank : ∀ c ∈ (Text.joinWith [' '] (quoted d.opener body' :: us) ++ text).head?,
          Text.isBlank c = false := by
        rw [head?_joinWith_quoted]
        simpa using hopener
      -- the space that was put between the words makes the second pass put one
      have hspace : plainGap options keywords level (some s) (s.respaced true) = [' '] := by
        simp [plainGap, breaksBefore, Span.isCode, endsLine, hs]
      refine ⟨start', ?_⟩
      rw [Text.joinWith, List.append_assoc, List.append_assoc,
        laidOut_quoted_append hquote hs hbody hword (by exact hclose),
        significantFrom_blanks (by simp; decide) hblank]
      · refine (congrArg _ hrest).trans ?_
        rw [hspace]
        simp only [List.append_assoc]
      · simp

/-- A piece that is one lexeme becomes one span, which is laid out where its source stood. -/
lemma laidOut_lexeme_append {first second both : Options} {x : Lexeme} {s : Span} {text : Text}
    {start : Nat} {spaced : Bool} {rest : List Span} (hkind : s.kind ≠ .blank)
    (hfirst : piece first s = x.text) (hfits : Fits x text.head?)
    (halike : Alike (x.located start spaced) s)
    (hsecond : piece second (x.located start spaced) = piece both s)
    (hrest : ∀ start, (significantFrom start false text).head?.any (·.kind == .comment)
      = rest.head?.any (·.kind == .comment)) :
    ∃ start', laidOut second keywords level prev
        (significantFrom start spaced (piece first s ++ text))
      = gap second keywords level prev (s.respaced spaced :: rest) ++ piece both s
        ++ laidOut second keywords (levelAfter keywords level s) (some s)
          (significantFrom start' false text) := by
  have hsolid : x.kind ≠ .blank := fun hx => hkind (halike.kind_eq.symm.trans hx)
  refine ⟨start + x.text.utf8Length, ?_⟩
  rw [hfirst, significantFrom_of_fits hfits hsolid, halike.laidOut_cons, hsecond,
    gap_congr (hrest _), Lexeme.located_spaced]

/-- A second pass over the piece of a span lays it out as that span, and goes on after it. -/
lemma laidOut_piece_append {u v : Bool} {n : Nat} {s : Span} {text : Text} {rest : List Span}
    (h : Fits s.lexeme text.head?) (hkind : s.kind ≠ .blank)
    (hword : s.kind = .word → ∀ c ∈ Options.recase ⟨u, n⟩ s.text, Text.isWordChar c = true)
    (hrest : ∀ start, (significantFrom start false text).head?.any (·.kind == .comment)
      = rest.head?.any (·.kind == .comment)) (spaced : Bool) (start : Nat) :
    ∃ start', laidOut ⟨v, n⟩ keywords level prev
        (significantFrom start spaced (piece ⟨u, n⟩ s ++ text))
      = gap ⟨v, n⟩ keywords level prev (s.respaced spaced :: rest) ++ piece ⟨u || v, n⟩ s
        ++ laidOut ⟨v, n⟩ keywords (levelAfter keywords level s) (some s)
          (significantFrom start' false text) := by
  cases hk : s.kind with
  | literal d =>
    by_cases hquote : (d.isQuote && s.terminated) = true
    · rw [Bool.and_eq_true] at hquote
      obtain ⟨body, hbody, hdoubled, hnext⟩ := h.quote_shape hk hquote.1 hquote.2
      have hts : ∀ t ∈ quotedWords d.opener s.text,
          ∃ body, t = quoted d.opener body ∧ Doubled d.closer body := by
        rw [show s.text = quoted d.opener body from hbody]
        exact fun t ht => exists_quoted_of_mem_quotedWords hquote.1 hdoubled ht
      rw [piece_literal hk, piece_literal hk, gap_literal (by simpa using hk),
        levelAfter_literal hk, written_quote hk hquote.1 hquote.2]
      exact laidOut_quoted hquote.1 hk (quotedWords_ne_nil _ _) hts
        (fun t ht => quotedWords_of_mem ht) hnext spaced start
    · rw [Bool.not_eq_true] at hquote
      have hfirst : piece ⟨u, n⟩ s = s.lexeme.text := by
        rw [piece_literal hk, written_verbatim hk hquote, Span.lexeme_text]
      have hsecond : piece ⟨v, n⟩ (s.lexeme.located start spaced) = piece ⟨u || v, n⟩ s := by
        rw [piece_literal hk, piece_literal (by exact hk)]
        rfl
      exact laidOut_lexeme_append hkind hfirst h (alike_of_text_eq rfl rfl) hsecond hrest
  | comment =>
    have hfirst : piece ⟨u, n⟩ s = (trimmedComment s).text := piece_comment hk
    have halike : Alike ((trimmedComment s).located start spaced) s :=
      alike_of_not_isCode hk.symm (by simp [Span.isCode, hk])
    have hsecond : piece ⟨v, n⟩ ((trimmedComment s).located start spaced)
        = piece ⟨u || v, n⟩ s := by
      rw [piece_comment rfl, piece_comment hk]
      exact Text.trimEnd_trimEnd _
    exact laidOut_lexeme_append hkind hfirst (fits_trimmedComment h hk) halike hsecond hrest
  | punctuation =>
    obtain ⟨c, htext, hpiece, hc, -⟩ := piece_punctuation_shape ⟨u, n⟩ h.atEnd hk
    have hcode : s.isCode = true := by simp [Span.isCode, hk]
    have hfirst : piece ⟨u, n⟩ s = s.lexeme.text := by rw [hpiece, Span.lexeme_text, htext]
    have hsecond : piece ⟨v, n⟩ (s.lexeme.located start spaced) = piece ⟨u || v, n⟩ s := by
      rw [piece_code hcode, piece_code (by exact hcode), ← recase_recase, ← piece_code hcode,
        hfirst]
      rfl
    exact laidOut_lexeme_append hkind hfirst h (alike_of_text_eq rfl rfl) hsecond hrest
  | word =>
    obtain ⟨hne, hsource, hnext⟩ := h.word_shape hk
    have hcode : s.isCode = true := by simp [Span.isCode, hk]
    have hfits : Fits ⟨.word, Options.recase ⟨u, n⟩ s.text, true⟩ text.head? :=
      .word (recase_ne_nil hne) (hword hk) hnext
    have halike : Alike
        (Lexeme.located ⟨.word, Options.recase ⟨u, n⟩ s.text, true⟩ start spaced) s :=
      ⟨hk.symm, fun _ => key_recase hsource, by rw [Span.isComma, Span.isComma, hk]; rfl⟩
    have hsecond : piece ⟨v, n⟩
        (Lexeme.located ⟨.word, Options.recase ⟨u, n⟩ s.text, true⟩ start spaced)
        = piece ⟨u || v, n⟩ s := by
      rw [piece_code rfl, piece_code hcode]
      exact recase_recase u v n s.text
    exact laidOut_lexeme_append hkind (piece_code hcode) hfits halike hsecond hrest
  | blank => exact absurd hk hkind

/-! ## The second pass over a laid-out text -/

/-- A text that starts with a character other than a blank has a token. -/
lemma tokens_ne_nil {t : Text} (hne : t ≠ []) (ht : ∀ c ∈ t.head?, Text.isBlank c = false) :
    tokens t ≠ [] := by
  obtain ⟨c, rest, rfl⟩ := List.exists_cons_of_ne_nil hne
  obtain ⟨tail, htext, hfits⟩ := fits_first c rest
  have hkind : (first c rest).kind ≠ .blank := by
    intro hblank
    obtain ⟨hsome, hall, -⟩ := hfits.blank_shape hblank
    obtain ⟨c', text, hc'⟩ := List.exists_cons_of_ne_nil hsome
    have hc : c = c' := by
      rw [hc', List.cons_append, List.cons.injEq] at htext
      exact htext.1
    have hblank' := hall c' (by simp [hc'])
    rw [← hc, ht c rfl] at hblank'
    exact absurd hblank' (by decide)
  rw [htext, tokens, lexemes_of_fits hfits, List.filter_cons, if_pos (by simpa using hkind)]
  simp

/-- The tokens of a piece start with a comment exactly if its span is one. -/
lemma exists_tokens_piece (options : Options) {s : Span} (h : Fits s.lexeme none)
    (hkind : s.kind ≠ .blank) :
    ∃ x xs, tokens (piece options s) = x :: xs ∧ (x.kind == .comment) = (s.kind == .comment) := by
  cases hk : s.kind with
  | literal d =>
    rw [piece_literal hk]
    by_cases hquote : (d.isQuote && s.terminated) = true
    · rw [Bool.and_eq_true] at hquote
      obtain ⟨w, ws, hws⟩ := List.exists_cons_of_ne_nil (quotedWords_ne_nil d.opener s.text)
      rw [tokens_quote h hk hquote.1 hquote.2, hws]
      exact ⟨closedLiteral d w, _, rfl, rfl⟩
    · rw [Bool.not_eq_true] at hquote
      exact ⟨s.lexeme, [], tokens_verbatim h hk hquote, by rw [Span.lexeme_kind, hk]⟩
  | comment => exact ⟨trimmedComment s, [], tokens_comment h hk, rfl⟩
  | punctuation => exact ⟨s.lexeme, [], tokens_punctuation h hk, by rw [Span.lexeme_kind, hk]⟩
  | word =>
    -- a word may fall apart, but none of its parts is blank or a comment
    obtain ⟨hne, hplain⟩ := piece_word_shape options h hk
    have hfilter := @filter_tokens_piece options s h hkind
    rw [if_neg (by simp [hk]), List.filter_eq_nil_iff] at hfilter
    cases htokens : tokens (piece options s) with
    | nil =>
      refine absurd htokens (tokens_ne_nil hne fun c hc => ?_)
      exact Text.isBlank_eq_false_of_isPlain (hplain c (List.mem_of_head? hc))
    | cons x xs => exact ⟨x, xs, rfl, by simpa using hfilter x (by simp [htokens])⟩
  | blank => exact absurd hk hkind

/-- A laid-out text starts with a comment exactly if its spans do. -/
lemma head?_significantFrom_laidOut {spans : List Span} (h : Connected spans)
    (prev : Option Span) (start : Nat) :
    (significantFrom start false (laidOut options keywords level prev spans)).head?.any
        (·.kind == .comment)
      = spans.head?.any (·.kind == .comment) := by
  have hmap := map_lexeme_significantFrom start false (laidOut options keywords level prev spans)
  rw [tokens_laidOut h] at hmap
  cases spans with
  | nil =>
    rw [reattached_nil, List.flatMap_nil, List.map_eq_nil_iff] at hmap
    rw [hmap]
  | cons s rest =>
    obtain ⟨n, hn, hkind, -, -⟩ := exists_head?_reattached h s rfl
    obtain ⟨ns, hns⟩ := List.head?_eq_some_iff.1 hn
    have hprecedes : n.Precedes ns := (hns ▸ connected_reattached h).1
    obtain ⟨x, xs, hx, hcomment⟩ := exists_tokens_piece options hprecedes.shape hprecedes.solid
    rw [hns, List.flatMap_cons, hx, List.cons_append, List.map_eq_cons_iff] at hmap
    obtain ⟨c, cs, hc, hlexeme, -⟩ := hmap
    rw [hc, List.head?_cons, List.head?_cons, Option.any_some, Option.any_some, ← hkind, ← hcomment,
      ← hlexeme, Span.lexeme_kind]

/-- A comment that takes a comma and another comment in is laid out as the joined comment is. -/
lemma laidOut_joined {s d : Span} {spans rest : List Span} (h : Connected (s :: spans))
    (hcomma : keywords.isIndent [','] = false) (hahead : commentAhead? s spans = some (d, rest)) :
    laidOut options keywords level prev (s :: spans)
      = laidOut options keywords level prev (joined s d :: rest) := by
  obtain ⟨p, rfl, hs, hp, hd⟩ := commentAhead?_eq_some hahead
  have hshape : Fits d.lexeme none := h.2.2.1.shape
  have hlevel : levelAfter keywords level p = level := by
    obtain ⟨hkind, htext⟩ := Span.isComma_iff.1 hp
    have hkey : p.text.key = [','] := by
      rw [htext]
      decide +kernel
    rw [levelAfter, isDedent_punctuation h.2.1.shape hkind, hkey, hcomma]
    simp
  have hafter : laidOut options keywords level (some (joined s d)) rest
      = laidOut options keywords level (some d) rest :=
    laidOut_congr (by simp [endsLine, hs, hd]) (by simp [hs, hd]) rest
  rw [laidOut, laidOut_comma_comment hs hp hd, gap_comment hs, levelAfter_comment hs, hlevel]
  rw [laidOut, gap_comment (by simpa using hs), piece_joined hs hshape hd,
    levelAfter_comment (by simpa using hs), hafter]
  simp only [List.append_assoc]

/-- **The second pass.** What was laid out once is laid out again in the same way. The induction
follows the joining of comments; level and previous span are those of both passes. -/
theorem laidOut_significantFrom_laidOut {u v : Bool} {n : Nat}
    (hcomma : keywords.isIndent [','] = false) {spans : List Span} (h : Connected spans)
    (hwords : ∀ s ∈ spans, s.kind = .word →
      ∀ c ∈ Options.recase ⟨u, n⟩ s.text, Text.isWordChar c = true) :
    ∀ (level : Nat) (prev : Option Span) (start : Nat),
      laidOut ⟨v, n⟩ keywords level prev
          (significantFrom start false (laidOut ⟨u, n⟩ keywords level prev spans))
        = laidOut ⟨u || v, n⟩ keywords level prev spans := by
  induction spans using reattached.induct with
  | case1 =>
    intro level prev start
    have hnone : significantFrom start false (laidOut ⟨u, n⟩ keywords level prev []) = [] := by
      have hmap := map_lexeme_significantFrom start false (laidOut ⟨u, n⟩ keywords level prev [])
      rwa [laidOut, tokens_gap, List.map_eq_nil_iff] at hmap
    rw [hnone]
    rfl
  | case2 s spans d rest hahead ih =>
    intro level prev start
    -- the first pass has joined the comments, so one comment is left for the second pass
    rw [laidOut_joined h hcomma hahead, laidOut_joined h hcomma hahead]
    refine ih (connected_joined h hahead) ?_ level prev start
    obtain ⟨p, rfl, hs, -, -⟩ := commentAhead?_eq_some hahead
    intro s' hs' hkind
    rcases List.mem_cons.1 hs' with rfl | hs'
    · exact absurd hkind (by simp [hs])
    · exact hwords s' (by simp [hs']) hkind
  | case3 s spans hahead ih =>
    intro level prev start
    have hs := h.1
    have hfits : ∀ level, Fits s.lexeme (laidOut ⟨u, n⟩ keywords level (some s) spans).head? :=
      fun _ => fits_laidOut hs h.2 hahead
    -- the second pass knows of the gap only whether it is empty, and that is enough
    rw [laidOut, List.append_assoc,
      significantFrom_blanks isBlank_of_mem_gap (isBlank_head?_piece hs.shape hs.solid _)]
    have hgap : gap ⟨v, n⟩ keywords level prev
          (s.respaced (!(gap ⟨u, n⟩ keywords level prev (s :: spans)).isEmpty) :: spans)
        = gap ⟨u || v, n⟩ keywords level prev (s :: spans) := gap_respaced s spans
    obtain ⟨start', hstep⟩ := @laidOut_piece_append keywords level prev u v n s _ spans (hfits _)
      hs.solid (hwords s (by simp)) (head?_significantFrom_laidOut h.2 _)
      (!(gap ⟨u, n⟩ keywords level prev (s :: spans)).isEmpty) _
    rw [hstep, hgap, ih h.2 fun s' hs' => hwords s' (by simp [hs']), laidOut]

end Layout

open Layout

/-- Two passes do what one pass does that upper-cases words if either of them does. -/
theorem format_format {u v : Bool} {n : Nat} {keywords : KeywordSet}
    (hcomma : keywords.isIndent [','] = false) {t : Text} (ht : u = true → UpperKeepsWords t) :
    format ⟨v, n⟩ keywords (format ⟨u, n⟩ keywords t) = format ⟨u || v, n⟩ keywords t := by
  have hconnected := connected_significant t
  have hwords : ∀ s ∈ significant t, s.kind = .word →
      ∀ c ∈ Options.recase ⟨u, n⟩ s.text, Text.isWordChar c = true := by
    intro s hs hkind
    cases u with
    | false =>
      obtain ⟨next, hfits⟩ := exists_fits_of_mem (cut_lexemes t) (lexeme_mem_lexemes hs)
      exact (hfits.word_shape hkind).2.1
    | true => exact ht rfl s hs hkind
  unfold format
  rw [run_eq_laidOut (connected_significant _), run_eq_laidOut hconnected,
    run_eq_laidOut hconnected]
  exact laidOut_significantFrom_laidOut hcomma hconnected hwords 0 none 0

/-! ## Texts in which upper-casing keeps words together -/

/-- Upper-casing an ASCII word character gives word characters. -/
lemma isWordChar_of_mem_upperChar {c x : Char} (hascii : c.toNat < 128)
    (hc : Text.isWordChar c = true) (hx : x ∈ Text.upperChar c) : Text.isWordChar x = true := by
  have htable : (List.range 128).all (fun n => !Text.isWordChar (Char.ofNat n) ||
      (Text.upperChar (Char.ofNat n)).all Text.isWordChar) = true := by
    decide +kernel
  have hupper := List.all_eq_true.1 htable c.toNat (List.mem_range.2 hascii)
  rw [Char.ofNat_toNat, hc, Bool.not_true, Bool.false_or, List.all_eq_true] at hupper
  exact hupper x hx

/-- For ASCII texts nothing has to be asked of upper-casing. -/
lemma upperKeepsWords_of_ascii {t : Text} (h : ∀ c ∈ t, c.toNat < 128) : UpperKeepsWords t := by
  intro s hs hkind c hc
  obtain ⟨x, hx, hcx⟩ := List.mem_flatMap.1 hc
  have hmem : s.lexeme ∈ lexemes t := lexeme_mem_lexemes hs
  obtain ⟨next, hfits⟩ := exists_fits_of_mem (cut_lexemes t) hmem
  have hsource : x ∈ t := by
    rw [← spelling_lexemes t]
    exact mem_spelling hmem hx
  exact isWordChar_of_mem_upperChar (h x hsource) ((hfits.word_shape hkind).2.1 x hx) hcx

/-- **Passes compose.** Unless a comma opens a block, a pass that leaves the case of words alone
can be put before any pass, and a pass that upper-cases words makes any pass after it needless if
upper-casing keeps the words together, as it does in ASCII texts. A formatted text is then its own
formatted text. -/
theorem format_passes (indentSize : Nat) (keywords : KeywordSet)
    (hcomma : keywords.isIndent [','] = false) (t : Text) :
    (∀ u, format ⟨u, indentSize⟩ keywords (format ⟨false, indentSize⟩ keywords t)
        = format ⟨u, indentSize⟩ keywords t) ∧
      (UpperKeepsWords t → ∀ u,
        format ⟨u, indentSize⟩ keywords (format ⟨true, indentSize⟩ keywords t)
          = format ⟨true, indentSize⟩ keywords t) ∧
      (∀ u, (u = true → UpperKeepsWords t) →
        format ⟨u, indentSize⟩ keywords (format ⟨u, indentSize⟩ keywords t)
            = format ⟨u, indentSize⟩ keywords t ∧
          isFormatted ⟨u, indentSize⟩ keywords (format ⟨u, indentSize⟩ keywords t) = true) ∧
      ((∀ c ∈ t, c.toNat < 128) → UpperKeepsWords t) := by
  refine ⟨fun u => ?_, fun ht u => ?_, fun u ht => ?_, upperKeepsWords_of_ascii⟩
  · rw [format_format hcomma (by simp), Bool.false_or]
  · rw [format_format hcomma fun _ => ht, Bool.true_or]
  · have hagain : format ⟨u, indentSize⟩ keywords (format ⟨u, indentSize⟩ keywords t)
        = format ⟨u, indentSize⟩ keywords t := by
      rw [format_format hcomma ht, Bool.or_self]
    exact ⟨hagain, by rw [isFormatted, hagain, beq_self_eq_true]⟩

/-- The built-in set on a text in which a literal is split, a comma moves up to a comment, and that
comment takes in another one. -/
theorem format_passes_builtin :
    KeywordSet.builtin.isIndent [','] = false ∧
      format ⟨true, 2⟩ .builtin "begin x --a\n , --b\n'c  d' end y".toList
        = "\nBEGIN X --a, --b\n  'c' 'd' END\nY".toList ∧
      format ⟨false, 2⟩ .builtin (format ⟨true, 2⟩ .builtin
          "begin x --a\n , --b\n'c  d' end y".toList)
        = format ⟨true, 2⟩ .builtin "begin x --a\n , --b\n'c  d' end y".toList := by
  have hpasses := format_passes 2 .builtin (by decide +kernel)
    "begin x --a\n , --b\n'c  d' end y".toList
  have hascii : ("begin x --a\n , --b\n'c  d' end y".toList.all fun c => c.toNat < 128) = true := by
    decide +kernel
  refine ⟨by decide +kernel, by decide +kernel, hpasses.2.1 (hpasses.2.2.2 fun c hc => ?_) false⟩
  exact of_decide_eq_true (List.all_eq_true.1 hascii c hc)

end SqlIndent
