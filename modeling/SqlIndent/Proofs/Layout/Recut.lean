import SqlIndent.Proofs.Layout.Gaps

/-!
# Cutting formatted text

Formatted text is cut at the borders of its pieces: a piece fits before the gap or the piece that
comes after it, just as its span fits in the source. A piece is cut into the lexeme of its span,
with three exceptions. A quoted literal becomes one literal for each of its words, a comment loses
its trailing blanks, and an upper-cased word falls apart where its upper case has characters that
are not word characters.

The one border that is lost lies behind a comment, where a comma moves up to it.
-/

namespace SqlIndent

open Lexeme

/-! ## Quoted literals -/

namespace Lexeme

/-- Splitting a doubled text at blanks never cuts a pair. -/
lemma Doubled.takeWhile_dropWhile {closer : Char} {t : Text} (hcloser : Text.isBlank closer = false)
    (h : Doubled closer t) :
    Doubled closer (t.takeWhile (!Text.isBlank ·)) ∧
      Doubled closer (t.dropWhile (!Text.isBlank ·)) := by
  induction h with
  | nil => exact ⟨.nil, .nil⟩
  | @plain c t hc ht ih =>
    by_cases hblank : Text.isBlank c = true
    · simp only [List.takeWhile_cons, List.dropWhile_cons, hblank]
      exact ⟨.nil, .plain hc ht⟩
    · simp only [List.takeWhile_cons, List.dropWhile_cons, hblank]
      exact ⟨.plain hc ih.1, ih.2⟩
  | pair _ ih =>
    simp only [List.takeWhile_cons, List.dropWhile_cons, hcloser]
    exact ⟨.pair ih.1, ih.2⟩

/-- If the quotes in a text are doubled, so are those in each of its words, because blanks do not
part a pair. -/
lemma Doubled.of_mem_words {closer : Char} {t w : Text} (hcloser : Text.isBlank closer = false)
    (h : Doubled closer t) (hw : w ∈ t.words) : Doubled closer w := by
  induction t using Text.words.induct with
  | case1 => simp at hw
  | case2 c t hc ih =>
    rw [Text.words_cons_blank hc] at hw
    cases h with
    | plain _ ht => exact ih ht hw
    | pair _ => exact absurd hc (by simp [hcloser])
  | case3 c t hc ih =>
    -- a word starts at `c`: split off the word and go on after it
    rw [Bool.not_eq_true] at hc
    have hsplit := h.takeWhile_dropWhile hcloser
    simp only [List.takeWhile_cons, List.dropWhile_cons, hc, Bool.not_false, if_true] at hsplit
    rw [Text.words_cons_solid hc, List.mem_cons] at hw
    rcases hw with rfl | hw
    · exact hsplit.1
    · exact ih hsplit.2 hw

/-- A closed quoted literal: its body, and what may not come after it. -/
lemma Fits.quote_shape {x : Lexeme} {next : Option Char} {d : Delimiter} (h : Fits x next)
    (hx : x.kind = .literal d) (hquote : d.isQuote = true) (hclosed : x.terminated = true) :
    ∃ body, x.text = quoted d.opener body ∧ Doubled d.closer body ∧ next ≠ some d.closer := by
  cases h with
  | @doubled d' body _ _ hbody hnext =>
    cases hx
    exact ⟨body, by rw [quoted, Layout.opener_eq_closer hquote], hbody, hnext⟩
  | brace _ _ =>
    cases hx
    exact absurd hquote (by decide)
  | openDoubled _ _ => exact absurd hclosed (by simp)
  | openBrace _ => exact absurd hclosed (by simp)
  | _ => simp at hx

/-- A closed literal. -/
def closedLiteral (d : Delimiter) (t : Text) : Lexeme :=
  ⟨.literal d, t, true⟩

/-- A word in quotes is a closed literal, unless another quote follows. -/
lemma fits_quoted {d : Delimiter} {body : Text} {next : Option Char} (hquote : d.isQuote = true)
    (hbody : Doubled d.closer body) (hnext : next ≠ some d.closer) :
    Fits (closedLiteral d (quoted d.opener body)) next := by
  have hd : d ≠ .brace := by
    rintro rfl
    exact absurd hquote (by decide)
  have htext : quoted d.opener body = d.opener :: (body ++ [d.closer]) := by
    rw [quoted, Layout.opener_eq_closer hquote]
  rw [closedLiteral, htext]
  exact .doubled hd hbody hnext

/-- Literals with single spaces between them. -/
def spacedLiterals (d : Delimiter) : List Text → List Lexeme
  | [] => []
  | [t] => [closedLiteral d t]
  | t :: ts => closedLiteral d t :: ⟨.blank, [' '], true⟩ :: spacedLiterals d ts

lemma head?_joinWith_quoted (separator : Text) (quote : Char) (body : Text) (ts : List Text)
    (rest : Text) :
    (Text.joinWith separator (quoted quote body :: ts) ++ rest).head? = some quote := by
  cases ts <;> simp [Text.joinWith, quoted]

/-- Quoted texts with single spaces between them are cut into as many literals. -/
lemma lexemes_joinWith_append {d : Delimiter} (hquote : d.isQuote = true) {ts : List Text}
    (hne : ts ≠ []) (hts : ∀ t ∈ ts, ∃ body, t = quoted d.opener body ∧ Doubled d.closer body)
    {rest : Text} (hrest : rest.head? ≠ some d.closer) :
    lexemes (Text.joinWith [' '] ts ++ rest) = spacedLiterals d ts ++ lexemes rest := by
  induction ts with
  | nil => exact absurd rfl hne
  | cons t ts ih =>
    obtain ⟨body, rfl, hbody⟩ := hts t (by simp)
    cases ts with
    | nil => exact lexemes_of_fits (fits_quoted hquote hbody hrest)
    | cons u us =>
      have htail := ih (by simp) fun v hv => hts v (by simp [hv])
      obtain ⟨body', rfl, -⟩ := hts u (by simp)
      have hclose : some ' ' ≠ some d.closer := by cases d <;> decide
      have hopener : Text.isBlank d.opener = false := by cases d <;> decide
      have hspace : Fits ⟨.blank, [' '], true⟩
          (Text.joinWith [' '] (quoted d.opener body' :: us) ++ rest).head? := by
        rw [head?_joinWith_quoted]
        refine .blank (by simp) (by simp; decide) ?_
        simpa using hopener
      have hliteral : Fits (closedLiteral d (quoted d.opener body))
          ([' '] ++ (Text.joinWith [' '] (quoted d.opener body' :: us) ++ rest)).head? :=
        fits_quoted hquote hbody hclose
      rw [Text.joinWith, List.append_assoc, List.append_assoc]
      · exact (lexemes_of_fits hliteral).trans (by rw [lexemes_of_fits hspace, htail]; rfl)
      · simp

lemma filter_spacedLiterals (d : Delimiter) (ts : List Text) :
    (spacedLiterals d ts).filter (·.kind != .blank) = ts.map (closedLiteral d) := by
  induction ts with
  | nil => rfl
  | cons t ts ih =>
    cases ts with
    | nil => rfl
    | cons u us =>
      rw [spacedLiterals, List.map_cons, ← ih]
      · rfl
      · simp

lemma inner_quoted (quote : Char) (t : Text) : (quoted quote t).inner = t := by
  simp [quoted, Text.inner]

/-- The words of a quoted literal are quoted texts again. -/
lemma exists_quoted_of_mem_quotedWords {d : Delimiter} (hquote : d.isQuote = true) {body t : Text}
    (hbody : Doubled d.closer body) (ht : t ∈ quotedWords d.opener (quoted d.opener body)) :
    ∃ body, t = quoted d.opener body ∧ Doubled d.closer body := by
  have hcloser : Text.isBlank d.closer = false := by cases d <;> decide
  unfold quotedWords at ht
  rw [inner_quoted] at ht
  split at ht
  · rw [List.mem_singleton] at ht
    exact ⟨[], ht, .nil⟩
  · obtain ⟨w, hw, rfl⟩ := List.mem_map.1 ht
    exact ⟨w, rfl, hbody.of_mem_words hcloser hw⟩

end Lexeme

namespace Layout

variable {options : Options} {keywords : KeywordSet}

/-! ## Cutting off one piece -/

/-- A closed literal in quotes is written word by word, each in quotes of its own. -/
lemma written_quote {s : Span} {d : Delimiter} (hkind : s.kind = .literal d)
    (hquote : d.isQuote = true) (hclosed : s.terminated = true) :
    s.written = Text.joinWith [' '] (quotedWords d.opener s.text) := by
  simp [Span.written, hkind, hquote, hclosed]

lemma written_verbatim {s : Span} {d : Delimiter} (hkind : s.kind = .literal d)
    (h : (d.isQuote && s.terminated) = false) : s.written = s.text := by
  simp [Span.written, hkind, h]

/-- A quoted literal is cut into its words. -/
lemma lexemes_written_quote {s : Span} {d : Delimiter} {rest : Text}
    (h : Fits s.lexeme rest.head?) (hkind : s.kind = .literal d) (hquote : d.isQuote = true)
    (hclosed : s.terminated = true) :
    lexemes (s.written ++ rest)
      = spacedLiterals d (quotedWords d.opener s.text) ++ lexemes rest := by
  obtain ⟨body, hbody, hdoubled, hnext⟩ := h.quote_shape hkind hquote hclosed
  rw [written_quote hkind hquote hclosed]
  apply lexemes_joinWith_append hquote (quotedWords_ne_nil _ _) _ hnext
  intro t ht
  rw [show s.text = quoted d.opener body from hbody] at ht
  exact exists_quoted_of_mem_quotedWords hquote hdoubled ht

/-- The lexeme of a comment without its trailing blanks. -/
def trimmedComment (s : Span) : Lexeme :=
  ⟨.comment, Text.trimEnd s.text, true⟩

/-- A comment without its trailing blanks is still a comment, before the same character. -/
lemma fits_trimmedComment {s : Span} {next : Option Char} (h : Fits s.lexeme next)
    (hkind : s.kind = .comment) : Fits (trimmedComment s) next := by
  obtain ⟨t, -, htrim, hline⟩ := trimEnd_comment h.atEnd hkind
  rw [trimmedComment, htrim]
  exact .comment (fun c hc => hline c (Text.mem_of_mem_trimEnd hc)) (h.comment_shape hkind).2.2

/-- Lexemes made of plain characters can stand before anything but a word character. -/
lemma fits_of_isPlain {x : Lexeme} {next next' : Option Char} (h : Fits x next)
    (hplain : ∀ c ∈ x.text, Text.isPlain c = true)
    (hnext : ∀ c ∈ next', Text.isWordChar c = false) : Fits x next' := by
  cases h with
  | @doubled d _ _ _ _ _ =>
    have hopener := hplain d.opener (by simp)
    exact absurd hopener (by cases d <;> decide)
  | brace _ _ => exact absurd (hplain '{' (by simp)) (by decide)
  | @openDoubled d _ _ _ =>
    have hopener := hplain d.opener (by simp)
    exact absurd hopener (by cases d <;> decide)
  | openBrace _ => exact absurd (hplain '{' (by simp)) (by decide)
  | comment _ _ => exact absurd (hplain '-' (by simp)) (by decide)
  | word hne ht _ => exact .word hne ht hnext
  | @blank t _ hne ht _ =>
    obtain ⟨c, t, rfl⟩ := List.exists_cons_of_ne_nil hne
    have hc := Text.isBlank_eq_false_of_isPlain (hplain c (by simp))
    exact absurd (ht c (by simp)) (by simp [hc])
  | @punctuation c _ hopener hword hblank _ =>
    refine .punctuation hopener hword hblank fun hc => ?_
    exact absurd hc (Text.ne_of_isPlain (hplain c (by simp)) (by decide))

lemma mem_spelling {xs : List Lexeme} {x : Lexeme} (hx : x ∈ xs) {c : Char} (hc : c ∈ x.text) :
    c ∈ spelling xs :=
  List.mem_flatMap.2 ⟨x, hx, hc⟩

lemma exists_fits_of_mem {xs : List Lexeme} (h : Cut xs) {x : Lexeme} (hx : x ∈ xs) :
    ∃ next, Fits x next := by
  induction xs with
  | nil => simp at hx
  | cons y ys ih =>
    rcases List.mem_cons.1 hx with rfl | hx
    · exact ⟨_, h.1⟩
    · exact ih h.2 hx

/-- A text of plain characters is cut apart from a rest that starts with no word character. -/
lemma lexemes_plain_append {t rest : Text} (ht : ∀ c ∈ t, Text.isPlain c = true)
    (hrest : ∀ c ∈ rest.head?, Text.isWordChar c = false) :
    lexemes (t ++ rest) = lexemes t ++ lexemes rest := by
  apply lexemes_append
  intro x hx
  have hmem : x ∈ lexemes t := List.mem_of_getLast? hx
  obtain ⟨next, hfits⟩ := exists_fits_of_mem (cut_lexemes t) hmem
  refine fits_of_isPlain hfits (fun c hc => ht c ?_) hrest
  have := mem_spelling hmem hc
  rwa [spelling_lexemes] at this

/-- A piece is cut off where its span would be cut off. -/
theorem lexemes_piece_append {s : Span} {rest : Text} (h : Fits s.lexeme rest.head?)
    (hkind : s.kind ≠ .blank) :
    lexemes (piece options s ++ rest) = lexemes (piece options s) ++ lexemes rest := by
  -- a piece that is one lexeme stays one lexeme before a rest that it fits
  have hone : ∀ x : Lexeme, piece options s = x.text → Fits x rest.head? →
      lexemes (piece options s ++ rest) = lexemes (piece options s) ++ lexemes rest := by
    intro x hx hfits
    rw [hx, lexemes_of_fits hfits, lexemes_singleton hfits.atEnd]
    rfl
  cases hk : s.kind with
  | literal d =>
    by_cases hquote : (d.isQuote && s.terminated) = true
    · rw [Bool.and_eq_true] at hquote
      have halone := @lexemes_written_quote s d [] h.atEnd hk hquote.1 hquote.2
      rw [List.append_nil, lexemes_nil, List.append_nil] at halone
      rw [piece_literal hk, lexemes_written_quote h hk hquote.1 hquote.2, halone]
    · rw [Bool.not_eq_true] at hquote
      exact hone s.lexeme (by rw [piece_literal hk, written_verbatim hk hquote]; rfl) h
  | comment => exact hone (trimmedComment s) (piece_comment hk) (fits_trimmedComment h hk)
  | punctuation =>
    obtain ⟨c, htext, hpiece, -, -⟩ := piece_punctuation_shape options h.atEnd hk
    exact hone s.lexeme (by rw [hpiece, ← htext]; rfl) h
  | word =>
    have hplain := (piece_word_shape options h.atEnd hk).2
    exact lexemes_plain_append hplain (h.word_shape hk).2.2
  | blank => exact absurd hk hkind

/-! ## What a piece starts with -/

/-- A literal is written with the opener it had. -/
lemma head?_written {s : Span} {d : Delimiter} (h : Fits s.lexeme none)
    (hkind : s.kind = .literal d) : s.written.head? = s.text.head? := by
  by_cases hquote : (d.isQuote && s.terminated) = true
  · rw [Bool.and_eq_true] at hquote
    have htext : s.text.head? = some d.opener := h.literal_head? hkind
    obtain ⟨body, hbody, hdoubled, -⟩ := h.quote_shape hkind hquote.1 hquote.2
    rw [written_quote hkind hquote.1 hquote.2, htext]
    cases hwords : quotedWords d.opener s.text with
    | nil => exact absurd hwords (quotedWords_ne_nil _ _)
    | cons w ws =>
      have hw : w ∈ quotedWords d.opener (quoted d.opener body) := by
        rw [← show s.text = quoted d.opener body from hbody, hwords]
        simp
      obtain ⟨body', rfl, -⟩ := exists_quoted_of_mem_quotedWords hquote.1 hdoubled hw
      have hhead := head?_joinWith_quoted [' '] d.opener body' ws []
      rwa [List.append_nil] at hhead
  · rw [Bool.not_eq_true] at hquote
    rw [written_verbatim hkind hquote]

/-- What can stand before a span can stand before its piece. -/
lemma fits_before_piece {x : Lexeme} {s : Span} (h : Fits x s.text.head?)
    (hs : Fits s.lexeme none) (hkind : s.kind ≠ .blank) (rest : Text) :
    Fits x (piece options s ++ rest).head? := by
  -- all pieces but those of words start as their spans do
  have hsame : ∀ {t : Text}, t ≠ [] → t.head? = s.text.head? → Fits x (t ++ rest).head? := by
    intro t hne ht
    obtain ⟨c, u, rfl⟩ := List.exists_cons_of_ne_nil hne
    rw [List.cons_append, List.head?_cons, ← List.head?_cons, ht]
    exact h
  have hne : s.text ≠ [] := hs.text_ne_nil
  cases hk : s.kind with
  | literal d =>
    rw [piece_literal hk]
    have hhead := head?_written hs hk
    refine hsame ?_ hhead
    intro hnil
    rw [hnil, eq_comm, List.head?_nil, List.head?_eq_none_iff] at hhead
    exact hne hhead
  | comment =>
    obtain ⟨t, ht, htrim, -⟩ := trimEnd_comment hs hk
    rw [piece_comment hk, htrim]
    exact hsame (by simp) (by simp [ht])
  | punctuation =>
    obtain ⟨c, htext, hpiece, -, -⟩ := piece_punctuation_shape options hs hk
    rw [hpiece]
    exact hsame (by simp) (by simp [htext])
  | word =>
    obtain ⟨-, hword, -⟩ := hs.word_shape hk
    obtain ⟨hpiece, hplain⟩ := piece_word_shape options hs hk
    obtain ⟨c, t, hc⟩ := List.exists_cons_of_ne_nil hne
    obtain ⟨c', t', hc'⟩ := List.exists_cons_of_ne_nil hpiece
    rw [hc, List.head?_cons] at h
    rw [hc', List.cons_append, List.head?_cons]
    refine h.before_plain (hword c ?_) (hplain c' ?_)
    · rw [Span.lexeme_text, hc]
      simp
    · rw [hc']
      simp
  | blank => exact absurd hk hkind

end Layout
end SqlIndent
