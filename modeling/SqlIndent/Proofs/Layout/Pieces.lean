import SqlIndent.Layout
import SqlIndent.Proofs.Buffer
import SqlIndent.Proofs.Span.Neighbours

/-!
# Pieces

A formatted text is made of the pieces written for the spans and the gaps between them. A piece
depends on its span alone. Unless its span is a literal that lacks its closer, it ends in a
character that is not blank, so trimming never reaches into it; and it ends in a comma only where
the span is a comma or a comment.
-/

namespace SqlIndent

open Lexeme

/-- Words and punctuation, which are looked up among the marker words. -/
def Span.isCode (s : Span) : Bool :=
  s.kind == .word || s.kind == .punctuation

/-- The comma, the one separator that moves with a comment. -/
def Span.isComma (s : Span) : Bool :=
  s.kind == .punctuation && s.text == [',']

lemma Span.isComma_iff {s : Span} : s.isComma = true ↔ s.kind = .punctuation ∧ s.text = [','] := by
  simp [isComma]

namespace Layout

/-- The text that stands for a span in the output. -/
def piece (options : Options) (s : Span) : Text :=
  match s.kind with
  | .literal _ => s.written
  | .comment => Text.trimEnd s.text
  | .word | .punctuation => options.recase s.text
  | .blank => []

lemma piece_comment {options : Options} {s : Span} (h : s.kind = .comment) :
    piece options s = Text.trimEnd s.text := by
  simp [piece, h]

lemma piece_literal {options : Options} {s : Span} {d : Delimiter} (h : s.kind = .literal d) :
    piece options s = s.written := by
  simp [piece, h]

lemma piece_code {options : Options} {s : Span} (h : s.isCode = true) :
    piece options s = options.recase s.text := by
  simp only [Span.isCode, Bool.or_eq_true, beq_iff_eq] at h
  rcases h with h | h <;> simp [piece, h]

/-! ## Pieces of code -/

/-- A recased word consists of plain characters. -/
lemma isPlain_of_mem_recase {options : Options} {t : Text}
    (ht : ∀ c ∈ t, Text.isWordChar c = true) :
    ∀ c ∈ options.recase t, Text.isPlain c = true := by
  intro c hc
  unfold Options.recase at hc
  split at hc
  · obtain ⟨x, hx, hcx⟩ := List.mem_flatMap.1 hc
    exact Text.isPlain_of_mem_upperChar (ht x hx) hcx
  · exact Text.isPlain_of_isWordChar (ht c hc)

lemma recase_ne_nil {options : Options} {t : Text} (ht : t ≠ []) : options.recase t ≠ [] := by
  unfold Options.recase
  split
  · exact mt Text.upper_eq_nil.1 ht
  · exact ht

/-- Punctuation has no case. -/
lemma recase_punctuation {options : Options} {c : Char} (hc : Text.isWordChar c = false) :
    options.recase [c] = [c] := by
  unfold Options.recase
  split
  · simp [Text.upperChar_of_not_isWordChar hc]
  · rfl

lemma piece_comma {options : Options} {s : Span} (h : s.isComma = true) :
    piece options s = [','] := by
  rw [Span.isComma_iff] at h
  rw [piece_code (by simp [Span.isCode, h.1]), h.2]
  exact recase_punctuation (by decide +kernel)

/-- A word is written as plain characters, at least one. -/
lemma piece_word_shape (options : Options) {s : Span} (h : Fits s.lexeme none)
    (hkind : s.kind = .word) :
    piece options s ≠ [] ∧ ∀ c ∈ piece options s, Text.isPlain c = true := by
  obtain ⟨hne, hword, -⟩ := h.word_shape hkind
  rw [piece_code (by simp [Span.isCode, hkind])]
  exact ⟨recase_ne_nil hne, isPlain_of_mem_recase hword⟩

/-- Punctuation is one character, and upper-casing leaves it as it is. -/
lemma piece_punctuation_shape (options : Options) {s : Span} (h : Fits s.lexeme none)
    (hkind : s.kind = .punctuation) :
    ∃ c, s.text = [c] ∧ piece options s = [c] ∧ Text.isWordChar c = false ∧
      Text.isBlank c = false := by
  obtain ⟨c, hc, hword, hblank⟩ := h.punctuation_shape hkind
  refine ⟨c, hc, ?_, hword, hblank⟩
  rw [piece_code (by simp [Span.isCode, hkind]), show s.text = [c] from hc]
  exact recase_punctuation hword

/-- Punctuation never closes a block. -/
lemma isDedent_punctuation {s : Span} (h : Fits s.lexeme none) (hkind : s.kind = .punctuation) :
    isDedent s.text.key = false := by
  obtain ⟨c, hc, hword, hblank⟩ := h.punctuation_shape hkind
  have hkey : s.text.key = [c] := by
    rw [Text.key, show s.text = [c] from hc, Text.trim_of_forall (by simpa using hblank)]
    simp [Text.upperChar_of_not_isWordChar hword]
  simp [isDedent, hkey, dedentKey]

/-! ## Pieces of literals -/

/-- Texts that end in the same character still end in it when they are joined. -/
lemma exists_concat_joinWith {separator : Text} {c : Char} {ts : List Text} (hne : ts ≠ [])
    (h : ∀ t ∈ ts, ∃ s, t = s ++ [c]) : ∃ s, Text.joinWith separator ts = s ++ [c] := by
  induction ts with
  | nil => exact absurd rfl hne
  | cons t ts ih =>
    cases ts with
    | nil => exact h t (by simp)
    | cons u us =>
      obtain ⟨s, hs⟩ := ih (by simp) fun v hv => h v (by simp [hv])
      refine ⟨t ++ separator ++ s, ?_⟩
      rw [Text.joinWith, hs]
      · simp
      · simp

/-- A quoted literal leaves at least one piece, even if no word stands in it. -/
lemma quotedWords_ne_nil (quote : Char) (t : Text) : quotedWords quote t ≠ [] := by
  unfold quotedWords
  split
  · simp
  next hne => simpa using hne

/-- Each piece of a quoted literal ends in the quote. -/
lemma exists_concat_quotedWords {quote : Char} {t w : Text} (h : w ∈ quotedWords quote t) :
    ∃ s, w = s ++ [quote] := by
  unfold quotedWords at h
  split at h
  · rw [List.mem_singleton] at h
    exact ⟨[quote], by simp [h, quoted]⟩
  · obtain ⟨v, -, rfl⟩ := List.mem_map.1 h
    exact ⟨quote :: v, by simp [quoted]⟩

lemma opener_eq_closer {d : Delimiter} (h : d.isQuote = true) : d.opener = d.closer := by
  cases d <;> first | rfl | exact absurd h (by decide)

/-- A closed literal is written with its closer at the end. -/
lemma exists_concat_written {s : Span} {d : Delimiter} (h : Fits s.lexeme none)
    (hkind : s.kind = .literal d) (hclosed : s.terminated = true) :
    ∃ t, s.written = t ++ [d.closer] := by
  simp only [Span.written, hkind, hclosed, Bool.and_true]
  split
  next hquote =>
    apply exists_concat_joinWith (quotedWords_ne_nil _ _)
    intro w hw
    rw [← opener_eq_closer hquote]
    exact exists_concat_quotedWords hw
  · obtain ⟨body, hbody⟩ := h.literal_shape hkind hclosed
    exact ⟨d.opener :: body, hbody⟩

/-! ## The end of a piece -/

/-- A comment is trimmed behind its marker. -/
lemma trimEnd_comment {s : Span} (h : Fits s.lexeme none) (hkind : s.kind = .comment) :
    ∃ t, s.text = '-' :: '-' :: t ∧ Text.trimEnd s.text = '-' :: '-' :: Text.trimEnd t ∧
      ∀ c ∈ t, isLineEnd c = false := by
  obtain ⟨-, ⟨t, ht, hline⟩, -⟩ := h.comment_shape hkind
  refine ⟨t, ht, ?_, hline⟩
  rw [show s.text = '-' :: '-' :: t from ht, Text.trimEnd_cons (by decide),
    Text.trimEnd_cons (by decide)]

/-- The last character of a piece is not blank, and it is a comma for commas and comments only. -/
lemma exists_concat_piece (options : Options) {s : Span} (h : Fits s.lexeme none)
    (hkind : s.kind ≠ .blank) (hclosed : s.terminated = true) :
    ∃ t c, piece options s = t ++ [c] ∧ Text.isBlank c = false ∧
      (c = ',' → s.kind = .comment ∨ s.isComma = true) := by
  cases hk : s.kind with
  | literal d =>
    obtain ⟨t, ht⟩ := exists_concat_written h hk hclosed
    refine ⟨t, d.closer, by rw [piece_literal hk, ht], ?_, ?_⟩
    · cases d <;> decide
    · intro hcomma
      exact absurd hcomma (by cases d <;> decide)
  | comment =>
    obtain ⟨t, -, htrim, -⟩ := trimEnd_comment h hk
    have hne : Text.trimEnd s.text ≠ [] := by simp [htrim]
    obtain ⟨u, c, hu, hblank, -, -⟩ := (Text.solid_trimEnd hne).exists_concat
    exact ⟨u, c, by rw [piece_comment hk, hu], hblank, fun _ => Or.inl rfl⟩
  | punctuation =>
    obtain ⟨c, htext, hpiece, -, hblank⟩ := piece_punctuation_shape options h hk
    refine ⟨[], c, hpiece, hblank, ?_⟩
    rintro rfl
    exact Or.inr (Span.isComma_iff.2 ⟨hk, htext⟩)
  | word =>
    obtain ⟨hne, hplain⟩ := piece_word_shape options h hk
    refine ⟨_, _, (List.dropLast_concat_getLast hne).symm, ?_, ?_⟩
    · exact Text.isBlank_eq_false_of_isPlain (hplain _ (List.getLast_mem hne))
    · intro hcomma
      have hlast := hplain _ (List.getLast_mem hne)
      exact absurd hcomma (Text.ne_of_isPlain hlast (by decide))
  | blank => exact absurd hk hkind

/-- What is written for a closed span ends in no blank, so no trim takes anything of it. -/
lemma solid_piece (options : Options) {s : Span} (h : Fits s.lexeme none)
    (hkind : s.kind ≠ .blank) (hclosed : s.terminated = true) :
    Text.Solid (piece options s) := by
  obtain ⟨t, c, hpiece, hblank, -⟩ := exists_concat_piece options h hkind hclosed
  rw [hpiece]
  exact Text.solid_concat.2 hblank

/-- Code is never a literal without its closer. -/
lemma terminated_of_isCode {s : Span} (h : Fits s.lexeme none) (hcode : s.isCode = true) :
    s.terminated = true := by
  simp only [Span.isCode, Bool.or_eq_true, beq_iff_eq] at hcode
  generalize hx : s.lexeme = x at h
  have hkind : x.kind = s.kind := by simp [← hx]
  have hterm : x.terminated = s.terminated := by simp [← hx]
  rw [← hterm]
  cases h with
  | openDoubled _ _ => simp [← hkind] at hcode
  | openBrace _ => simp [← hkind] at hcode
  | _ => rfl

end Layout
end SqlIndent
