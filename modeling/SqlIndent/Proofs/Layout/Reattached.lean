import SqlIndent.Proofs.Layout.Recut

/-!
# Tokens of formatted text

Where a comma stands between two comments, it moves up to the first of them and the second follows
it, so that the three read as one comment from then on. `reattached` joins such spans. Up to this,
the tokens of a formatted text are the tokens of its pieces (`tokens_format`).
-/

namespace SqlIndent

open Lexeme

namespace Layout

variable {options : Options} {keywords : KeywordSet} {level : Nat}

/-! ## Comments that run together -/

/-- The comment that joins `s` because only a comma stands between them, and the spans after it. -/
def commentAhead? (s : Span) : List Span → Option (Span × List Span)
  | p :: d :: rest =>
    if s.kind == .comment && p.isComma && d.kind == .comment then some (d, rest) else none
  | _ => none

/-- A comment is joined with another one just over a single comma. -/
lemma commentAhead?_eq_some {s d : Span} {spans rest : List Span}
    (h : commentAhead? s spans = some (d, rest)) :
    ∃ p, spans = p :: d :: rest ∧ s.kind = .comment ∧ p.isComma = true ∧ d.kind = .comment := by
  unfold commentAhead? at h
  split at h
  next p e after =>
    split at h
    next hif =>
      simp only [Option.some.injEq, Prod.mk.injEq] at h
      obtain ⟨rfl, rfl⟩ := h
      simp only [Bool.and_eq_true, beq_iff_eq] at hif
      exact ⟨p, rfl, hif.1.1, hif.1.2, hif.2⟩
    · exact absurd h (by simp)
  · exact absurd h (by simp)

/-- Without a comment to join, a comma after a comment has no comment after it. -/
lemma head?_of_commentAhead?_eq_none {s p : Span} {rest : List Span}
    (h : commentAhead? s (p :: rest) = none) (hs : s.kind = .comment) (hp : p.isComma = true) :
    rest.head?.any (·.kind == .comment) = false := by
  cases rest with
  | nil => rfl
  | cons d rest =>
    simp only [commentAhead?, hs, hp] at h
    simpa using h

/-- Two comments with a comma between them, as one comment. -/
def joined (s d : Span) : Span :=
  { s with text := Text.trimEnd s.text ++ [',', ' '] ++ d.text }

@[simp] lemma joined_kind (s d : Span) : (joined s d).kind = s.kind := rfl

/-- The spans with all comments joined that run together. -/
def reattached : List Span → List Span
  | [] => []
  | s :: spans =>
    match _h : commentAhead? s spans with
    | some (d, rest) => reattached (joined s d :: rest)
    | none => s :: reattached spans
termination_by spans => spans.length
decreasing_by
  · obtain ⟨p, rfl, -⟩ := commentAhead?_eq_some _h
    simp
  · simp

lemma reattached_nil : reattached [] = [] := by
  rw [reattached]

/-- Two comments are joined over a comma, and the joined one may be joined again. -/
lemma reattached_of_some {s d : Span} {spans rest : List Span}
    (h : commentAhead? s spans = some (d, rest)) :
    reattached (s :: spans) = reattached (joined s d :: rest) := by
  rw [reattached]
  split
  next d' rest' h' =>
    rw [h, Option.some.injEq, Prod.mk.injEq] at h'
    rw [h'.1, h'.2]
  next h' => simp [h] at h'

lemma reattached_of_none {s : Span} {spans : List Span} (h : commentAhead? s spans = none) :
    reattached (s :: spans) = s :: reattached spans := by
  rw [reattached]
  split
  next h' => simp [h] at h'
  · rfl

/-- A joined comment is a comment, trimmed where its last part is trimmed. -/
lemma trimEnd_joined {s d : Span} (hd : Fits d.lexeme none) (hkind : d.kind = .comment) :
    Text.trimEnd (joined s d).text = Text.trimEnd s.text ++ [',', ' '] ++ Text.trimEnd d.text := by
  obtain ⟨t, ht, -, -⟩ := trimEnd_comment hd hkind
  rw [joined, ht, Text.trimEnd_append_cons (by decide)]

/-- A joined comment is written as its parts are, with a comma between them. -/
lemma piece_joined {s d : Span} (hs : s.kind = .comment) (hd : Fits d.lexeme none)
    (hkind : d.kind = .comment) :
    piece options (joined s d) = piece options s ++ [',', ' '] ++ piece options d := by
  rw [piece_comment (by simpa using hs), trimEnd_joined hd hkind, piece_comment hs,
    piece_comment hkind]

/-- A joined comment can stand where its last part can. -/
lemma fits_joined {s d : Span} {next : Option Char} (hs : Fits s.lexeme none)
    (hskind : s.kind = .comment) (hd : Fits d.lexeme next) (hdkind : d.kind = .comment) :
    Fits (joined s d).lexeme next := by
  obtain ⟨t, -, htrim, hline⟩ := trimEnd_comment hs hskind
  obtain ⟨hterm, -⟩ := hs.comment_shape hskind
  obtain ⟨-, ⟨u, hu, huline⟩, hend⟩ := hd.comment_shape hdkind
  have htext : (joined s d).lexeme
      = ⟨.comment, '-' :: '-' :: (Text.trimEnd t ++ [',', ' '] ++ '-' :: '-' :: u), true⟩ := by
    rw [Span.lexeme_text] at hu
    rw [Span.lexeme_terminated] at hterm
    simp [Span.lexeme, joined, htrim, hu, hskind, hterm]
  rw [htext]
  refine .comment ?_ hend
  intro c hc
  simp only [List.mem_append, List.mem_cons, List.not_mem_nil, or_false] at hc
  rcases hc with (hc | rfl | rfl) | rfl | rfl | hc
  · exact hline c (Text.mem_of_mem_trimEnd hc)
  · decide
  · decide
  · decide
  · decide
  · exact huline c hc

/-- Joining comments keeps spans connected. -/
lemma precedes_joined {s d : Span} {rest : List Span} (hs : Fits s.lexeme none)
    (hskind : s.kind = .comment) (hd : d.Precedes rest) (hdkind : d.kind = .comment) :
    (joined s d).Precedes rest where
  solid := by simp [hskind]
  shape := fits_joined hs hskind hd.shape hdkind
  closed _ := (hs.comment_shape hskind).1
  touching next hnext hspaced := fits_joined hs hskind (hd.touching next hnext hspaced) hdkind

/-- Joining the first comment with the one ahead keeps the spans connected. -/
lemma connected_joined {s d : Span} {spans rest : List Span} (h : Connected (s :: spans))
    (hahead : commentAhead? s spans = some (d, rest)) : Connected (joined s d :: rest) := by
  obtain ⟨p, rfl, hskind, -, hdkind⟩ := commentAhead?_eq_some hahead
  obtain ⟨hs, -, hd, hrest⟩ := h
  exact ⟨precedes_joined hs.shape hskind hd hdkind, hrest⟩

/-- Joining comments changes neither the kind of the first span nor its start. -/
lemma exists_head?_reattached {spans : List Span} (h : Connected spans) :
    ∀ s ∈ spans.head?, ∃ n, (reattached spans).head? = some n ∧ n.kind = s.kind ∧
      n.spaced = s.spaced ∧ n.text.head? = s.text.head? := by
  induction spans using reattached.induct with
  | case1 => simp
  | case2 s spans d rest hahead ih =>
    intro s' hs'
    rw [List.head?_cons, Option.mem_def, Option.some.injEq] at hs'
    subst hs'
    -- the joined comment starts with the hyphens of `s`
    obtain ⟨n, hn, hkind, hspaced, hhead⟩ := ih (connected_joined h hahead) _ rfl
    obtain ⟨p, rfl, hskind, -, -⟩ := commentAhead?_eq_some hahead
    obtain ⟨t, ht, htrim, -⟩ := trimEnd_comment h.1.shape hskind
    refine ⟨n, by rw [reattached_of_some hahead, hn], hkind, hspaced, ?_⟩
    rw [hhead, joined, htrim, ht]
    rfl
  | case3 s spans hahead ih =>
    intro s' hs'
    rw [List.head?_cons, Option.mem_def, Option.some.injEq] at hs'
    subst hs'
    exact ⟨s, by rw [reattached_of_none hahead, List.head?_cons], rfl, rfl, rfl⟩

lemma connected_reattached {spans : List Span} (h : Connected spans) :
    Connected (reattached spans) := by
  induction spans using reattached.induct with
  | case1 =>
    rw [reattached_nil]
    trivial
  | case2 s spans d rest hahead ih =>
    rw [reattached_of_some hahead]
    exact ih (connected_joined h hahead)
  | case3 s spans hahead ih =>
    rw [reattached_of_none hahead]
    obtain ⟨hs, hspans⟩ := h
    refine ⟨⟨hs.solid, hs.shape, ?_, ?_⟩, ih hspans⟩
    · intro hne
      apply hs.closed
      rintro rfl
      exact hne reattached_nil
    · intro next hnext hspaced
      cases spans with
      | nil => simp [reattached_nil] at hnext
      | cons n rest =>
        obtain ⟨n', hn', -, hspaced', hhead⟩ := exists_head?_reattached hspans n rfl
        rw [hn', Option.mem_def, Option.some.injEq] at hnext
        subst hnext
        rw [hhead]
        exact hs.touching n rfl (hspaced' ▸ hspaced)

/-! ## Borders between pieces -/

/-- A span that ends its line is closed. -/
lemma terminated_of_endsLine {s : Span} (h : Fits s.lexeme none) (hends : endsLine s = true) :
    s.terminated = true := by
  simp only [endsLine, Bool.or_eq_true, Bool.and_eq_true, beq_iff_eq] at hends
  rcases hends with hkind | ⟨hkind, -⟩
  · exact (h.comment_shape hkind).1
  · exact terminated_of_isCode h (by simp [Span.isCode, hkind])

/-- A span fits before the text that is laid out after it, unless it is a comment that takes
another comment in. -/
lemma fits_laidOut {s : Span} {rest : List Span} (hs : s.Precedes rest) (hrest : Connected rest)
    (hahead : commentAhead? s rest = none) :
    Fits s.lexeme (laidOut options keywords level (some s) rest).head? := by
  cases rest with
  | nil =>
    rw [laidOut, gap, Option.any_some]
    split
    next hends => exact hs.shape.before_lineFeed (terminated_of_endsLine hs.shape hends) hs.solid
    · exact hs.shape
  | cons n rest =>
    have hclosed : s.lexeme.terminated = true := hs.closed (by simp)
    rw [laidOut, gap]
    split
    next hmoves =>
      -- a comma moves up to `s`
      simp only [movesUp, Bool.and_eq_true] at hmoves
      rw [piece_comma hmoves.1.1]
      refine hs.shape.before_comma hclosed fun hkind => ?_
      rw [head?_of_commentAhead?_eq_none hahead hkind hmoves.1.1] at hmoves
      exact absurd hmoves.2 (by decide)
    rw [plainGap]
    split
    · exact hs.shape.before_lineFeed hclosed hs.solid
    next hbreaks =>
      have hkind : s.kind ≠ .comment := by
        intro hkind
        simp [breaksBefore, endsLine, hkind] at hbreaks
      split
      · exact hs.shape.before_space hclosed hs.solid hkind
      next hspace =>
        -- `s` touches `n` in the source
        have hspaced : n.spaced = false := by
          simp only [Option.isSome_some, Bool.true_and, Bool.or_eq_true, not_or,
            Bool.not_eq_true] at hspace
          exact hspace.2
        rw [List.nil_append]
        exact fits_before_piece (hs.touching n (by simp) hspaced) hrest.1.shape hrest.1.solid _

/-! ## Tokens of a laid-out text -/

@[simp] lemma tokens_nil : tokens [] = [] := by
  simp [tokens]

/-- Blanks at the front of a text are no tokens. -/
lemma tokens_blanks_append {g t : Text} (hg : ∀ c ∈ g, Text.isBlank c = true)
    (ht : ∀ c ∈ t.head?, Text.isBlank c = false) : tokens (g ++ t) = tokens t := by
  by_cases hnil : g = []
  · rw [hnil, List.nil_append]
  · have hfits : Fits ⟨.blank, g, true⟩ t.head? := .blank hnil hg ht
    rw [tokens, lexemes_of_fits hfits]
    rfl

lemma isBlank_of_mem_gap {prev : Option Span} {spans : List Span} :
    ∀ c ∈ gap options keywords level prev spans, Text.isBlank c = true := by
  intro c hc
  cases spans with
  | nil =>
    rw [gap] at hc
    split at hc
    · exact isBlank_of_mem_lineBreak c hc
    · simp at hc
  | cons s rest =>
    rw [gap, plainGap] at hc
    repeat' split at hc
    · simp at hc
    · exact isBlank_of_mem_lineBreak c hc
    · rw [List.mem_singleton] at hc
      rw [hc]
      decide
    · simp at hc

lemma tokens_gap (prev : Option Span) (spans : List Span) :
    tokens (gap options keywords level prev spans) = [] := by
  have h : tokens (gap options keywords level prev spans ++ []) = tokens [] :=
    tokens_blanks_append isBlank_of_mem_gap (by simp)
  rwa [List.append_nil, tokens_nil] at h

/-- Pieces start with characters that are not blank. -/
lemma isBlank_head?_piece {s : Span} (hs : Fits s.lexeme none) (hkind : s.kind ≠ .blank)
    (rest : Text) : ∀ c ∈ (piece options s ++ rest).head?, Text.isBlank c = false := by
  -- a run of blanks could stand before the span, so it can stand before the piece
  have hfits : Fits ⟨.blank, [' '], true⟩ s.text.head? :=
    .blank (by simp) (by simp; decide) (hs.isBlank_head? hkind)
  exact ((fits_before_piece hfits hs hkind rest).blank_shape rfl).2.2

/-- What is laid out after a span depends on little of that span: whether it ends its line, and
whether it is a comment. -/
lemma laidOut_congr {p q : Span} (hends : endsLine p = endsLine q)
    (hkind : (p.kind == .comment) = (q.kind == .comment)) (spans : List Span) :
    laidOut options keywords level (some p) spans
      = laidOut options keywords level (some q) spans := by
  have hgap : gap options keywords level (some p) spans
      = gap options keywords level (some q) spans := by
    cases spans with
    | nil => simp only [gap, Option.any_some, hends]
    | cons s rest =>
      have hbreaks : breaksBefore keywords (some p) s = breaksBefore keywords (some q) s := by
        simp only [breaksBefore, Option.any_some, hends, hkind]
      simp only [gap, movesUp, plainGap, hbreaks, Option.isSome_some]
  cases spans <;> simp only [laidOut, hgap]

/-- A comma and a comment after a comment are laid out on the line of that comment. -/
lemma laidOut_comma_comment {s p d : Span} {rest : List Span} (hs : s.kind = .comment)
    (hp : p.isComma = true) (hd : d.kind = .comment) :
    laidOut options keywords level (some s) (p :: d :: rest)
      = [',', ' '] ++ piece options d ++
        laidOut options keywords (levelAfter keywords level p) (some d) rest := by
  have hkind := (Span.isComma_iff.1 hp).1
  have hends : endsLine s = true := by simp [endsLine, hs]
  have hcomma : gap options keywords level (some s) (p :: d :: rest) = [] := by
    simp [gap, movesUp, hp, breaksBefore, hends, hkind, hd]
  have hcomment : gap options keywords (levelAfter keywords level p) (some p) (d :: rest)
      = [' '] := by
    rw [gap_comment hd]
    simp [hkind]
  rw [laidOut, laidOut, hcomma, hcomment, piece_comma hp, levelAfter_comment hd]
  simp

/-- The tokens of a piece after a gap, and of what is laid out after it. The levels of later lines
do not matter, so joining comments may change them. -/
lemma tokens_piece_laidOut {spans : List Span} (h : Connected spans) :
    ∀ s rest, spans = s :: rest → ∀ (g : Text) (level : Nat), (∀ c ∈ g, Text.isBlank c = true) →
      tokens (g ++ (piece options s ++ laidOut options keywords level (some s) rest))
        = (reattached spans).flatMap fun s => tokens (piece options s) := by
  induction spans using reattached.induct with
  | case1 =>
    intro s rest hnil
    simp at hnil
  | case2 s spans d after hahead ih =>
    intro s' rest' heq g level hg
    rw [List.cons.injEq] at heq
    obtain ⟨rfl, rfl⟩ := heq
    have hjoined := ih (connected_joined h hahead) _ _ rfl g
    obtain ⟨p, rfl, hs, hp, hd⟩ := commentAhead?_eq_some hahead
    have hshape : Fits d.lexeme none := h.2.2.1.shape
    have hafter : laidOut options keywords (levelAfter keywords level p) (some (joined s d)) after
        = laidOut options keywords (levelAfter keywords level p) (some d) after :=
      laidOut_congr (by simp [endsLine, hs, hd]) (by simp [hs, hd]) after
    rw [reattached_of_some hahead, ← hjoined (levelAfter keywords level p) hg,
      laidOut_comma_comment hs hp hd, piece_joined hs hshape hd, hafter]
    simp only [List.append_assoc]
  | case3 s spans hahead ih =>
    intro s' rest' heq g level hg
    rw [List.cons.injEq] at heq
    obtain ⟨rfl, rfl⟩ := heq
    have hs := h.1
    have hfits : Fits s.lexeme (laidOut options keywords level (some s) spans).head? :=
      fits_laidOut hs h.2 hahead
    rw [reattached_of_none hahead, List.flatMap_cons,
      tokens_blanks_append hg (isBlank_head?_piece hs.shape hs.solid _), tokens,
      lexemes_piece_append hfits hs.solid, List.filter_append, ← tokens, ← tokens]
    congr 1
    cases spans with
    | nil =>
      rw [laidOut, tokens_gap, reattached_nil]
      rfl
    | cons n rest =>
      rw [laidOut, List.append_assoc]
      exact ih h.2 n rest rfl _ _ isBlank_of_mem_gap

/-- The tokens of the layout are those of the pieces, after comments have been joined over commas.
-/
lemma tokens_laidOut {spans : List Span} (h : Connected spans) (prev : Option Span) :
    tokens (laidOut options keywords level prev spans)
      = (reattached spans).flatMap fun s => tokens (piece options s) := by
  cases spans with
  | nil =>
    rw [laidOut, tokens_gap, reattached_nil]
    rfl
  | cons s rest =>
    rw [laidOut, List.append_assoc]
    exact tokens_piece_laidOut h s rest rfl _ _ isBlank_of_mem_gap

/-- The tokens of a formatted text are those of its pieces, once the comments that run together
are joined. -/
theorem tokens_format (options : Options) (keywords : KeywordSet) (t : Text) :
    tokens (format options keywords t)
      = (reattached (significant t)).flatMap fun s => tokens (piece options s) := by
  unfold format
  rw [run_eq_laidOut (connected_significant t), tokens_laidOut (connected_significant t)]

end Layout
end SqlIndent
