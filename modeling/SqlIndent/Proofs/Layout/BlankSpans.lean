import SqlIndent.Proofs.Layout.Gaps
import SqlIndent.Proofs.Span.Lexing

/-!
# Runs of blanks in a layout

A layout is made to run over significant spans. Given all spans of a text, it writes nothing for a
run of blanks, but remembers it as the span written last. This shows in one place only: a comment
right after another comment starts a line of its own, and behind a run of blanks it no longer sees
the comment before it, so it is pulled up to the line of that comment. `run_lex_eq_iff` says that
this is the only difference: both runs agree exactly if no two comments follow each other.

What makes the difference last is that a layout takes back trailing blanks and single commas only:
text that ends in any other character stays (`isPrefix_foldl_step`).
-/

namespace SqlIndent

open Lexeme

/-- Two comments, one right after the other. -/
def AdjacentComments (spans : List Span) : Prop :=
  ∃ a b, [a, b] <:+: spans ∧ a.kind = .comment ∧ b.kind = .comment

lemma AdjacentComments.mono {u spans : List Span} (h : AdjacentComments u) (hu : u <:+: spans) :
    AdjacentComments spans := by
  obtain ⟨a, b, hab, hkinds⟩ := h
  exact ⟨a, b, hab.trans hu, hkinds⟩

lemma adjacentComments_cons {s : Span} {spans : List Span} :
    AdjacentComments (s :: spans)
      ↔ (s.kind = .comment ∧ ∃ b ∈ spans.head?, b.kind = .comment) ∨ AdjacentComments spans := by
  constructor
  · rintro ⟨a, b, hinfix, ha, hb⟩
    rcases List.infix_cons_iff.1 hinfix with ⟨after, hafter⟩ | hinfix
    · rw [List.cons_append, List.cons.injEq] at hafter
      obtain ⟨rfl, rfl⟩ := hafter
      exact Or.inl ⟨ha, b, rfl, hb⟩
    · exact Or.inr ⟨a, b, hinfix, ha, hb⟩
  · rintro (⟨hs, b, hb, hkind⟩ | h)
    · obtain ⟨rest, rfl⟩ := List.head?_eq_some_iff.1 (Option.mem_def.1 hb)
      exact ⟨s, b, ⟨[], rest, rfl⟩, hs, hkind⟩
    · exact h.mono (List.suffix_cons s spans).isInfix

/-- Where comments follow each other, there are two that do so first. -/
lemma AdjacentComments.exists_first {spans : List Span} (h : AdjacentComments spans) :
    ∃ u a b v, spans = u ++ a :: b :: v ∧ a.kind = .comment ∧ b.kind = .comment ∧
      ¬AdjacentComments (u ++ [a]) := by
  induction spans with
  | nil =>
    obtain ⟨a, b, hinfix, -⟩ := h
    simp at hinfix
  | cons s spans ih =>
    by_cases hs : s.kind = .comment ∧ ∃ b ∈ spans.head?, b.kind = .comment
    · obtain ⟨hkind, b, hb, hbkind⟩ := hs
      obtain ⟨v, rfl⟩ := List.head?_eq_some_iff.1 (Option.mem_def.1 hb)
      refine ⟨[], s, b, v, rfl, hkind, hbkind, ?_⟩
      rintro ⟨a, c, hinfix, -⟩
      simpa using hinfix.length_le
    · obtain ⟨u, a, b, v, rfl, ha, hb, hfirst⟩ := ih ((adjacentComments_cons.1 h).resolve_left hs)
      refine ⟨s :: u, a, b, v, rfl, ha, hb, ?_⟩
      have hhead : (u ++ [a]).head? = (u ++ a :: b :: v).head? := by
        cases u <;> rfl
      rw [List.cons_append, adjacentComments_cons, hhead]
      exact not_or.2 ⟨hs, hfirst⟩

namespace Layout

variable {options : Options} {keywords : KeywordSet}

/-! ## Without comments that follow each other -/

/-- Of the span written last only its being a comment counts, and only for a comment. -/
lemma buffer_step_congr {l l' : Layout} {s : Span} (hbuffer : l.buffer = l'.buffer)
    (hlast : s.kind = .comment → (l.last = some .comment ↔ l'.last = some .comment)) :
    (step options keywords l s).buffer = (step options keywords l' s).buffer := by
  cases hkind : s.kind with
  | comment => simp [step, hkind, writeComment_eq, besideComment, hbuffer, hlast hkind]
  | _ => simp [step, hkind, hbuffer]

/-- Runs of blanks leave the buffer alone and are remembered. -/
lemma foldl_step_blanks {spans : List Span} (h : ∀ s ∈ spans, s.kind = .blank) (hne : spans ≠ [])
    (l : Layout) :
    spans.foldl (step options keywords) l = { l with last := some .blank } := by
  induction spans generalizing l with
  | nil => exact absurd rfl hne
  | cons s spans ih =>
    have hs : step options keywords l s = { l with last := some .blank } := by
      simp [step, h s (by simp)]
    rw [List.foldl_cons, hs]
    by_cases hnil : spans = []
    · rw [hnil, List.foldl_nil]
    · rw [ih (fun r hr => h r (by simp [hr])) hnil]

/-- As long as no two comments follow each other, runs of blanks may be left out. -/
lemma buffer_foldl_filter {l l' : Layout} {prev : Option Span} {spans : List Span}
    (hbuffer : l.buffer = l'.buffer) (hlast : l.last = some .comment → l'.last = some .comment)
    (hprev : l'.last = prev.map Span.kind)
    (h : ¬AdjacentComments (prev.toList ++ spans.filter (·.kind != .blank))) :
    (spans.foldl (step options keywords) l).buffer
      = ((spans.filter (·.kind != .blank)).foldl (step options keywords) l').buffer := by
  induction spans generalizing l l' prev with
  | nil => exact hbuffer
  | cons s spans ih =>
    by_cases hs : s.kind = .blank
    · have hstep : step options keywords l s = { l with last := some .blank } := by
        simp [step, hs]
      rw [List.filter_cons_of_neg (by simp [hs])] at h ⊢
      rw [List.foldl_cons, hstep]
      exact ih hbuffer (by simp) hprev h
    · rw [List.filter_cons_of_pos (by simpa using hs)] at h ⊢
      rw [List.foldl_cons, List.foldl_cons]
      have hstep : (step options keywords l s).buffer = (step options keywords l' s).buffer := by
        refine buffer_step_congr hbuffer fun hkind => ⟨hlast, fun hlast' => ?_⟩
        -- the comment `s` would come right after another one
        obtain ⟨p, rfl, hp⟩ := Option.map_eq_some_iff.1 (hprev.symm.trans hlast')
        exact absurd ⟨p, s, ⟨[], _, rfl⟩, hp, hkind⟩ h
      have hrest : ¬AdjacentComments ((some s).toList ++ spans.filter (·.kind != .blank)) :=
        fun hadjacent => h (hadjacent.mono ⟨prev.toList, [], by simp⟩)
      exact ih hstep (fun hkind => hkind) rfl hrest

/-- From the start on, blank spans make no difference unless two comments are neighbours without
them. -/
lemma buffer_foldl_filter_start (options : Options) (keywords : KeywordSet) (spans : List Span)
    (h : ¬AdjacentComments (spans.filter (·.kind != .blank))) :
    (spans.foldl (step options keywords) (start options)).buffer
      = ((spans.filter (·.kind != .blank)).foldl (step options keywords) (start options)).buffer :=
  @buffer_foldl_filter options keywords _ _ none spans rfl (fun hlast => hlast) rfl h

/-! ## What stays in the buffer -/

lemma isPrefix_separate {p : Text} {b : Buffer} (h : p <+: b.output) (s : Span) :
    p <+: (separate b s).output := by
  unfold separate
  split
  · exact Buffer.isPrefix_space h
  · exact h

/-- Making room for a comment leaves a beginning that ends in neither a blank nor a comma. -/
lemma isPrefix_besideComment {p : Text} {b : Buffer} (hp : Text.Firm p) (h : p <+: b.output)
    (last : Option Kind) : p <+: (besideComment b last).output := by
  have htrim : p <+: b.trim.output := Buffer.isPrefix_trim hp.solid h
  unfold besideComment
  split
  · exact h
  · split
    next q hq =>
      have hkept := Buffer.isPrefix_withoutLoneComma? hp hq h
      exact Buffer.isPrefix_write (Buffer.isPrefix_trim hp.solid hkept) _
    next =>
      split
      · exact htrim
      · exact Buffer.isPrefix_write htrim _

/-- Writing a word leaves such a beginning, though it may trim and break the line. -/
lemma isPrefix_writeWord {p : Text} {b : Buffer} (hp : Text.Firm p) (h : p <+: b.output)
    (s : Span) : p <+: (writeWord options keywords b s).output := by
  have hwritten : p <+: ((separate (if keywords.isNewline s.text.key then b.newline else b) s).write
      (options.recase s.text)).output := by
    refine Buffer.isPrefix_write (isPrefix_separate ?_ s) _
    split
    · exact Buffer.isPrefix_newline hp.solid h
    · exact h
  unfold writeWord
  dsimp only
  split
  · exact hwritten
  · split
    · exact Buffer.isPrefix_newline hp.solid hwritten
    · exact hwritten

/-- A step does not take back text that ends in anything but blanks and a comma. -/
lemma isPrefix_step {p : Text} {l : Layout} (hp : Text.Firm p) (h : p <+: l.buffer.output)
    (s : Span) : p <+: (step options keywords l s).buffer.output := by
  cases hkind : s.kind with
  | literal d =>
    simp only [step, hkind]
    exact Buffer.isPrefix_write (isPrefix_separate h s) _
  | comment =>
    simp only [step, hkind, writeComment_eq]
    have hbeside := isPrefix_besideComment hp h l.last
    exact Buffer.isPrefix_newline hp.solid (Buffer.isPrefix_write hbeside _)
  | punctuation =>
    simp only [step, hkind]
    exact isPrefix_writeWord hp h s
  | word =>
    simp only [step, hkind]
    exact isPrefix_writeWord hp h s
  | blank =>
    simp only [step, hkind]
    exact h

/-- Nor does a run. -/
lemma isPrefix_foldl_step {p : Text} {l : Layout} (hp : Text.Firm p) (h : p <+: l.buffer.output)
    (spans : List Span) : p <+: (spans.foldl (step options keywords) l).buffer.output := by
  induction spans generalizing l with
  | nil => exact h
  | cons s spans ih =>
    rw [List.foldl_cons]
    exact ih (isPrefix_step hp h s)

/-! ## Two comments -/

/-- What a comment does to the buffer depends on the kind of the span before it only. -/
lemma buffer_step_comment (l : Layout) {s : Span} (hkind : s.kind = .comment) :
    (step options keywords l s).buffer
      = ((besideComment l.buffer l.last).write s.text).newline := by
  simp [step, hkind, writeComment_eq]

/-- A comment leaves the buffer at the start of the line after it. -/
lemma output_step_comment (l : Layout) {s : Span} (hshape : Fits s.lexeme none)
    (hkind : s.kind = .comment) :
    ∃ text indentSize level, Text.Solid text ∧
      (step options keywords l s).buffer.output = text ++ lineBreak indentSize level := by
  obtain ⟨t, ht, -, -⟩ := trimEnd_comment hshape hkind
  refine ⟨_, _, _, ?_, by rw [buffer_step_comment l hkind, Buffer.output_newline_eq]⟩
  apply Text.solid_trimEnd
  rw [Buffer.output_write, ht, Text.trimEnd_append_cons (by decide), Text.trimEnd_cons (by decide)]
  simp

/-- A comment is written behind what it stands beside. -/
lemma isPrefix_step_comment (l : Layout) {s : Span} (hshape : Fits s.lexeme none)
    (hkind : s.kind = .comment) :
    (besideComment l.buffer l.last).output ++ ['-']
      <+: (step options keywords l s).buffer.output := by
  obtain ⟨t, ht, -, -⟩ := trimEnd_comment hshape hkind
  rw [buffer_step_comment l hkind]
  apply Buffer.isPrefix_newline (Text.solid_concat.2 (by decide))
  rw [Buffer.output_write, ht]
  exact ⟨'-' :: t, by simp⟩

/-- Behind blanks, a comment goes up to the line before. -/
lemma output_besideComment_blank {b : Buffer} {text : Text} {indentSize level : Nat}
    (htext : Text.Solid text) (h : b.output = text ++ lineBreak indentSize level) :
    (besideComment b (some .blank)).output = text ++ [' '] := by
  have htrim : b.trim.output = text := by
    rw [Buffer.output_trim, h, Text.trimEnd_append_blanks isBlank_of_mem_lineBreak,
      Text.trimEnd_of_solid htext]
  have hempty : b.trim.isEmpty = false := by
    rw [← Bool.not_eq_true, Buffer.isEmpty_iff, htrim]
    exact htext.ne_nil
  have hcomma : b.withoutLoneComma? = none := @withoutLoneComma?_of_output ⟨true, _⟩ _ b text h
  simp [besideComment, hcomma, hempty, htrim]

/-- Right behind a comment, another one starts a line; behind a comment and blanks it does not. -/
lemma exists_isPrefix_two_comments (options : Options) (keywords : KeywordSet) (l : Layout)
    {a b : Span} (ha : Fits a.lexeme none) (hkindA : a.kind = .comment) (hb : Fits b.lexeme none)
    (hkindB : b.kind = .comment) :
    ∃ text indentSize level,
      text ++ lineBreak indentSize level ++ ['-']
          <+: (step options keywords (step options keywords l a) b).buffer.output ∧
        text ++ [' '] ++ ['-'] <+: (step options keywords
          ⟨(step options keywords l a).buffer, some .blank⟩ b).buffer.output := by
  obtain ⟨text, indentSize, level, hsolid, houtput⟩ :=
    @output_step_comment options keywords l a ha hkindA
  have hlast : (step options keywords l a).last = some .comment := congrArg some hkindA
  refine ⟨text, indentSize, level, ?_, ?_⟩
  · have hsecond := @isPrefix_step_comment options keywords (step options keywords l a) b hb hkindB
    rwa [hlast, besideComment, if_pos rfl, houtput] at hsecond
  · rw [← output_besideComment_blank hsolid houtput]
    exact isPrefix_step_comment ⟨(step options keywords l a).buffer, some .blank⟩ hb hkindB

/-! ## All spans and significant spans -/

/-- Each span of a text fits what follows it. -/
lemma fits_of_lex_eq {t : Text} {before after : List Span} {s : Span}
    (h : lex t = before ++ s :: after) : Fits s.lexeme (sourceOf after).head? :=
  (inPlace_of_lex_eq h).shape.fits (inPlace_of_lex_eq h).nonempty

/-- Comments that follow each other have blanks between them in the text. -/
lemma lex_of_adjacentComments {t : Text} {u v : List Span} {a b : Span}
    (h : significant t = u ++ a :: b :: v) (ha : a.kind = .comment) (hb : b.kind = .comment) :
    ∃ before blanks after, lex t = before ++ a :: (blanks ++ b :: after) ∧
      before.filter (·.kind != .blank) = u ∧ blanks ≠ [] ∧ ∀ s ∈ blanks, s.kind = .blank := by
  obtain ⟨l₁, l₂, hlex, hu, hl₂⟩ := List.filter_eq_append_iff.1 h
  obtain ⟨blanks₁, l₃, rfl, hblanks₁, -, hl₃⟩ := List.filter_eq_cons_iff.1 hl₂
  obtain ⟨blanks, after, rfl, hblanks, -, -⟩ := List.filter_eq_cons_iff.1 hl₃
  refine ⟨l₁ ++ blanks₁, blanks, after, by rw [hlex, List.append_assoc], ?_, ?_, ?_⟩
  · rw [List.filter_append, hu, List.filter_eq_nil_iff.2 hblanks₁, List.append_nil]
  · -- a comment ends at a line end, and a comment does not start with one
    rintro rfl
    rw [List.nil_append, ← List.append_assoc] at hlex
    have hend := ((fits_of_lex_eq hlex).comment_shape ha).2.2
    rw [List.append_cons] at hlex
    obtain ⟨-, ⟨body, hbody, -⟩, -⟩ := (fits_of_lex_eq hlex).comment_shape hb
    have hhyphen := hend '-' (by simp [show b.text = _ from hbody])
    exact absurd hhyphen (by decide)
  · intro s hs
    simpa using hblanks s hs

/-- Where comments follow each other, the runs of blanks make a difference that lasts. -/
lemma run_lex_ne {t : Text} (h : AdjacentComments (significant t)) :
    run options keywords (lex t) ≠ run options keywords (significant t) := by
  obtain ⟨u, a, b, v, hsignificant, ha, hb, hfirst⟩ := h.exists_first
  obtain ⟨before, blanks, after, hlex, hbefore, hne, hblanks⟩ :=
    lex_of_adjacentComments hsignificant ha hb
  have hshapeA : Fits a.lexeme none := (fits_of_lex_eq hlex).atEnd
  have hshapeB : Fits b.lexeme none := by
    rw [← List.cons_append, ← List.append_assoc] at hlex
    exact (fits_of_lex_eq hlex).atEnd
  let l := u.foldl (step options keywords) (start options)
  -- up to the first of the two comments the runs agree
  have hsame : ((before ++ [a]).foldl (step options keywords) (start options)).buffer
      = (step options keywords l a).buffer := by
    have hfilter : (before ++ [a]).filter (·.kind != .blank) = u ++ [a] := by
      simp [hbefore, ha]
    have hrun := buffer_foldl_filter_start options keywords (before ++ [a])
      (by rw [hfilter]; exact hfirst)
    rw [hrun, hfilter, List.foldl_append, List.foldl_cons, List.foldl_nil]
  obtain ⟨text, indentSize, level, hnext, hblank⟩ :=
    exists_isPrefix_two_comments options keywords l hshapeA ha hshapeB hb
  have hsome : text ++ lineBreak indentSize level ++ ['-']
      <+: run options keywords (significant t) := by
    rw [run, hsignificant, List.foldl_append, List.foldl_cons, List.foldl_cons]
    exact isPrefix_foldl_step (Text.firm_concat.2 (by decide)) hnext v
  have hall : text ++ [' '] ++ ['-'] <+: run options keywords (lex t) := by
    rw [run, hlex, List.append_cons before, List.foldl_append, List.foldl_append,
      foldl_step_blanks hblanks hne, hsame, List.foldl_cons]
    exact isPrefix_foldl_step (Text.firm_concat.2 (by decide)) hblank after
  intro heq
  obtain ⟨r, hr⟩ := heq ▸ hall
  obtain ⟨r', hr'⟩ := hsome
  rw [← hr'] at hr
  simp [lineBreak] at hr

/-- **Runs of blanks in a layout.** A run over all spans of a text gives the formatted text exactly
if no two comments of the text follow each other. -/
theorem run_lex_eq_iff (options : Options) (keywords : KeywordSet) (t : Text) :
    run options keywords (lex t) = run options keywords (significant t)
      ↔ ¬AdjacentComments (significant t) := by
  refine ⟨fun heq hadjacent => run_lex_ne hadjacent heq, fun hadjacent => ?_⟩
  rw [run, buffer_foldl_filter_start options keywords (lex t) hadjacent]
  rfl

/-- The second comment is pulled up to the line of the first. -/
theorem run_lex_comments :
    run { uppercase := false } (.ofLists {}) (lex "--a\n--b".toList)
        ≠ run { uppercase := false } (.ofLists {}) (significant "--a\n--b".toList) ∧
      run { uppercase := false } (.ofLists {}) (lex "--a\n--b".toList) = "--a --b\n".toList ∧
      run { uppercase := false } (.ofLists {}) (significant "--a\n--b".toList)
        = "--a\n--b\n".toList := by
  decide +kernel

end Layout
end SqlIndent
