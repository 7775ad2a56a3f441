import Mathlib.Data.List.Basic
import SqlIndent.Proofs.Layout.Pieces

/-!
# Gaps

A layout run writes into its buffer, trims it and takes commas back. None of this is needed to say
what comes out: between two pieces stands a gap that depends on the level of indentation, on the
spans on both sides and, for a comma, on the span after it. `laidOut` gives the text in this way,
and `run_eq_laidOut` says that a run leaves exactly this text in the buffer.

The invariant of a run is `Stands`: the buffer holds the text so far and perhaps a line break that
is still open to revision; or a comma stands alone on its line with a comment to come, and the two
will move up.
-/

namespace SqlIndent

open Lexeme

namespace Layout

/-! ## The closed form -/

/-- Spans after which a new line starts: comments, and the word that closes a block. -/
def endsLine (s : Span) : Bool :=
  s.kind == .comment || s.kind == .word && isDedent s.text.key

/-- The level of indentation after a span. -/
def levelAfter (keywords : KeywordSet) (level : Nat) (s : Span) : Nat :=
  if s.isCode then
    if keywords.isIndent s.text.key then level + 1
    else if isDedent s.text.key then level - 1
    else level
  else level

/-- Whether a line starts before a span: the span asks for it, or the one before it does. Only
another comment lets a comment start a line. -/
def breaksBefore (keywords : KeywordSet) (prev : Option Span) (s : Span) : Bool :=
  s.isCode && keywords.isNewline s.text.key ||
    prev.any fun p => endsLine p && (s.kind != .comment || p.kind == .comment)

/-- The gap between `prev` and a span, whatever comes after that span: a line break, a space where
the source has blanks or a comment follows, or nothing. -/
def plainGap (options : Options) (keywords : KeywordSet) (level : Nat) (prev : Option Span)
    (s : Span) : Text :=
  if breaksBefore keywords prev s then lineBreak options.indentSize level
  else if prev.isSome && (s.kind == .comment || s.spaced) then [' ']
  else []

/-- Whether a comma that would start a line moves up because a comment comes after it. -/
def movesUp (keywords : KeywordSet) (prev : Option Span) (s : Span) (rest : List Span) : Bool :=
  s.isComma && breaksBefore keywords prev s && rest.head?.any (·.kind == .comment)

/-- The gap between the span `prev` and the spans after it, or after the last span. -/
def gap (options : Options) (keywords : KeywordSet) (level : Nat) (prev : Option Span) :
    List Span → Text
  | [] => if prev.any endsLine then lineBreak options.indentSize level else []
  | s :: rest =>
    if movesUp keywords prev s rest then [] else plainGap options keywords level prev s

/-- The text of the spans after `prev`, from the given level on. -/
def laidOut (options : Options) (keywords : KeywordSet) (level : Nat) (prev : Option Span) :
    List Span → Text
  | [] => gap options keywords level prev []
  | s :: rest =>
    gap options keywords level prev (s :: rest) ++ piece options s ++
      laidOut options keywords (levelAfter keywords level s) (some s) rest

variable {options : Options} {keywords : KeywordSet} {level : Nat} {prev : Option Span}

/-- A literal leaves the level as it is, whatever words stand in it. -/
lemma levelAfter_literal {s : Span} {d : Delimiter} (hkind : s.kind = .literal d) :
    levelAfter keywords level s = level := by
  simp [levelAfter, Span.isCode, hkind]

lemma levelAfter_comment {s : Span} (hkind : s.kind = .comment) :
    levelAfter keywords level s = level := by
  simp [levelAfter, Span.isCode, hkind]

/-! ## The invariant of a run -/

/-- The break that is already in the buffer after a span that ends its line. -/
def openBreak (options : Options) (level : Nat) (prev : Option Span) : Text :=
  if prev.any endsLine then lineBreak options.indentSize level else []

/-- What the buffer holds when `text` is written and `rest` is to come. -/
inductive Holds (options : Options) (level : Nat) (prev : Option Span) (text : Text)
    (rest : List Span) (b : Buffer) : Prop
  /-- The text and perhaps an open break, but no comma that a comment would take along. -/
  | settled : b.output = text ++ openBreak options level prev →
      (rest.head?.any (·.kind == .comment) = true → b.withoutLoneComma? = none) →
      Holds options level prev text rest b
  /-- A comma alone on its line, and a comment that will take it back. -/
  | loneComma {before : Text} {n : Nat} : before = [] ∨ Text.Solid before →
      text = before ++ [','] → b.output = before ++ lineBreak options.indentSize n ++ [','] →
      prev.any Span.isComma = true → rest.head?.any (·.kind == .comment) = true →
      Holds options level prev text rest b

/-- Where a run stands between the spans up to `prev` and the spans `rest`. -/
structure Stands (options : Options) (level : Nat) (prev : Option Span) (text : Text)
    (rest : List Span) (l : Layout) : Prop where
  indentSize_eq : l.buffer.indentSize = options.indentSize
  level_eq : l.buffer.level = level
  last_eq : l.last = prev.map Span.kind
  empty : prev = none → text = []
  /-- Trimming cannot reach into the text. -/
  solid : prev ≠ none → rest ≠ [] → Text.Solid text
  holds : Holds options level prev text rest l.buffer

/-- The invariant holds before the first span: nothing is written, and the level is 0. -/
lemma stands_start (options : Options) (spans : List Span) :
    Stands options 0 none [] spans (start options) where
  indentSize_eq := rfl
  level_eq := rfl
  last_eq := rfl
  empty _ := rfl
  solid h := absurd rfl h
  holds := .settled rfl fun _ => rfl

/-- Before a span, the text laid out so far is empty or ends in no blank. -/
lemma Stands.nil_or_solid {text : Text} {s : Span} {rest : List Span} {l : Layout}
    (h : Stands options level prev text (s :: rest) l) : text = [] ∨ Text.Solid text := by
  by_cases hprev : prev = none
  · exact Or.inl (h.empty hprev)
  · exact Or.inr (h.solid hprev (by simp))

lemma Stands.trimEnd_eq {text : Text} {s : Span} {rest : List Span} {l : Layout}
    (h : Stands options level prev text (s :: rest) l) : Text.trimEnd text = text := by
  rcases h.nil_or_solid with rfl | hsolid
  · rfl
  · exact Text.trimEnd_of_solid hsolid

/-- A comma is taken back only for a comment. -/
lemma Stands.output_eq {text : Text} {s : Span} {rest : List Span} {l : Layout}
    (h : Stands options level prev text (s :: rest) l) (hs : s.kind ≠ .comment) :
    l.buffer.output = text ++ openBreak options level prev := by
  cases h.holds with
  | settled houtput _ => exact houtput
  | loneComma _ _ _ _ hcomment => exact absurd (by simpa using hcomment) hs

/-- Breaking the line replaces an open break. -/
lemma Stands.output_newline_eq {text : Text} {s : Span} {rest : List Span} {l : Layout}
    (h : Stands options level prev text (s :: rest) l) (hs : s.kind ≠ .comment) :
    l.buffer.newline.output = text ++ lineBreak options.indentSize level := by
  rw [Buffer.output_newline_eq, h.output_eq hs, h.indentSize_eq, h.level_eq]
  congr 1
  rw [Text.trimEnd_append_blanks, h.trimEnd_eq]
  unfold openBreak
  split
  · exact isBlank_of_mem_lineBreak
  · simp

/-! ## Writing a span other than a comment -/

@[simp] lemma indentSize_separate (b : Buffer) (s : Span) :
    (separate b s).indentSize = b.indentSize := by
  unfold separate
  split <;> simp

@[simp] lemma level_separate (b : Buffer) (s : Span) : (separate b s).level = b.level := by
  unfold separate
  split <;> simp

/-- Before a span that is no comment stands the line break that the last span has opened, or else a
space where the source has blanks. -/
lemma Stands.output_separate {text : Text} {s : Span} {rest : List Span} {l : Layout}
    (h : Stands options level prev text (s :: rest) l) (hs : s.kind ≠ .comment) :
    (separate l.buffer s).output
      = text ++ if prev.any endsLine then lineBreak options.indentSize level
        else if prev.isSome && s.spaced then [' '] else [] := by
  have houtput := h.output_eq hs
  unfold openBreak at houtput
  unfold separate
  by_cases hends : prev.any endsLine = true
  · -- the line is still empty, so no space is written
    rw [if_pos hends] at houtput ⊢
    rw [Buffer.space_of_atLineStart (Buffer.atLineStart_of_lineBreak houtput), ite_self, houtput]
  · rw [if_neg hends, List.append_nil] at houtput
    rw [if_neg hends]
    cases hprev : prev with
    | none =>
      have htext := h.empty hprev
      rw [htext] at houtput
      rw [Buffer.space_of_atLineStart (Buffer.atLineStart_of_nil houtput), ite_self, houtput]
      simp [htext]
    | some p =>
      have hsolid : Text.Solid l.buffer.output := by
        rw [houtput]
        exact h.solid (by simp [hprev]) (by simp)
      cases hspaced : s.spaced with
      | false => simp [houtput]
      | true => simp [Buffer.output_space_of_solid hsolid, houtput]

/-- What is in the buffer right before a span other than a comment is written. -/
lemma Stands.output_before (keywords : KeywordSet) {text : Text} {s : Span} {rest : List Span}
    {l : Layout} (h : Stands options level prev text (s :: rest) l) (hs : s.kind ≠ .comment) :
    (separate (if s.isCode && keywords.isNewline s.text.key then l.buffer.newline
      else l.buffer) s).output = text ++ plainGap options keywords level prev s := by
  have hne : (s.kind != .comment) = true := bne_iff_ne.2 hs
  have hbreaks : breaksBefore keywords prev s
      = (s.isCode && keywords.isNewline s.text.key || prev.any endsLine) := by
    cases prev <;> simp [breaksBefore, hne]
  unfold plainGap
  rw [hbreaks]
  by_cases hnewline : (s.isCode && keywords.isNewline s.text.key) = true
  · -- the new break takes the place of an open one
    have houtput := h.output_newline_eq hs
    rw [if_pos hnewline, hnewline, Bool.true_or, if_pos rfl]
    unfold separate
    rw [Buffer.space_of_atLineStart (Buffer.atLineStart_of_lineBreak houtput), ite_self, houtput]
  · rw [if_neg hnewline, h.output_separate hs]
    rw [Bool.not_eq_true] at hnewline
    simp [hnewline, hs]

lemma openBreak_some (s : Span) :
    openBreak options level (some s)
      = if endsLine s then lineBreak options.indentSize level else [] := by
  simp [openBreak]

/-- An output that ends in a line break has no comma to take back. -/
lemma withoutLoneComma?_of_output {b : Buffer} {t : Text}
    (h : b.output = t ++ lineBreak options.indentSize level) : b.withoutLoneComma? = none := by
  apply Buffer.withoutLoneComma?_of_getLast?
  intro hlast
  have hmem : ',' ∈ lineBreak options.indentSize level := by
    rw [h, List.getLast?_append_of_ne_nil _ (by simp [lineBreak])] at hlast
    exact List.mem_of_getLast? hlast
  exact absurd (isBlank_of_mem_lineBreak _ hmem) (by decide)

/-- A span other than a comment leaves the buffer in order. -/
lemma holds_after {text : Text} {s : Span} {rest : List Span} {b : Buffer}
    (htext : text = [] ∨ Text.Solid text) (hs : s.Precedes rest) (hkind : s.kind ≠ .comment)
    {level' : Nat}
    (h : b.output = text ++ plainGap options keywords level prev s ++ piece options s ++
      openBreak options level' (some s)) :
    Holds options level' (some s)
      (text ++ gap options keywords level prev (s :: rest) ++ piece options s) rest b := by
  rw [openBreak_some] at h
  by_cases hmoves : movesUp keywords prev s rest = true
  · -- the comma stands alone on its line, and the comment after it will take it back
    have hgap : gap options keywords level prev (s :: rest) = [] := by simp [gap, hmoves]
    simp only [movesUp, Bool.and_eq_true] at hmoves
    obtain ⟨⟨hcomma, hbreaks⟩, hcomment⟩ := hmoves
    have hends : endsLine s = false := by simp [endsLine, (Span.isComma_iff.1 hcomma).1]
    rw [plainGap, if_pos hbreaks, piece_comma hcomma, hends, if_neg (by simp),
      List.append_nil] at h
    rw [hgap, piece_comma hcomma, List.append_nil]
    exact .loneComma htext rfl h (by simpa using hcomma) hcomment
  · have hgap : gap options keywords level prev (s :: rest)
        = plainGap options keywords level prev s := by simp [gap, hmoves]
    rw [hgap]
    refine .settled (by rw [openBreak_some, h]) fun hcomment => ?_
    by_cases hends : endsLine s = true
    · rw [if_pos hends] at h
      exact withoutLoneComma?_of_output h
    rw [if_neg hends, List.append_nil] at h
    have hrest : rest ≠ [] := by
      rintro rfl
      simp at hcomment
    obtain ⟨t, c, hpiece, -, hcomma⟩ :=
      exists_concat_piece options hs.shape hs.solid (hs.closed hrest)
    by_cases hc : c = ','
    · -- this comma has text or nothing at all before it on its line
      have hs' : s.isComma = true := (hcomma hc).resolve_left hkind
      have hbreaks : breaksBefore keywords prev s = false := by
        simpa [movesUp, hs', hcomment] using hmoves
      rw [piece_comma hs', plainGap, if_neg (by simp [hbreaks])] at h
      split at h
      · exact Buffer.withoutLoneComma?_of_solid (n := 1) htext h
      · exact Buffer.withoutLoneComma?_of_solid (n := 0) htext h
    · apply Buffer.withoutLoneComma?_of_getLast?
      rw [h, hpiece, ← List.append_assoc, List.getLast?_concat]
      simpa using hc

/-- What has been laid out up to a span that is not the last ends in no blank. -/
lemma solid_after {s : Span} {rest : List Span} (hs : s.Precedes rest) (hrest : rest ≠ [])
    (text : Text) : Text.Solid (text ++ piece options s) :=
  (solid_piece options hs.shape hs.solid (hs.closed hrest)).append text

/-- Writing a literal. -/
lemma Stands.step_literal {text : Text} {s : Span} {rest : List Span} {l : Layout}
    (h : Stands options level prev text (s :: rest) l) (hs : s.Precedes rest) {d : Delimiter}
    (hkind : s.kind = .literal d) :
    Stands options (levelAfter keywords level s) (some s)
      (text ++ gap options keywords level prev (s :: rest) ++ piece options s) rest
      (step options keywords l s) := by
  have hcode : s.isCode = false := by simp [Span.isCode, hkind]
  have hbuffer : (step options keywords l s).buffer
      = (separate l.buffer s).write (piece options s) := by
    simp [step, hkind, writeLiteral, piece_literal hkind]
  have hcomment : s.kind ≠ .comment := by simp [hkind]
  have houtput := h.output_before keywords hcomment
  simp only [hcode, Bool.false_and, Bool.false_eq_true, if_false] at houtput
  refine ⟨?_, ?_, rfl, by simp, fun _ hrest => solid_after hs hrest _, ?_⟩
  · simp [hbuffer, h.indentSize_eq]
  · simp [hbuffer, h.level_eq, levelAfter_literal hkind]
  · apply holds_after h.nil_or_solid hs hcomment
    rw [hbuffer, Buffer.output_write, houtput, openBreak_some]
    simp [endsLine, hkind]

/-- No key both opens and closes a block. -/
lemma isDedent_of_isIndent {key : Text} (h : keywords.isIndent key = true) :
    isDedent key = false := by
  rw [KeywordSet.isIndent, WordSet.contains_iff] at h
  simp only [isDedent, beq_eq_false_iff_ne, ne_eq]
  rintro rfl
  exact keywords.dedent_not_indent h

/-- Among words and punctuation, those that close a block end their line. -/
lemma endsLine_code {s : Span} (h : Fits s.lexeme none) (hcode : s.isCode = true) :
    endsLine s = isDedent s.text.key := by
  simp only [Span.isCode, Bool.or_eq_true, beq_iff_eq] at hcode
  rcases hcode with hkind | hkind
  · simp [endsLine, hkind]
  · simp [endsLine, hkind, isDedent_punctuation h hkind]

/-- The change of level, and the line break it may bring, after a word is written. -/
def shifted (keywords : KeywordSet) (s : Span) (w : Buffer) : Buffer :=
  if keywords.isIndent s.text.key then w.indent
  else if isDedent s.text.key then w.dedent.newline
  else w

lemma indentSize_shifted (s : Span) (w : Buffer) :
    (shifted keywords s w).indentSize = w.indentSize := by
  unfold shifted
  repeat' split
  all_goals simp

/-- Indenting or dedenting after a span gives its new level. -/
lemma level_shifted {s : Span} (hcode : s.isCode = true) (w : Buffer) :
    (shifted keywords s w).level = levelAfter keywords w.level s := by
  unfold shifted levelAfter
  rw [if_pos hcode]
  repeat' split
  all_goals rfl

/-- After a span that ends its line the next line is begun at the new level. -/
lemma output_shifted {s : Span} (h : Fits s.lexeme none) (hcode : s.isCode = true) {w : Buffer}
    (hsize : w.indentSize = options.indentSize) (hsolid : Text.Solid w.output) :
    (shifted keywords s w).output
      = w.output ++ openBreak options (levelAfter keywords w.level s) (some s) := by
  rw [openBreak_some, endsLine_code h hcode]
  unfold shifted levelAfter
  rw [if_pos hcode]
  by_cases hindent : keywords.isIndent s.text.key = true
  · simp [hindent, isDedent_of_isIndent hindent]
  rw [if_neg hindent, if_neg hindent]
  by_cases hdedent : isDedent s.text.key = true
  · rw [if_pos hdedent, if_pos hdedent, if_pos hdedent, Buffer.output_newline_eq,
      Buffer.output_dedent, Text.trimEnd_of_solid hsolid, Buffer.indentSize_dedent, hsize]
    rfl
  · simp [hdedent]

/-- Writing a word or a punctuation character. -/
lemma Stands.step_code {text : Text} {s : Span} {rest : List Span} {l : Layout}
    (h : Stands options level prev text (s :: rest) l) (hs : s.Precedes rest)
    (hcode : s.isCode = true) :
    Stands options (levelAfter keywords level s) (some s)
      (text ++ gap options keywords level prev (s :: rest) ++ piece options s) rest
      (step options keywords l s) := by
  have hcomment : s.kind ≠ .comment := by
    intro hkind
    simp [Span.isCode, hkind] at hcode
  have houtput := h.output_before keywords hcomment
  simp only [hcode, Bool.true_and] at houtput
  -- `w` is the buffer with the span written, before its change of level
  obtain ⟨w, hw⟩ : ∃ w, w = (separate (if keywords.isNewline s.text.key then l.buffer.newline
      else l.buffer) s).write (piece options s) := ⟨_, rfl⟩
  have hbuffer : (step options keywords l s).buffer = shifted keywords s w := by
    rw [hw, piece_code hcode]
    simp only [Span.isCode, Bool.or_eq_true, beq_iff_eq] at hcode
    rcases hcode with hkind | hkind <;> simp [step, hkind, writeWord, shifted]
  have hwritten : w.output
      = text ++ plainGap options keywords level prev s ++ piece options s := by
    rw [hw, Buffer.output_write, houtput]
  have hsize : w.indentSize = options.indentSize := by
    rw [hw, Buffer.indentSize_write, indentSize_separate, ← h.indentSize_eq]
    split <;> rfl
  have hlevel : w.level = level := by
    rw [hw, Buffer.level_write, level_separate, ← h.level_eq]
    split <;> rfl
  have hsolid : Text.Solid w.output := by
    have hclosed := terminated_of_isCode hs.shape hcode
    rw [hwritten]
    exact (solid_piece options hs.shape hs.solid hclosed).append _
  refine ⟨?_, ?_, rfl, by simp, fun _ hrest => solid_after hs hrest _, ?_⟩
  · rw [hbuffer, indentSize_shifted, hsize]
  · rw [hbuffer, level_shifted hcode, hlevel]
  · apply holds_after h.nil_or_solid hs hcomment
    rw [hbuffer, output_shifted hs.shape hcode hsize hsolid, hwritten, hlevel]

/-! ## Writing a comment -/

/-- The gap before a comment: a comment after a comment starts a line, any other comment stays on
the line of what comes before it. -/
lemma gap_comment {s : Span} (hkind : s.kind = .comment) (rest : List Span) :
    gap options keywords level prev (s :: rest)
      = if prev.any (·.kind == .comment) then lineBreak options.indentSize level
        else if prev.isSome then [' '] else [] := by
  have hcomma : s.isComma = false := by simp [Span.isComma, hkind]
  have hbreaks : breaksBefore keywords prev s = prev.any (·.kind == .comment) := by
    have hcode : s.isCode = false := by simp [Span.isCode, hkind]
    cases prev with
    | none => simp [breaksBefore, hcode]
    | some p => by_cases hp : p.kind = .comment <;> simp [breaksBefore, hcode, hkind, endsLine, hp]
  simp [gap, movesUp, hcomma, plainGap, hbreaks, hkind]

/-- The buffer to which the text of a comment is appended. -/
def besideComment (b : Buffer) (last : Option Kind) : Buffer :=
  if last = some .comment then b
  else match b.withoutLoneComma? with
    | some q => q.trim.write [',', ' ']
    | none => if b.trim.isEmpty then b.trim else b.trim.write [' ']

lemma writeComment_eq (b : Buffer) (last : Option Kind) (s : Span) :
    writeComment b last s = ((besideComment b last).write s.text).newline := by
  unfold writeComment besideComment
  by_cases hlast : last = some .comment
  · simp only [if_pos hlast]
  · simp only [if_neg hlast]
    cases b.withoutLoneComma? <;> rfl

lemma indentSize_withoutLoneComma? {b q : Buffer} (h : b.withoutLoneComma? = some q) :
    q.indentSize = b.indentSize ∧ q.level = b.level := by
  unfold Buffer.withoutLoneComma? at h
  repeat' split at h
  all_goals first | (cases h; exact ⟨rfl, rfl⟩) | exact absurd h (by simp)

lemma indentSize_besideComment (b : Buffer) (last : Option Kind) :
    (besideComment b last).indentSize = b.indentSize ∧ (besideComment b last).level = b.level := by
  unfold besideComment
  split
  · exact ⟨rfl, rfl⟩
  · split
    next q hq =>
      have := indentSize_withoutLoneComma? hq
      simpa using this
    · split <;> exact ⟨rfl, rfl⟩

/-- The text of a comment is appended to the text so far and the gap. -/
lemma Stands.output_besideComment (keywords : KeywordSet) {text : Text} {s : Span}
    {rest : List Span} {l : Layout} (h : Stands options level prev text (s :: rest) l)
    (hkind : s.kind = .comment) :
    (besideComment l.buffer l.last).output
      = text ++ gap options keywords level prev (s :: rest) := by
  have hlast : (l.last = some .comment) ↔ prev.any (·.kind == .comment) = true := by
    rw [h.last_eq]
    cases prev <;> simp
  rw [gap_comment hkind]
  unfold besideComment
  by_cases hprev : prev.any (·.kind == .comment) = true
  · rw [if_pos (hlast.2 hprev), if_pos hprev]
    cases h.holds with
    | settled houtput _ =>
      have hends : prev.any endsLine = true := by
        cases prev <;> simp_all [endsLine]
      rw [houtput, openBreak, if_pos hends]
    | loneComma _ _ _ hcomma _ =>
      -- what comes before cannot be a comma and a comment
      cases prev <;> simp_all [Span.isComma]
  rw [if_neg (mt hlast.1 hprev), if_neg hprev]
  cases h.holds with
  | settled houtput hcomma =>
    -- a comment undoes the break before it
    have htrim : l.buffer.trim.output = text := by
      rw [Buffer.output_trim, houtput, Text.trimEnd_append_blanks, h.trimEnd_eq]
      unfold openBreak
      split
      · exact isBlank_of_mem_lineBreak
      · simp
    rw [hcomma (by simpa using hkind)]
    cases hp : prev with
    | none =>
      have hempty : l.buffer.trim.isEmpty = true := by
        rw [Buffer.isEmpty_iff, htrim, h.empty hp]
      simp only [hempty, if_true, htrim]
      simp
    | some p =>
      have hempty : l.buffer.trim.isEmpty = false := by
        rw [← Bool.not_eq_true, Buffer.isEmpty_iff, htrim]
        exact (h.solid (by simp [hp]) (by simp)).ne_nil
      simp [hempty, htrim]
  | @loneComma before n hbefore htext houtput hcomma _ =>
    have hsome : prev.isSome = true := by
      cases prev <;> simp_all
    have htrim : Text.trimEnd before = before := by
      rcases hbefore with rfl | hsolid
      · rfl
      · exact Text.trimEnd_of_solid hsolid
    rw [Buffer.withoutLoneComma?_of_lineBreak houtput, if_pos hsome, htext]
    simp only [Buffer.output_write, Buffer.output_trim]
    simp [Buffer.output, htrim]

/-- Writing a comment. -/
lemma Stands.step_comment {text : Text} {s : Span} {rest : List Span} {l : Layout}
    (h : Stands options level prev text (s :: rest) l) (hs : s.Precedes rest)
    (hkind : s.kind = .comment) :
    Stands options (levelAfter keywords level s) (some s)
      (text ++ gap options keywords level prev (s :: rest) ++ piece options s) rest
      (step options keywords l s) := by
  have hends : endsLine s = true := by simp [endsLine, hkind]
  have hbuffer : (step options keywords l s).buffer
      = ((besideComment l.buffer l.last).write s.text).newline := by
    simp [step, hkind, writeComment_eq]
  have hkept := indentSize_besideComment l.buffer l.last
  have hoptions : (step options keywords l s).buffer.indentSize = options.indentSize := by
    rw [hbuffer, Buffer.indentSize_newline, Buffer.indentSize_write, hkept.1, h.indentSize_eq]
  have hstep : (step options keywords l s).buffer.level = level := by
    rw [hbuffer, Buffer.level_newline, Buffer.level_write, hkept.2, h.level_eq]
  have houtput : (step options keywords l s).buffer.output
      = text ++ gap options keywords level prev (s :: rest) ++ piece options s ++
        lineBreak options.indentSize level := by
    -- the line break trims the comment, and the hyphens keep it from trimming further
    obtain ⟨t, ht, -, -⟩ := trimEnd_comment hs.shape hkind
    rw [hbuffer, Buffer.output_newline_eq, Buffer.output_write,
      h.output_besideComment keywords hkind, Buffer.indentSize_write, hkept.1,
      h.indentSize_eq, Buffer.level_write, hkept.2, h.level_eq, piece_comment hkind, ht,
      Text.trimEnd_append_cons (by decide)]
  rw [levelAfter_comment hkind]
  refine ⟨hoptions, hstep, rfl, by simp, fun _ hrest => solid_after hs hrest _, ?_⟩
  refine .settled ?_ fun _ => withoutLoneComma?_of_output houtput
  rw [houtput, openBreak_some, if_pos hends]

/-! ## Runs -/

/-- One step of a run keeps the invariant. -/
lemma Stands.step {text : Text} {s : Span} {rest : List Span} {l : Layout}
    (h : Stands options level prev text (s :: rest) l) (hs : s.Precedes rest) :
    Stands options (levelAfter keywords level s) (some s)
      (text ++ gap options keywords level prev (s :: rest) ++ piece options s) rest
      (Layout.step options keywords l s) := by
  cases hkind : s.kind with
  | literal d => exact h.step_literal hs hkind
  | comment => exact h.step_comment hs hkind
  | punctuation => exact h.step_code hs (by simp [Span.isCode, hkind])
  | word => exact h.step_code hs (by simp [Span.isCode, hkind])
  | blank => exact absurd hkind hs.solid

/-- A run over connected spans appends their pieces and gaps to the text so far. -/
lemma Stands.foldl {text : Text} {spans : List Span} {l : Layout}
    (h : Stands options level prev text spans l) (hspans : Connected spans) :
    (spans.foldl (Layout.step options keywords) l).buffer.output
      = text ++ laidOut options keywords level prev spans := by
  induction spans generalizing level prev text l with
  | nil =>
    cases h.holds with
    | settled houtput _ => exact houtput
    | loneComma _ _ _ _ hcomment =>
      -- a comma waits only where a comment is still to come
      simp at hcomment
  | cons s rest ih =>
    rw [List.foldl_cons, ih (h.step hspans.1) hspans.2, laidOut]
    simp only [List.append_assoc]

/-- What a run over connected spans leaves in the buffer. -/
theorem run_eq_laidOut {spans : List Span} (h : Connected spans) :
    run options keywords spans = laidOut options keywords 0 none spans := by
  unfold run
  rw [(stands_start options spans).foldl h, List.nil_append]

/-! ## Formatted texts -/

/-- The level of indentation before span number `i`. -/
def levelAt (keywords : KeywordSet) (spans : List Span) (i : Nat) : Nat :=
  (spans.take i).foldl (levelAfter keywords) 0

/-- The gap before span number `i`, or after the last span where there are only `i` spans. -/
def gapAt (options : Options) (keywords : KeywordSet) (spans : List Span) (i : Nat) : Text :=
  gap options keywords (levelAt keywords spans i) (spans.take i).getLast? (spans.drop i)

/-- The gap before the first span of the rest looks at the rest, at the last span before it and at
the level so far. -/
lemma gapAt_length (options : Options) (keywords : KeywordSet) (before rest : List Span) :
    gapAt options keywords (before ++ rest) before.length
      = gap options keywords (before.foldl (levelAfter keywords) 0) before.getLast? rest := by
  simp [gapAt, levelAt]

/-- The text after the spans `before`, position by position. -/
lemma laidOut_eq_flatMap (before rest : List Span) :
    laidOut options keywords (before.foldl (levelAfter keywords) 0) before.getLast? rest
      = ((rest.zipIdx before.length).flatMap fun (s, i) =>
          gapAt options keywords (before ++ rest) i ++ piece options s) ++
        gapAt options keywords (before ++ rest) (before ++ rest).length := by
  induction rest generalizing before with
  | nil =>
    have hgap := gapAt_length options keywords before []
    rw [List.append_nil] at hgap
    simp [laidOut, hgap]
  | cons s rest ih =>
    have hgap := gapAt_length options keywords before (s :: rest)
    have hrest := ih (before ++ [s])
    simp only [List.foldl_append, List.foldl_cons, List.foldl_nil, List.getLast?_concat,
      List.length_append, List.length_singleton, List.append_assoc, List.singleton_append]
      at hrest
    rw [laidOut, hrest, List.zipIdx_cons, List.flatMap_cons, ← hgap]
    simp

/-- **Formatting in closed form.** The formatted text consists of the pieces of the significant
spans with a gap before each of them and one at the end; nothing that is written is ever taken
back. -/
theorem format_eq_gaps_and_pieces (options : Options) (keywords : KeywordSet) (t : Text) :
    format options keywords t
      = ((significant t).zipIdx.flatMap fun (s, i) =>
          gapAt options keywords (significant t) i ++ piece options s) ++
        gapAt options keywords (significant t) (significant t).length := by
  unfold format
  rw [run_eq_laidOut (connected_significant t)]
  exact laidOut_eq_flatMap [] (significant t)

end Layout
end SqlIndent
