import Mathlib.Algebra.Ring.Int.Defs
import Mathlib.Data.List.Induction
import Mathlib.Data.List.Infix
import Mathlib.Order.Bounds.Basic
import SqlIndent.Proofs.Layout.Gaps

/-!
# Levels of indentation

A closing word never takes the level below the outermost one, so the level does not simply count the
blocks that are open: a closing word too many is forgotten. Still there is a closed form. Give each
span a weight: one for a word that opens a block, minus one for a word that closes one, and nothing
for all other spans. The level is then the greatest weight that any last part of what was read has
in all (`level_eq_greatest_suffix`).
-/

namespace SqlIndent

namespace Layout

/-! ## Weights -/

/-- Words and punctuation that open a block. -/
def opensBlock (keywords : KeywordSet) (s : Span) : Bool :=
  s.isCode && keywords.isIndent s.text.key

/-- Words and punctuation that close a block. -/
def closesBlock (s : Span) : Bool :=
  s.isCode && isDedent s.text.key

/-- What a span would add to the level if levels could be negative. -/
def weight (keywords : KeywordSet) (s : Span) : Int :=
  if opensBlock keywords s then 1 else if closesBlock s then -1 else 0

/-- The weight of spans together. -/
def totalWeight (keywords : KeywordSet) (spans : List Span) : Int :=
  (spans.map (weight keywords)).sum

/-- Spans that close every block they open, and no other. -/
structure Balanced (keywords : KeywordSet) (spans : List Span) : Prop where
  closed : totalWeight keywords spans = 0
  nonneg : ∀ u, u <+: spans → 0 ≤ totalWeight keywords u

/-- The level of indentation after the given spans are written. -/
def levelOf (options : Options) (keywords : KeywordSet) (spans : List Span) : Nat :=
  (spans.foldl (step options keywords) (start options)).buffer.level

variable {options : Options} {keywords : KeywordSet}

@[simp] lemma totalWeight_nil : totalWeight keywords [] = 0 := rfl

@[simp] lemma totalWeight_concat (u : List Span) (s : Span) :
    totalWeight keywords (u ++ [s]) = totalWeight keywords u + weight keywords s := by
  simp [totalWeight]

/-! ## One span -/

/-- Writing a word changes the level as its key asks for. -/
lemma level_writeWord (b : Buffer) {s : Span} (hcode : s.isCode = true) :
    (writeWord options keywords b s).level = levelAfter keywords b.level s := by
  have hbroken : (if keywords.isNewline s.text.key then b.newline else b).level = b.level := by
    split <;> rfl
  have hshifted := @level_shifted keywords s hcode
    ((separate (if keywords.isNewline s.text.key then b.newline else b) s).write
      (options.recase s.text))
  rw [Buffer.level_write, level_separate, hbroken] at hshifted
  exact hshifted

/-- Only words and punctuation change the level. -/
lemma level_step (l : Layout) (s : Span) :
    (step options keywords l s).buffer.level = levelAfter keywords l.buffer.level s := by
  cases hkind : s.kind with
  | literal d => simp [step, hkind, writeLiteral, levelAfter_literal hkind]
  | comment =>
    simp [step, hkind, writeComment_eq, levelAfter_comment hkind,
      (indentSize_besideComment l.buffer l.last).2]
  | punctuation =>
    simpa [step, hkind] using level_writeWord l.buffer (by simp [Span.isCode, hkind])
  | word => simpa [step, hkind] using level_writeWord l.buffer (by simp [Span.isCode, hkind])
  | blank => simp [step, hkind, levelAfter, Span.isCode]

/-- The level moves by the weight of the span, but never below zero. -/
lemma levelAfter_eq_max (level : Nat) (s : Span) :
    (levelAfter keywords level s : Int) = max 0 (level + weight keywords s) := by
  cases hcode : s.isCode
  · simp [levelAfter, weight, opensBlock, closesBlock, hcode]
  cases hindent : keywords.isIndent s.text.key
  · cases hdedent : isDedent s.text.key
    · simp [levelAfter, weight, opensBlock, closesBlock, hcode, hindent, hdedent]
    · simp only [levelAfter, weight, opensBlock, closesBlock, hcode, hindent, hdedent]
      simp
      omega
  · simp [levelAfter, weight, opensBlock, hcode, hindent]
    omega

/-! ## Runs -/

/-- The level of the buffer follows the spans, whatever is written. -/
lemma level_foldl (l : Layout) (spans : List Span) :
    (spans.foldl (step options keywords) l).buffer.level
      = spans.foldl (levelAfter keywords) l.buffer.level := by
  induction spans generalizing l with
  | nil => rfl
  | cons s spans ih => rw [List.foldl_cons, List.foldl_cons, ih, level_step]

@[simp] lemma levelOf_nil : levelOf options keywords [] = 0 := rfl

/-- Reading on starts from the level that was reached. -/
lemma levelOf_append (u v : List Span) :
    levelOf options keywords (u ++ v)
      = v.foldl (levelAfter keywords) (levelOf options keywords u) := by
  rw [levelOf, List.foldl_append, level_foldl, levelOf]

/-- One more span adds its weight, but the level does not fall below 0. -/
lemma levelOf_concat (options : Options) (keywords : KeywordSet) (u : List Span) (s : Span) :
    (levelOf options keywords (u ++ [s]) : Int)
      = max 0 (levelOf options keywords u + weight keywords s) := by
  rw [levelOf_append, List.foldl_cons, List.foldl_nil, levelAfter_eq_max]

/-- The level is the greatest weight of a last part of the spans. -/
lemma isGreatest_levelOf (options : Options) (keywords : KeywordSet) (spans : List Span) :
    IsGreatest {w | ∃ u, u <:+ spans ∧ totalWeight keywords u = w}
      (levelOf options keywords spans : Int) := by
  induction spans using List.reverseRecOn with
  | nil =>
    refine ⟨⟨[], List.nil_suffix, rfl⟩, ?_⟩
    rintro w ⟨u, hu, rfl⟩
    simp [List.suffix_nil.1 hu]
  | append_singleton spans s ih =>
    obtain ⟨⟨u, hu, hlevel⟩, hupper⟩ := ih
    rw [levelOf_concat]
    constructor
    · rcases le_total 0 (levelOf options keywords spans + weight keywords s) with h | h
      · rw [max_eq_right h, ← hlevel]
        exact ⟨u ++ [s], List.suffix_append_self_iff.2 hu, totalWeight_concat u s⟩
      · rw [max_eq_left h]
        exact ⟨[], List.nil_suffix, rfl⟩
    · rintro w ⟨v, hv, rfl⟩
      rcases List.suffix_concat_iff.1 hv with rfl | ⟨v', rfl, hv'⟩
      · exact le_max_left _ _
      · have hle := hupper ⟨v', hv', rfl⟩
        rw [totalWeight_concat]
        omega

/-- There are never more levels than words that opened a block. -/
lemma levelOf_le_countP (spans : List Span) :
    levelOf options keywords spans ≤ spans.countP (opensBlock keywords) := by
  induction spans using List.reverseRecOn with
  | nil => simp
  | append_singleton spans s ih =>
    have hlevel := levelOf_concat options keywords spans s
    rw [List.countP_append, List.countP_singleton]
    unfold weight at hlevel
    split at hlevel
    next hopens =>
      rw [if_pos hopens]
      omega
    next hopens =>
      rw [if_neg hopens]
      split at hlevel <;> omega

/-- Where the level stays above zero anyway, weights just add up. -/
lemma foldl_levelAfter {level : Nat} {spans : List Span}
    (h : ∀ u, u <+: spans → 0 ≤ level + totalWeight keywords u) :
    ((spans.foldl (levelAfter keywords) level : Nat) : Int)
      = level + totalWeight keywords spans := by
  induction spans using List.reverseRecOn with
  | nil => simp
  | append_singleton spans s ih =>
    have hspans := ih fun u hu => h u (hu.trans (List.prefix_append spans [s]))
    have hnonneg := h (spans ++ [s]) List.prefix_rfl
    rw [totalWeight_concat] at hnonneg ⊢
    rw [List.foldl_append, List.foldl_cons, List.foldl_nil, levelAfter_eq_max, hspans]
    omega

/-- Balanced spans leave no trace in the level. -/
lemma Balanced.levelOf_insert {middle : List Span} (h : Balanced keywords middle)
    (before after : List Span) :
    levelOf options keywords (before ++ middle ++ after)
      = levelOf options keywords (before ++ after) := by
  have hmiddle := @foldl_levelAfter keywords (levelOf options keywords before) middle
    fun u hu => Int.add_nonneg (Int.natCast_nonneg _) (h.nonneg u hu)
  rw [h.closed, Int.add_zero, Int.natCast_inj] at hmiddle
  rw [levelOf_append, levelOf_append, hmiddle, ← levelOf_append]

/-- **Levels in closed form.** No span both opens and closes a block. After any first part of the
spans the level is the greatest weight of a last part of what was read, the empty one included; so
it is never negative and never above the number of blocks that were opened. Balanced spans may be
put in anywhere: the level after everything that follows stays the same. -/
theorem level_eq_greatest_suffix (options : Options) (lists : KeywordLists) (spans : List Span) :
    let keywords := KeywordSet.ofLists lists
    (∀ s, ¬(opensBlock keywords s = true ∧ closesBlock s = true)) ∧
    (∀ read, read <+: spans →
      IsGreatest {w | ∃ u, u <:+ read ∧ totalWeight keywords u = w}
        (levelOf options keywords read : Int) ∧
      0 ≤ (levelOf options keywords read : Int) ∧
      levelOf options keywords read ≤ read.countP (opensBlock keywords)) ∧
    (∀ before middle after, spans = before ++ after → Balanced keywords middle →
      ∀ later, later <+: after →
        levelOf options keywords (before ++ middle ++ later)
          = levelOf options keywords (before ++ later)) := by
  intro keywords
  refine ⟨?_, ?_, ?_⟩
  · rintro s ⟨hopens, hcloses⟩
    simp only [opensBlock, closesBlock, Bool.and_eq_true] at hopens hcloses
    have hdedent := isDedent_of_isIndent hopens.2
    simp [hcloses.2] at hdedent
  · intro read _
    have hgreatest := isGreatest_levelOf options keywords read
    exact ⟨hgreatest, hgreatest.2 ⟨[], List.nil_suffix, rfl⟩, levelOf_le_countP read⟩
  · intro before middle after _ hmiddle later _
    exact hmiddle.levelOf_insert before later

/-- An `END` that closes nothing comes first and is forgotten; a balanced block is put between two
openings, in spellings other than those of the list. -/
theorem level_eq_greatest_suffix_surplusEnd :
    let lists : KeywordLists := { indent := [" begin".toList, "End".toList] }
    let word := fun t : String => (⟨.word, t.toList, 0, true, true⟩ : Span)
    let before := [word "end", word "BEGIN"]
    let middle := [word "begin", word "x", word "end"]
    let after := [word "begin", word "y"]
    Balanced (.ofLists lists) middle ∧
      levelOf {} (.ofLists lists) (before ++ middle ++ after)
        = levelOf {} (.ofLists lists) (before ++ after) ∧
      levelOf {} (.ofLists lists) (before ++ after) = 2 := by
  intro lists word before middle after
  have hnonneg : ∀ u ∈ middle.inits, 0 ≤ totalWeight (.ofLists lists) u := by decide +kernel
  have hmiddle : Balanced (.ofLists lists) middle :=
    ⟨by decide +kernel, fun u hu => hnonneg u ((List.mem_inits u middle).2 hu)⟩
  refine ⟨hmiddle, ?_, by decide +kernel⟩
  exact (level_eq_greatest_suffix {} lists (before ++ after)).2.2 before middle after rfl hmiddle
    after List.prefix_rfl

end Layout
end SqlIndent
