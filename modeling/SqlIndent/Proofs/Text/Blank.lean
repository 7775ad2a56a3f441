import Mathlib.Data.List.TakeWhile
import Mathlib.Tactic.Common
import SqlIndent.Text.Blank

/-!
# Trimming and words

Output is only ever trimmed at its end, so the texts that matter are those with a solid end: their
last character is not blank. Trimming leaves such a text alone and removes whatever blanks follow
it. The words of a text are its maximal runs without blanks.
-/

namespace SqlIndent.Text

/-- The last character is there and is not blank. -/
def Solid (t : Text) : Prop :=
  ∃ c ∈ t.getLast?, isBlank c = false

lemma solid_concat {t : Text} {c : Char} : Solid (t ++ [c]) ↔ isBlank c = false := by
  simp [Solid]

/-- The last character of a solid text, which is neither a space nor a line feed. -/
lemma Solid.exists_concat {t : Text} (h : Solid t) :
    ∃ s c, t = s ++ [c] ∧ isBlank c = false ∧ c ≠ ' ' ∧ c ≠ '\n' := by
  obtain ⟨c, hc, hblank⟩ := h
  obtain ⟨s, hs⟩ := List.getLast?_eq_some_iff.1 (Option.mem_def.1 hc)
  refine ⟨s, c, hs, hblank, ?_, ?_⟩
  · rintro rfl
    exact absurd hblank (by decide)
  · rintro rfl
    exact absurd hblank (by decide)

lemma Solid.ne_nil {t : Text} (h : Solid t) : t ≠ [] := by
  rintro rfl
  simp [Solid] at h

/-- Only the end of a text matters for being solid. -/
lemma Solid.append {t : Text} (h : Solid t) (s : Text) : Solid (s ++ t) := by
  obtain ⟨c, hc, hblank⟩ := h
  refine ⟨c, ?_, hblank⟩
  rw [List.getLast?_append]
  simp [Option.mem_def.1 hc]

/-- A non-empty text without blanks is solid. -/
lemma solid_of_forall {t : Text} (hne : t ≠ []) (h : ∀ c ∈ t, isBlank c = false) : Solid t :=
  ⟨t.getLast hne, List.getLast?_eq_some_getLast hne, h _ (List.getLast_mem hne)⟩

/-- The last character is there and is neither blank nor a comma. -/
def Firm (t : Text) : Prop :=
  ∃ c ∈ t.getLast?, isBlank c = false ∧ c ≠ ','

lemma firm_concat {t : Text} {c : Char} : Firm (t ++ [c]) ↔ isBlank c = false ∧ c ≠ ',' := by
  simp [Firm]

lemma Firm.solid {t : Text} (h : Firm t) : Solid t := by
  obtain ⟨c, hc, hblank, -⟩ := h
  exact ⟨c, hc, hblank⟩

/-! ## Trimming the end -/

lemma trimEnd_of_solid {t : Text} (h : Solid t) : trimEnd t = t := by
  obtain ⟨s, c, rfl, hblank, -, -⟩ := h.exists_concat
  simp [trimEnd, hblank]

lemma trimEnd_append_blanks {t w : Text} (hw : ∀ c ∈ w, isBlank c = true) :
    trimEnd (t ++ w) = trimEnd t := by
  unfold trimEnd
  rw [List.reverse_append, List.dropWhile_append_of_pos]
  intro c hc
  exact hw c (List.mem_reverse.1 hc)

/-- Trimming stops at a character that is not blank. -/
lemma trimEnd_append_cons {c : Char} (hc : isBlank c = false) (s t : Text) :
    trimEnd (s ++ c :: t) = s ++ trimEnd (c :: t) := by
  unfold trimEnd
  rw [List.reverse_append, List.reverse_cons, List.append_assoc, List.dropWhile_append]
  split
  next hnil =>
    rw [List.isEmpty_iff] at hnil
    simp [List.dropWhile_append, hnil, hc]
  next hne =>
    rw [List.isEmpty_iff] at hne
    simp [List.dropWhile_append, hne]

lemma trimEnd_cons {c : Char} (hc : isBlank c = false) (t : Text) :
    trimEnd (c :: t) = c :: trimEnd t := by
  unfold trimEnd
  rw [List.reverse_cons, List.dropWhile_append]
  split
  next hnil =>
    rw [List.isEmpty_iff] at hnil
    simp [hnil, hc]
  · simp

/-- What is trimmed away is blank. -/
lemma exists_blanks_of_trimEnd (t : Text) :
    ∃ w, t = trimEnd t ++ w ∧ ∀ c ∈ w, isBlank c = true := by
  refine ⟨(t.reverse.takeWhile isBlank).reverse, ?_, ?_⟩
  · rw [trimEnd, ← List.reverse_append, List.takeWhile_append_dropWhile, List.reverse_reverse]
  · intro c hc
    exact List.mem_takeWhile_imp (List.mem_reverse.1 hc)

lemma trimEnd_isPrefix (t : Text) : trimEnd t <+: t := by
  obtain ⟨w, hw, -⟩ := exists_blanks_of_trimEnd t
  exact ⟨w, hw.symm⟩

/-- Trimming does not reach into a solid beginning. -/
lemma Solid.isPrefix_trimEnd {p t : Text} (hp : Solid p) (h : p <+: t) : p <+: trimEnd t := by
  obtain ⟨r, rfl⟩ := h
  obtain ⟨s, c, rfl, hc, -, -⟩ := hp.exists_concat
  rw [List.append_assoc, List.singleton_append, trimEnd_append_cons hc, trimEnd_cons hc]
  exact ⟨trimEnd r, by simp⟩

lemma mem_of_mem_trimEnd {t : Text} {c : Char} (h : c ∈ trimEnd t) : c ∈ t := by
  obtain ⟨w, hw, -⟩ := exists_blanks_of_trimEnd t
  rw [hw]
  exact List.mem_append_left w h

/-- What is left after trimming is solid, unless nothing is left. -/
lemma solid_trimEnd {t : Text} (h : trimEnd t ≠ []) : Solid (trimEnd t) := by
  unfold trimEnd at h ⊢
  have hne : t.reverse.dropWhile isBlank ≠ [] := by simpa using h
  obtain ⟨c, s, hs⟩ := List.exists_cons_of_ne_nil hne
  have hc := List.head_dropWhile_not isBlank hne
  simp only [hs, List.head_cons] at hc
  rw [hs, List.reverse_cons]
  exact solid_concat.2 (by simpa using hc)

@[simp] lemma trimEnd_trimEnd (t : Text) : trimEnd (trimEnd t) = trimEnd t := by
  by_cases h : trimEnd t = []
  · rw [h]
    rfl
  · exact trimEnd_of_solid (solid_trimEnd h)

/-- Texts without blanks have nothing to trim. -/
lemma trim_of_forall {t : Text} (h : ∀ c ∈ t, isBlank c = false) : trim t = t := by
  have hstart : trimStart t = t := by
    cases t with
    | nil => rfl
    | cons c t => simp [trimStart, h c (by simp)]
  rw [trim, hstart]
  by_cases hne : t = []
  · subst hne
    rfl
  · exact trimEnd_of_solid (solid_of_forall hne h)

/-! ## Words -/

@[simp] lemma words_nil : words [] = [] := by
  rw [words]

lemma words_cons_blank {c : Char} (hc : isBlank c = true) (t : Text) :
    words (c :: t) = words t := by
  rw [words, if_pos hc]

/-- A character that is no blank begins a word, which runs up to the next blank. -/
lemma words_cons_solid {c : Char} (hc : isBlank c = false) (t : Text) :
    words (c :: t)
      = (c :: t.takeWhile (!isBlank ·)) :: words (t.dropWhile (!isBlank ·)) := by
  rw [words, if_neg (by simp [hc])]

/-- Words are not empty and hold no blanks. -/
lemma mem_words {t w : Text} (h : w ∈ words t) : w ≠ [] ∧ ∀ c ∈ w, isBlank c = false := by
  induction t using words.induct with
  | case1 => simp at h
  | case2 c t hc ih =>
    rw [words_cons_blank hc] at h
    exact ih h
  | case3 c t hc ih =>
    rw [Bool.not_eq_true] at hc
    rw [words_cons_solid hc, List.mem_cons] at h
    rcases h with rfl | h
    · refine ⟨by simp, ?_⟩
      intro x hx
      rcases List.mem_cons.1 hx with rfl | hx
      · exact hc
      · simpa using List.mem_takeWhile_imp hx
    · exact ih h

/-- A non-empty text without blanks is its only word. -/
lemma words_of_forall {w : Text} (hne : w ≠ []) (h : ∀ c ∈ w, isBlank c = false) :
    words w = [w] := by
  cases w with
  | nil => exact absurd rfl hne
  | cons c w =>
    have hall : ∀ x ∈ w, (!isBlank x) = true := by
      intro x hx
      simp [h x (by simp [hx])]
    rw [words_cons_solid (h c (by simp)), List.takeWhile_eq_self_iff.2 hall,
      List.dropWhile_eq_nil_iff.2 hall, words_nil]

end SqlIndent.Text
