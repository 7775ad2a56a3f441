import Mathlib.Data.List.Induction
import Mathlib.Tactic.Common
import SqlIndent.Document

/-!
# Places in a document

An editor finds a place by going through the document: a line feed leads to the first column of the
next line, and each other character moves on by its UTF-16 code units. The places met on the way are
in strictly increasing order, so each belongs to one number of characters only, and a part of a
document has one meaning. The range of a replacement of the whole document means all of it
(`Replacement.applyTo?_whole`).
-/

namespace SqlIndent

namespace Position

/-- The first place of a document. -/
def origin : Position := ⟨0, 0⟩

/-- The place right after a character that stands at a place. -/
def next (p : Position) (c : Char) : Position :=
  if c = '\n' then ⟨p.line + 1, 0⟩ else ⟨p.line, p.character + Text.utf16Size c⟩

/-- The place after the first `k` characters. -/
def after (t : Text) (k : Nat) : Position :=
  (t.take k).foldl next origin

/-- Places are compared by their lines, and on one line by their columns. -/
instance : LT Position where
  lt p q := p.line < q.line ∨ p.line = q.line ∧ p.character < q.character

lemma lt_iff {p q : Position} :
    p < q ↔ p.line < q.line ∨ p.line = q.line ∧ p.character < q.character :=
  Iff.rfl

lemma lt_trans {p q r : Position} (hpq : p < q) (hqr : q < r) : p < r := by
  rw [lt_iff] at *
  omega

lemma ne_of_lt {p q : Position} (h : p < q) : p ≠ q := by
  rintro rfl
  rw [lt_iff] at h
  omega

/-! ## The places of a document in order -/

/-- **One character.** -/
lemma lt_next (p : Position) (c : Char) : p < p.next c := by
  have hsize : 0 < Text.utf16Size c := by
    rw [Text.utf16Size]
    split <;> omega
  rw [lt_iff, next]
  split
  · exact Or.inl (Nat.lt_succ_self _)
  · exact Or.inr ⟨rfl, Nat.lt_add_of_pos_right hsize⟩

/-- Some characters on. -/
lemma lt_foldl_next (p : Position) {t : Text} (ht : t ≠ []) : p < t.foldl next p := by
  induction t generalizing p with
  | nil => exact absurd rfl ht
  | cons c t ih =>
    rw [List.foldl_cons]
    by_cases hnil : t = []
    · rw [hnil]
      exact p.lt_next c
    · exact lt_trans (p.lt_next c) (ih (p.next c) hnil)

/-- **Places are strictly increasing.** -/
lemma after_lt_after {t : Text} {j k : Nat} (hjk : j < k) (hk : k ≤ t.length) :
    after t j < after t k := by
  have hsplit : t.take k = t.take j ++ (t.drop j).take (k - j) := by
    rw [← List.take_add]
    congr 1
    omega
  have hmore : (t.drop j).take (k - j) ≠ [] := by
    rw [← List.length_pos_iff, List.length_take, List.length_drop]
    omega
  rw [after, after, hsplit, List.foldl_append]
  exact lt_foldl_next _ hmore

/-- A place belongs to one number of characters only. -/
lemma after_inj {t : Text} {j k : Nat} (hj : j ≤ t.length) (hk : k ≤ t.length)
    (h : after t j = after t k) : j = k := by
  rcases Nat.lt_trichotomy j k with hlt | heq | hgt
  · exact absurd h (ne_of_lt (after_lt_after hlt hk))
  · exact heq
  · exact absurd h.symm (ne_of_lt (after_lt_after hgt hj))

/-! ## The last place -/

/-- **One character more.** -/
lemma endOf_append_singleton (t : Text) (c : Char) : endOf (t ++ [c]) = (endOf t).next c := by
  by_cases hc : c = '\n'
  · simp [endOf, Text.lastLine, next, hc]
  · have hne : (c != '\n') = true := by simpa using hc
    simp [endOf, Text.lastLine, next, hc, hne]

/-- **Counting finds the place that going through the text leads to.** -/
lemma endOf_eq_foldl_next (t : Text) : endOf t = t.foldl next origin := by
  induction t using List.reverseRecOn with
  | nil => rfl
  | append_singleton t c ih =>
    rw [endOf_append_singleton, ih, List.foldl_append]
    rfl

lemma after_eq_endOf (t : Text) (k : Nat) : after t k = endOf (t.take k) :=
  (endOf_eq_foldl_next _).symm

lemma after_length (t : Text) : after t t.length = endOf t := by
  rw [after_eq_endOf, List.take_length]

/-- Only the whole text leads to its end. -/
lemma after_eq_endOf_iff {t : Text} {k : Nat} (hk : k ≤ t.length) :
    after t k = endOf t ↔ k = t.length := by
  rw [← after_length]
  exact ⟨after_inj hk (Nat.le_refl _), fun h => by rw [h]⟩

/-! ## Finding places -/

/-- The number of characters before a place, if it is a place of the text. -/
def offset? (t : Text) (p : Position) : Option Nat :=
  (List.range (t.length + 1)).find? fun k => after t k = p

/-- The place after some characters tells how many they are. -/
lemma offset?_after {t : Text} {k : Nat} (hk : k ≤ t.length) : offset? t (after t k) = some k := by
  rw [offset?, List.find?_range_eq_some]
  refine ⟨by simp, by simp; omega, ?_⟩
  intro j hj
  simpa using ne_of_lt (after_lt_after hj hk)

end Position

/-! ## Replacements -/

/-- The document after a replacement, if the range is a part of the document. -/
def Replacement.applyTo? (r : Replacement) (t : Text) : Option Text := do
  let first ← Position.offset? t r.range.start
  let last ← Position.offset? t r.range.stop
  if first ≤ last then some (t.take first ++ r.newText ++ t.drop last) else none

/-- **A replacement of the whole document leaves nothing else.** -/
lemma Replacement.applyTo?_whole (source newText : Text) :
    (whole source newText).applyTo? source = some newText := by
  have hfirst : Position.offset? source ⟨0, 0⟩ = some 0 := Position.offset?_after (Nat.zero_le _)
  have hlast : Position.offset? source (.endOf source) = some source.length := by
    rw [← Position.after_length]
    exact Position.offset?_after (Nat.le_refl _)
  simp [applyTo?, whole, hfirst, hlast]

end SqlIndent
