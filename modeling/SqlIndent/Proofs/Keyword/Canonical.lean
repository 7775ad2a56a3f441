import Mathlib.Data.List.Sort
import SqlIndent.Keyword.Basic
import SqlIndent.Proofs.Text.Blank
import SqlIndent.Proofs.Text.Upper

/-!
# Keyword sets are canonical

A key is its own key: upper-casing neither brings outer blanks nor anything that changes once more.
So a keyword set is what its own lists describe, however the words were first spelled.
-/

namespace SqlIndent

namespace Text

/-! ## Keys -/

/-- The upper case of a character that is not blank has no blanks. -/
lemma isBlank_of_mem_upperChar {c x : Char} (hc : isBlank c = false) (hx : x ∈ upperChar c) :
    isBlank x = false := by
  by_cases hword : isWordChar c = true
  · exact isBlank_eq_false_of_isPlain (isPlain_of_mem_upperChar hword hx)
  · rw [upperChar_of_not_isWordChar (by simpa using hword), List.mem_singleton] at hx
    rw [hx, hc]

/-- A text that ends in no blank does not get one by upper-casing. -/
lemma Solid.upper {t : Text} (h : Solid t) : Solid t.upper := by
  obtain ⟨s, c, rfl, hblank, -, -⟩ := h.exists_concat
  have hlast : Solid (upperChar c) :=
    solid_of_forall (upperChar_ne_nil c) fun x hx => isBlank_of_mem_upperChar hblank hx
  have hsplit : Text.upper (s ++ [c]) = Text.upper s ++ upperChar c := by
    simp [Text.upper]
  rw [hsplit]
  exact hlast.append _

/-- A trimmed text is empty, or it has a blank at neither end. -/
lemma trim_cases (t : Text) :
    trim t = [] ∨ ∃ c s, trim t = c :: s ∧ isBlank c = false ∧ Solid (c :: s) := by
  have hhead := List.head?_dropWhile_not isBlank t
  unfold trim trimStart
  cases hdrop : t.dropWhile isBlank with
  | nil => exact Or.inl rfl
  | cons c s =>
    have hc : isBlank c = false := by
      simpa [hdrop] using hhead
    have hsolid : Solid (trimEnd (c :: s)) := solid_trimEnd (by simp [trimEnd_cons hc])
    rw [trimEnd_cons hc] at hsolid ⊢
    exact Or.inr ⟨c, _, rfl, hc, hsolid⟩

lemma trim_of_solid {c : Char} {t : Text} (hc : isBlank c = false) (h : Solid (c :: t)) :
    trim (c :: t) = c :: t := by
  rw [trim, trimStart, List.dropWhile_cons_of_neg (by simp [hc]), trimEnd_of_solid h]

/-- Upper-casing does not bring outer blanks. -/
lemma trim_upper_trim (t : Text) : trim (trim t).upper = (trim t).upper := by
  rcases trim_cases t with hnil | ⟨c, s, htrim, hc, hsolid⟩
  · rw [hnil]
    rfl
  · obtain ⟨x, xs, hx⟩ := List.exists_cons_of_ne_nil (upperChar_ne_nil c)
    have hblank : isBlank x = false := isBlank_of_mem_upperChar hc (by simp [hx])
    have hupper := hsolid.upper
    rw [htrim, upper_cons, hx, List.cons_append]
    rw [upper_cons, hx, List.cons_append] at hupper
    exact trim_of_solid hblank hupper

/-- A key is its own key. -/
@[simp] lemma key_key (t : Text) : t.key.key = t.key := by
  rw [key, key, trim_upper_trim, upper_upper]

end Text

/-! ## Sets of words -/

namespace WordSet

/-- Sets with the same members are equal. -/
lemma ext_of_mem {s t : WordSet} (h : ∀ w, w ∈ s.toList ↔ w ∈ t.toList) : s = t := by
  obtain ⟨l, hl⟩ := s
  obtain ⟨m, hm⟩ := t
  have hlists : l = m := hl.eq_of_mem_iff hm h
  simp only [hlists]

/-- The members of a set of words: the keys of the words that are not blank. -/
lemma mem_ofWords {ws : List Text} {w : Text} :
    w ∈ (ofWords ws).toList ↔ w ≠ [] ∧ ∃ v ∈ ws, v.key = w := by
  have hfold : ∀ l : List Text,
      w ∈ (l.foldr (fun w s => s.insert w) empty).toList ↔ w ∈ l := by
    intro l
    induction l with
    | nil => simp
    | cons v l ih => simp [ih]
  rw [ofWords, hfold, List.mem_filter, List.mem_map, and_comm]
  simp

/-- Whether all members are keys of words that are not blank. -/
def IsKeyed (s : WordSet) : Prop :=
  ∀ w ∈ s.toList, w ≠ [] ∧ w.key = w

/-- A set made of words holds keys only. -/
lemma isKeyed_ofWords (ws : List Text) : (ofWords ws).IsKeyed := by
  intro w hw
  obtain ⟨hne, v, -, rfl⟩ := mem_ofWords.1 hw
  exact ⟨hne, Text.key_key v⟩

lemma IsKeyed.erase {s : WordSet} (h : s.IsKeyed) (w : Text) : (s.erase w).IsKeyed :=
  fun u hu => h u (mem_toList_erase.1 hu).1

/-- A set of keys is the set that its members describe. -/
lemma IsKeyed.ofWords_toList {s : WordSet} (h : s.IsKeyed) : ofWords s.toList = s := by
  apply ext_of_mem
  intro w
  rw [mem_ofWords]
  constructor
  · rintro ⟨-, v, hv, rfl⟩
    rwa [(h v hv).2]
  · intro hw
    exact ⟨(h w hw).1, w, hw, (h w hw).2⟩

lemma erase_of_not_mem {s : WordSet} {w : Text} (h : w ∉ s.toList) : s.erase w = s := by
  apply ext_of_mem
  intro u
  rw [mem_toList_erase, and_iff_left_iff_imp]
  rintro hu rfl
  exact h hu

end WordSet

/-! ## Keyword sets -/

namespace KeywordSet

/-- The set that a set's own lists describe is the set itself: reading the lists once more trims,
upper-cases and drops nothing. -/
theorem ofLists_toLists_ofLists (lists : KeywordLists) :
    ofLists (ofLists lists).toLists = ofLists lists := by
  have hkeywords := (WordSet.isKeyed_ofWords lists.keywords).ofWords_toList
  have hindent := ((WordSet.isKeyed_ofWords lists.indent).erase dedentKey).ofWords_toList
  have hnewline := (WordSet.isKeyed_ofWords lists.newline).ofWords_toList
  -- `END` was left out the first time, so leaving it out again changes nothing
  have herase := WordSet.erase_of_not_mem (ofLists lists).dedent_not_indent
  simp only [ofLists, toLists] at herase ⊢
  simp only [hkeywords, hindent, hnewline, herase]

end KeywordSet

end SqlIndent
