import SqlIndent.Text.Blank
import SqlIndent.Text.Upper

/-!
# Sets of words

Words are compared by their key: outer blanks are dropped and the rest is upper-cased. A set of
words is kept as the strictly increasing list of its keys, ordered by code point, so equal sets are
equal values.
-/

namespace SqlIndent

/-- The form in which words are looked up: trimmed and upper-cased. -/
def Text.key (t : Text) : Text :=
  (Text.trim t).upper

/-- Puts a word in its place in a strictly increasing list, unless it is there. -/
def insertWord (w : Text) : List Text → List Text
  | [] => [w]
  | v :: vs =>
    if w < v then w :: v :: vs
    else if w = v then v :: vs
    else v :: insertWord w vs

theorem mem_insertWord {u w : Text} {l : List Text} : u ∈ insertWord w l ↔ u = w ∨ u ∈ l := by
  induction l with
  | nil => simp [insertWord]
  | cons v vs ih =>
    unfold insertWord
    split
    · simp
    · split <;> simp_all [or_left_comm]

theorem pairwise_insertWord (w : Text) {l : List Text} (h : l.Pairwise (· < ·)) :
    (insertWord w l).Pairwise (· < ·) := by
  induction l with
  | nil => simp [insertWord]
  | cons v vs ih =>
    have hv : ∀ u ∈ vs, v < u := (List.pairwise_cons.1 h).1
    unfold insertWord
    split
    next hlt =>
      refine List.pairwise_cons.2 ⟨fun u hu => ?_, h⟩
      rcases List.mem_cons.1 hu with rfl | hu
      · exact hlt
      · exact List.lt_trans hlt (hv u hu)
    next hlt =>
      split
      · exact h
      next hne =>
        have hvw : v < w := Std.lt_of_le_of_ne (Std.not_lt.1 hlt) (Ne.symm hne)
        refine List.pairwise_cons.2 ⟨fun u hu => ?_, ih h.of_cons⟩
        rcases mem_insertWord.1 hu with rfl | hu
        · exact hvw
        · exact hv u hu

/-- A finite set of words, as the strictly increasing list of its members. -/
structure WordSet where
  toList : List Text
  increasing : toList.Pairwise (· < ·)
deriving DecidableEq

namespace WordSet

/-- The set without members. -/
def empty : WordSet :=
  ⟨[], .nil⟩

/-- Adds a word. -/
def insert (s : WordSet) (w : Text) : WordSet :=
  ⟨insertWord w s.toList, pairwise_insertWord w s.increasing⟩

/-- Whether a word is a member, compared as it stands. -/
def contains (s : WordSet) (w : Text) : Bool :=
  s.toList.contains w

/-- Removes a word. -/
def erase (s : WordSet) (w : Text) : WordSet :=
  ⟨s.toList.filter (· != w), s.increasing.filter _⟩

/-- The keys of the given words, blank words left out. -/
def ofWords (ws : List Text) : WordSet :=
  ((ws.map Text.key).filter (!·.isEmpty)).foldr (fun w s => s.insert w) empty

@[simp] theorem toList_empty : empty.toList = [] := rfl

@[simp] theorem mem_toList_insert {s : WordSet} {u w : Text} :
    u ∈ (s.insert w).toList ↔ u = w ∨ u ∈ s.toList :=
  mem_insertWord

@[simp] theorem mem_toList_erase {s : WordSet} {u w : Text} :
    u ∈ (s.erase w).toList ↔ u ∈ s.toList ∧ u ≠ w := by
  simp [erase]

@[simp] theorem contains_iff {s : WordSet} {w : Text} : s.contains w = true ↔ w ∈ s.toList := by
  simp [contains]

end WordSet
end SqlIndent
