import Mathlib.Data.List.Basic
import SqlIndent.Path

/-!
# Parts of paths

What the parts of a path are, and of a path with another one after it: the slash between the two is
not doubled. A path that is only a dot names the working directory; it is left out where others are
put after it.
-/

namespace SqlIndent.Path

/-! ## Parts -/

@[simp] lemma parts_nil : parts [] = [[]] := rfl

lemma parts_slash_cons (p : Text) : parts ('/' :: p) = [] :: parts p := rfl

/-- A character other than a slash belongs to the first part. -/
lemma parts_cons {c : Char} (hc : c ≠ '/') (p : Text) :
    parts (c :: p) = (parts p).modifyHead (c :: ·) := by
  simp [parts, hc]

lemma parts_ne_nil (p : Text) : parts p ≠ [] := by
  induction p with
  | nil => simp
  | cons c p ih =>
    by_cases hc : c = '/'
    · simp [hc, parts_slash_cons]
    · simpa [parts_cons hc] using ih

/-- A slash ends a part, so the parts of two paths come one after another. -/
lemma parts_append_slash (p q : Text) : parts (p ++ '/' :: q) = parts p ++ parts q := by
  induction p with
  | nil => rfl
  | cons c p ih =>
    rw [List.cons_append]
    by_cases hc : c = '/'
    · rw [hc, parts_slash_cons, parts_slash_cons, ih, List.cons_append]
    · obtain ⟨first, rest, hparts⟩ := List.exists_cons_of_ne_nil (parts_ne_nil p)
      rw [parts_cons hc, parts_cons hc, ih, hparts]
      rfl

lemma parts_of_not_mem {p : Text} (h : '/' ∉ p) : parts p = [p] := by
  induction p with
  | nil => rfl
  | cons c p ih =>
    rw [List.mem_cons, not_or] at h
    rw [parts_cons (Ne.symm h.1), ih h.2]
    rfl

/-- A character of a path is a slash or in one of the parts. -/
lemma mem_parts {p : Text} {c : Char} (h : c ∈ p) : c = '/' ∨ ∃ part ∈ parts p, c ∈ part := by
  induction p with
  | nil => simp at h
  | cons d p ih =>
    by_cases hd : d = '/'
    · subst hd
      rw [parts_slash_cons]
      rcases List.mem_cons.1 h with rfl | h
      · exact Or.inl rfl
      · exact (ih h).imp id fun ⟨part, hpart, hc⟩ => ⟨part, List.mem_cons_of_mem _ hpart, hc⟩
    · obtain ⟨first, rest, hparts⟩ := List.exists_cons_of_ne_nil (parts_ne_nil p)
      rw [parts_cons hd, hparts, List.modifyHead_cons]
      rw [hparts] at ih
      rcases List.mem_cons.1 h with rfl | h
      · exact Or.inr ⟨_, List.mem_cons_self, List.mem_cons_self⟩
      · refine (ih h).imp id ?_
        rintro ⟨part, hpart, hc⟩
        rcases List.mem_cons.1 hpart with rfl | hpart
        · exact ⟨_, List.mem_cons_self, List.mem_cons_of_mem d hc⟩
        · exact ⟨part, List.mem_cons_of_mem _ hpart, hc⟩

/-! ## Names -/

/-- What makes up a name. -/
lemma isName_iff {part : Text} :
    isName part = true ↔ isIdle part = false ∧ part ≠ above ∧ '/' ∉ part ∧ '\x00' ∉ part ∧
      part.utf8Length ≤ maxNameLength := by
  simp [isName, and_assoc]

lemma ne_nil_of_isName {part : Text} (h : isName part = true) : part ≠ [] := by
  rintro rfl
  exact absurd h (by decide)

/-- A name by itself is a path from the working directory. -/
lemma isAbsolute_of_isName {name : Text} (h : isName name = true) : isAbsolute name = false := by
  obtain ⟨-, -, hslash, -, -⟩ := isName_iff.1 h
  rw [← Bool.not_eq_true, isAbsolute, beq_iff_eq]
  exact fun hhead => hslash (List.mem_of_head? hhead)

/-! ## Joined paths -/

@[simp] lemma join_nil_left (x : Text) : join [] x = x := rfl

/-- The parts of a path with another one after it. A slash at the end of the first is not doubled. -/
lemma parts_join {p x : Text} (hp : p ≠ []) :
    parts (join p x) = parts p ++ parts x ∨
      ∃ ps, parts p = ps ++ [[]] ∧ parts (join p x) = ps ++ parts x := by
  by_cases hslash : p.getLast? = some '/'
  · obtain ⟨q, rfl⟩ := List.getLast?_eq_some_iff.1 hslash
    have hjoin : join (q ++ ['/']) x = q ++ '/' :: x := by simp [join]
    exact Or.inr ⟨parts q, parts_append_slash q [], by rw [hjoin, parts_append_slash]⟩
  · have hjoin : join p x = p ++ '/' :: x := by simp [join, hp, hslash]
    exact Or.inl (by rw [hjoin, parts_append_slash])

lemma isAbsolute_join {p : Text} (hp : p ≠ []) (name : Text) :
    isAbsolute (join p name) = isAbsolute p := by
  obtain ⟨c, q, rfl⟩ := List.exists_cons_of_ne_nil hp
  unfold join
  split <;> rfl

/-- Joining adds no characters but a slash. -/
lemma mem_join {c : Char} {p name : Text} (h : c ∈ join p name) : c ∈ p ∨ c = '/' ∨ c ∈ name := by
  unfold join at h
  split at h
  · exact (List.mem_append.1 h).imp id Or.inr
  · simpa using h

lemma mem_join_left {c : Char} {p : Text} (x : Text) (h : c ∈ p) : c ∈ join p x := by
  unfold join
  split <;> simp [h]

lemma join_eq_nil {p name : Text} (h : join p name = []) : p = [] ∧ name = [] := by
  unfold join at h
  split at h
  · exact List.append_eq_nil_iff.1 h
  · simp at h

lemma join_ne_nil {p : Text} (x : Text) (hp : p ≠ []) : join p x ≠ [] := fun h =>
  hp (join_eq_nil h).1

lemma join_name_ne_nil {p name : Text} (hname : isName name = true) : join p name ≠ [] := fun h =>
  ne_nil_of_isName hname (join_eq_nil h).2

/-- With the empty part after it a path ends in a slash, unless there is nothing at all. -/
lemma getLast?_join_nil {p : Text} (h : join p [] ≠ []) : (join p []).getLast? = some '/' := by
  unfold join at h ⊢
  split
  next hend =>
    rw [if_pos hend, List.append_nil] at h
    rw [List.append_nil]
    simpa [h] using hend
  · simp

lemma joinAll_concat_ne_nil {p name : Text} (names : List Text) (hname : isName name = true) :
    joinAll p (names ++ [name]) ≠ [] := by
  rw [joinAll, List.foldl_append]
  exact join_name_ne_nil hname

/-! ## Paths before others -/

/-- Whether a path can be looked up at all: one that is empty or too long leads nowhere. -/
def MayLead (p : Text) : Prop :=
  p ≠ [] ∧ fits p = true

/-- A path as others are put after it: the dot of the working directory is left out. -/
def withoutHere (p : Text) : Text :=
  if isPart here p then [] else p

/-- A path that is no more than the dot has idle parts only, and is no path from the root. -/
lemma idle_of_isPart {p : Text} (h : isPart here p = true) :
    (parts p).all isIdle = true ∧ isAbsolute p = false := by
  refine ⟨?_, ?_⟩
  · unfold isPart at h
    split at h
    · simp at h
    next first rest hparts =>
      rw [Bool.and_eq_true, beq_iff_eq] at h
      rw [hparts, List.all_cons, h.1, h.2]
      rfl
  · cases p with
    | nil => rfl
    | cons c p =>
      by_cases hc : c = '/'
      · simp [isPart, hc, parts_slash_cons, here] at h
      · simp [isAbsolute, hc]

/-- Below the working directory, paths are shown without it. -/
lemma withoutHere_of_isPart {p : Text} (h : isPart here p = true) : withoutHere p = [] := by
  rw [withoutHere, if_pos h]

lemma withoutHere_of_not_isPart {p : Text} (h : isPart here p = false) : withoutHere p = p := by
  rw [withoutHere, if_neg (by simp [h])]

/-- A path with a part after it, as patterns put it together. -/
lemma join_withoutHere (p x : Text) :
    join (withoutHere p) x = if isPart here p then x else join p x := by
  unfold withoutHere
  split <;> rfl

end SqlIndent.Path
