import SqlIndent.Proofs.Span.Lexing

/-!
# Texts cut at a line end

A line end stops everything but a literal: words, comments and runs of punctuation end there at the
latest, and what comes after it is cut as if it stood alone. So a text can be cut line by line, as
long as no literal is still open (`significant_append_lineEnd`). Only two things show in the second
part that something comes before it: its places, and the blanks before its first span.
-/

namespace SqlIndent

open Lexeme

/-- A span that is moved on by a number of bytes. -/
def Span.moved (bytes : Nat) (s : Span) : Span :=
  { s with start := bytes + s.start }

/-- Spans that are moved on by a number of bytes, with blanks right before the first of them. -/
def movedBehindBlanks (bytes : Nat) : List Span → List Span
  | [] => []
  | s :: spans => { s.moved bytes with spaced := true } :: spans.map (Span.moved bytes)

/-! ## Spans that are moved on -/

/-- Lexemes that are located from a later start are the same spans, moved. -/
lemma map_moved_locate (bytes start : Nat) (spaced : Bool) (xs : List Lexeme) :
    (locate start spaced xs).map (Span.moved bytes) = locate (bytes + start) spaced xs := by
  induction xs generalizing start spaced with
  | nil => rfl
  | cons x xs ih =>
    rw [locate, locate, List.map_cons, ih, Nat.add_assoc]
    rfl

lemma map_moved_significantFrom (bytes start : Nat) (spaced : Bool) (t : Text) :
    (significantFrom start spaced t).map (Span.moved bytes)
      = significantFrom (bytes + start) spaced t := by
  rw [significantFrom, significantFrom, ← map_moved_locate, List.filter_map]
  rfl

lemma significantFrom_nil (start : Nat) (spaced : Bool) : significantFrom start spaced [] = [] := by
  simp [significantFrom, locate]

/-- The first span of a text that does not start with blanks gets the note that blanks come before
it. -/
lemma movedBehindBlanks_significantFrom {t : Text} (ht : ∀ c ∈ t.head?, Text.isBlank c = false)
    (bytes start : Nat) (spaced : Bool) :
    movedBehindBlanks bytes (significantFrom start spaced t)
      = significantFrom (bytes + start) true t := by
  cases t with
  | nil => rw [significantFrom_nil, significantFrom_nil, movedBehindBlanks]
  | cons c rest =>
    obtain ⟨tail, htail, hfits⟩ := fits_first c rest
    have hkind : (first c rest).kind ≠ .blank := by
      intro hblank
      obtain ⟨hne, hall, -⟩ := hfits.blank_shape hblank
      obtain ⟨d, u, hd⟩ := List.exists_cons_of_ne_nil hne
      rw [hd, List.cons_append, List.cons.injEq] at htail
      have hc := hall d (by simp [hd])
      rw [← htail.1, ht c (by simp)] at hc
      exact absurd hc (by decide)
    rw [htail, significantFrom_of_fits hfits hkind, significantFrom_of_fits hfits hkind,
      movedBehindBlanks, map_moved_significantFrom, Nat.add_assoc]
    rfl

/-! ## Cutting at a line end -/

/-- A lexeme still fits when a line end and more comes after the text, unless it is the last one and
either a literal that lacks its closer or a run of blanks that goes on. -/
lemma Lexeme.Fits.before_lineEnd {x : Lexeme} {xs : List Lexeme} {g t : Text} {c : Char}
    (h : Fits x (spelling xs).head?) (hxs : Cut xs) (hg : g.head? = some c)
    (hc : isLineEnd c = true) (hblank : Text.isBlank c = true)
    (hclosed : xs = [] → ∀ d, x.kind = .literal d → x.terminated = true)
    (hkind : xs = [] → x.kind ≠ .blank) : Fits x (spelling xs ++ (g ++ t)).head? := by
  cases xs with
  | nil =>
    rw [spelling_nil, List.nil_append, List.head?_append, hg]
    exact h.before_blank (h.terminated_of_literal (hclosed rfl)) (hkind rfl) hblank fun _ => hc
  | cons y ys =>
    -- what comes right after `x` is the start of `y`, as before
    obtain ⟨b, u, hb⟩ := List.exists_cons_of_ne_nil hxs.1.text_ne_nil
    rw [spelling_cons, hb] at h ⊢
    exact h

/-- Lexemes, a run of blanks that starts with a line end, and a text that does not start with
blanks: what comes after the blanks does not depend on what comes before them. -/
lemma significantFrom_spelling_append {xs : List Lexeme} (hxs : Cut xs)
    (hlast : ∀ x ∈ xs.getLast?, ∀ d, x.kind = .literal d → x.terminated = true)
    {g t : Text} {c : Char} (hc : g.head? = some c) (hend : isLineEnd c = true)
    (hg : ∀ b ∈ g, Text.isBlank b = true) (ht : ∀ b ∈ t.head?, Text.isBlank b = false)
    (start : Nat) (spaced : Bool) :
    significantFrom start spaced (spelling xs ++ (g ++ t))
      = significantFrom start spaced (spelling xs) ++
        significantFrom (start + (spelling xs ++ g).utf8Length) true t := by
  have hne : g ≠ [] := by
    rintro rfl
    simp at hc
  have hblank : Text.isBlank c = true := hg c (List.mem_of_head? hc)
  induction xs generalizing start spaced with
  | nil =>
    rw [spelling_nil, List.nil_append, List.nil_append, significantFrom_nil, List.nil_append]
    exact significantFrom_blank (.blank hne hg ht) rfl start spaced
  | cons x xs ih =>
    by_cases hmerge : x.kind = .blank ∧ xs = []
    · -- blanks at the end of the first text and the new ones are one run
      obtain ⟨hkind, rfl⟩ := hmerge
      obtain ⟨hx, hall, -⟩ := hxs.1.blank_shape hkind
      have hrun : ∀ b ∈ x.text ++ g, Text.isBlank b = true := by
        intro b hb
        rcases List.mem_append.1 hb with hb | hb
        · exact hall b hb
        · exact hg b hb
      have hnone : significantFrom start spaced (x.text ++ []) = [] := by
        rw [significantFrom_blank hxs.1.atEnd hkind, significantFrom_nil]
      rw [spelling_cons, spelling_nil, hnone, List.append_nil, ← List.append_assoc,
        List.nil_append]
      exact significantFrom_blank (.blank (by simp [hx]) hrun ht) rfl start spaced
    · have hfits : Fits x (spelling xs ++ (g ++ t)).head? := by
        refine hxs.1.before_lineEnd hxs.2 hc hend hblank ?_ ?_
        · rintro rfl
          exact hlast x (by simp)
        · exact fun hnil hkind => hmerge ⟨hkind, hnil⟩
      have hlast' : ∀ y ∈ xs.getLast?, ∀ d, y.kind = .literal d → y.terminated = true := by
        intro y hy
        exact hlast y (by simp [List.getLast?_cons, Option.mem_def.1 hy])
      have hrest := ih hxs.2 hlast' (start + x.text.utf8Length) (x.kind == .blank)
      rw [spelling_cons, List.append_assoc, significantFrom_cons hfits, hrest,
        significantFrom_cons hxs.1, List.append_assoc, List.append_assoc]
      simp [Nat.add_assoc]

lemma significant_eq_significantFrom (t : Text) : significant t = significantFrom 0 false t := rfl

/-- **Cutting at a line end.** Where a text does not end in an open literal, blanks that start with
a line end cut it off from whatever comes after them: the significant spans are those of the first
text and then those of the second, moved on, with blanks before the first of them. -/
theorem significant_append_lineEnd {x w : Text}
    (hx : ∀ s ∈ (lex x).getLast?, ∀ d, s.kind = .literal d → s.terminated = true)
    (hw : ∀ c ∈ w, Text.isBlank c = true) (hend : w.head? = some '\n' ∨ w.head? = some '\r')
    (y : Text) :
    significant (x ++ w ++ y)
      = significant x ++ movedBehindBlanks (x ++ w).utf8Length (significant y) := by
  -- blanks at the front of `y` belong to the same run as `w`
  obtain ⟨b, t, rfl, hb, ht⟩ := exists_run Text.isBlank y
  have hlast : ∀ z ∈ (lexemes x).getLast?, ∀ d, z.kind = .literal d → z.terminated = true := by
    intro z hz
    rw [← map_lexeme_lex, List.getLast?_map, Option.mem_def, Option.map_eq_some_iff] at hz
    obtain ⟨s, hs, rfl⟩ := hz
    exact hx s hs
  have hrun : ∀ c ∈ w ++ b, Text.isBlank c = true := by
    intro c hc
    rcases List.mem_append.1 hc with hc | hc
    · exact hw c hc
    · exact hb c hc
  obtain ⟨c, hc, hline⟩ : ∃ c, w.head? = some c ∧ isLineEnd c = true := by
    rcases hend with hend | hend
    · exact ⟨_, hend, by decide⟩
    · exact ⟨_, hend, by decide⟩
  have hhead : (w ++ b).head? = some c := by
    rw [List.head?_append, hc]
    rfl
  have hcut := significantFrom_spelling_append (cut_lexemes x) hlast hhead hline hrun ht 0 false
  rw [spelling_lexemes] at hcut
  rw [significant_eq_significantFrom, significant_eq_significantFrom,
    significant_eq_significantFrom, significantFrom_blanks hb ht,
    movedBehindBlanks_significantFrom ht, List.append_assoc, ← List.append_assoc w, hcut]
  simp [Nat.add_assoc]

/-- The line break ends a comment; the blanks on both sides of it are one run. -/
theorem significant_append_lineEnd_comment :
    (∀ s ∈ (lex "[a]]b] --c".toList).getLast?, ∀ d, s.kind = .literal d → s.terminated = true) ∧
    (∀ c ∈ "\r\n ".toList, Text.isBlank c = true) ∧
    significant ("[a]]b] --c".toList ++ "\r\n ".toList ++ "\té-- 'd".toList)
      = significant "[a]]b] --c".toList ++
        movedBehindBlanks 13 (significant "\té-- 'd".toList) := by
  have hterminated : ∀ s ∈ (lex "[a]]b] --c".toList).getLast?, s.terminated = true := by
    decide +kernel
  have hx : ∀ s ∈ (lex "[a]]b] --c".toList).getLast?,
      ∀ d, s.kind = .literal d → s.terminated = true := fun s hs _ _ => hterminated s hs
  have hw : ∀ c ∈ "\r\n ".toList, Text.isBlank c = true := List.all_eq_true.1 (by decide)
  exact ⟨hx, hw, significant_append_lineEnd hx hw (Or.inr rfl) "\té-- 'd".toList⟩

end SqlIndent
