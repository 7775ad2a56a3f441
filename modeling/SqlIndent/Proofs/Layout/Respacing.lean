import Mathlib.Data.List.Forall2
import SqlIndent.Keyword.Builtin
import SqlIndent.Proofs.Layout.Reattached

/-!
# Blanks of the source

A layout sees the blanks of the source only as notes whether there are any, and not even those before
the first span. So all texts that differ in their runs of blanks alone are formatted alike
(`format_eq_of_isRespacing`). A run of blanks may be replaced by any other one, as long as it still
ends the line of a comment before it; at both ends of the text it may also be left out.
-/

namespace SqlIndent

open Lexeme

/-! ## Texts with other blanks -/

/-- The text `t` is made of the spans, but with other runs of blanks; `previous` is the kind of the
span before them. Spans other than blanks stay as they are. -/
inductive Reblanked : (previous : Option Kind) → (spans : List Span) → (t : Text) → Prop
  | nil {previous : Option Kind} : Reblanked previous [] []
  | kept {previous : Option Kind} {s : Span} {spans : List Span} {t : Text} :
      Reblanked (some s.kind) spans t → Reblanked previous (s :: spans) (s.text ++ t)
  /-- After a comment, blanks have to start with a line end. -/
  | replaced {previous : Option Kind} {s : Span} {blanks : Text} {spans : List Span} {t : Text} :
      s.kind = .blank → blanks ≠ [] → (∀ c ∈ blanks, Text.isBlank c = true) →
      (previous = some .comment → ∀ c ∈ blanks.head?, isLineEnd c = true) →
      Reblanked (some s.kind) spans t → Reblanked previous (s :: spans) (blanks ++ t)
  /-- Blanks at the end of the text may go. -/
  | trimmed {previous : Option Kind} {s : Span} : s.kind = .blank → Reblanked previous [s] []

/-- The text `y` is the text `x` with other runs of blanks; those at its start may be missing. -/
def IsRespacing (x y : Text) : Prop :=
  Reblanked none (lex x) y ∨
    ∃ s spans, lex x = s :: spans ∧ s.kind = .blank ∧ Reblanked (some s.kind) spans y

/-- Spans that differ in their places alone. -/
def SameButPlaces : List Span → List Span → Prop :=
  List.Forall₂ fun r s => r.lexeme = s.lexeme ∧ r.spaced = s.spaced

/-! ## The spans of a text with other blanks -/

/-- What fits before the spans fits before the text with other blanks. -/
lemma Reblanked.fits {x : Lexeme} {xs : List Lexeme} {start : Nat} {spaced : Bool} {t : Text}
    (h : Reblanked (some x.kind) (locate start spaced xs) t) (hcut : Cut (x :: xs)) :
    Fits x t.head? := by
  cases xs with
  | nil =>
    cases h
    exact hcut.1
  | cons y ys =>
    have hfits : Fits x y.text.head? := head?_spelling_cons hcut.2 ▸ hcut.1
    obtain ⟨c, u, hc⟩ := List.exists_cons_of_ne_nil hcut.2.1.text_ne_nil
    rw [locate] at h
    generalize locate _ _ ys = spans at h
    cases h with
    | kept _ =>
      rw [hc] at hfits ⊢
      exact hfits
    | @replaced _ _ blanks _ t hkind hne hblank hline _ =>
      -- blanks stood here before, so `x` is something else
      have hsolid : x.kind ≠ .blank := fun hx => kind_ne_blank_of_cut hcut hx hkind
      obtain ⟨b, bs, rfl⟩ := List.exists_cons_of_ne_nil hne
      rw [hc] at hfits
      refine hfits.before_blank hfits.terminated hsolid (hblank b (by simp)) fun hx => ?_
      exact hline (by rw [hx]) b (by simp)
    | trimmed _ => exact hcut.1.atEnd

/-- A text with other blanks has the same significant spans, in other places. -/
lemma Reblanked.sameButPlaces {previous : Option Kind} {xs : List Lexeme} {start : Nat}
    {spaced : Bool} {t : Text} (h : Reblanked previous (locate start spaced xs) t) (hcut : Cut xs)
    (start' : Nat) :
    SameButPlaces (significantFrom start' spaced t)
      ((locate start spaced xs).filter (·.kind != .blank)) := by
  induction xs generalizing previous start spaced t start' with
  | nil =>
    cases h
    simp [significantFrom, locate, SameButPlaces]
  | cons x xs ih =>
    rw [locate] at h ⊢
    generalize hspans : locate _ _ xs = spans at h ⊢
    cases h with
    | @kept _ _ _ t h =>
      subst hspans
      have hfits : Fits x t.head? := h.fits hcut
      have hrest := ih h hcut.2 (start' + x.text.utf8Length)
      by_cases hx : x.kind = .blank
      · have hblank : (x.kind == .blank) = true := by simpa using hx
        rw [significantFrom_blank hfits hx, List.filter_cons_of_neg (by simp [hx]), ← hblank]
        exact hrest
      · have hblank : (x.kind == .blank) = false := by simpa using hx
        rw [significantFrom_of_fits hfits hx, List.filter_cons_of_pos (by simpa using hx), ← hblank]
        exact .cons ⟨rfl, rfl⟩ hrest
    | @replaced _ _ blanks _ t hkind hne hblanks _ h =>
      subst hspans
      -- no blanks follow the old run, so the new one ends there too
      have hx : x.kind = .blank := hkind
      have hend := ((h.fits hcut).blank_shape hx).2.2
      have hfits : Fits ⟨.blank, blanks, true⟩ t.head? := .blank hne hblanks hend
      have hblank : (x.kind == .blank) = true := by simpa using hx
      have hrest := ih h hcut.2 (start' + blanks.utf8Length)
      rw [significantFrom_blank hfits rfl, List.filter_cons_of_neg (by simp [hx]), ← hblank]
      exact hrest
    | trimmed hkind =>
      have hx : x.kind = .blank := hkind
      simp [significantFrom, locate, SameButPlaces, hx]

/-- The same lexemes placed elsewhere. -/
lemma sameButPlaces_locate (start start' : Nat) (spaced : Bool) (xs : List Lexeme) :
    SameButPlaces ((locate start spaced xs).filter (·.kind != .blank))
      ((locate start' spaced xs).filter (·.kind != .blank)) := by
  induction xs generalizing start start' spaced with
  | nil => exact .nil
  | cons x xs ih =>
    have hrest := ih (start + x.text.utf8Length) (start' + x.text.utf8Length) (x.kind == .blank)
    rw [locate, locate]
    by_cases hx : x.kind = .blank
    · rw [List.filter_cons_of_neg (by simp [hx]), List.filter_cons_of_neg (by simp [hx])]
      exact hrest
    · rw [List.filter_cons_of_pos (by simpa using hx), List.filter_cons_of_pos (by simpa using hx)]
      exact .cons ⟨rfl, rfl⟩ hrest

/-! ## Layouts do not depend on places -/

/-- Spans that differ in their places only begin with the same kind. -/
lemma SameButPlaces.head?_any {rs ss : List Span} (h : SameButPlaces rs ss) (kind : Kind) :
    rs.head?.any (·.kind == kind) = ss.head?.any (·.kind == kind) := by
  cases h with
  | nil => rfl
  | @cons r s rs ss hr _ =>
    have hkind : r.kind = s.kind := congrArg Lexeme.kind hr.1
    simp [hkind]

namespace Layout

variable {options : Options} {keywords : KeywordSet} {level : Nat} {prev : Option Span}

/-- Of a span its place does not count, and before the first span blanks do not count either. -/
lemma laidOut_cons_congr {r s : Span} {rs ss : List Span} (hlexeme : r.lexeme = s.lexeme)
    (hspaced : prev = none ∨ r.spaced = s.spaced) (hrest : SameButPlaces rs ss)
    (h : ∀ level, laidOut options keywords level (some s) rs
      = laidOut options keywords level (some s) ss) :
    laidOut options keywords level prev (r :: rs)
      = laidOut options keywords level prev (s :: ss) := by
  obtain ⟨kind, text, start, spaced, terminated⟩ := r
  obtain ⟨kind', text', start', spaced', terminated'⟩ := s
  simp only [Span.lexeme, Lexeme.mk.injEq] at hlexeme
  obtain ⟨rfl, rfl, rfl⟩ := hlexeme
  have hgap : gap options keywords level prev (⟨kind, text, start, spaced, terminated⟩ :: rs)
      = gap options keywords level prev (⟨kind, text, start', spaced', terminated⟩ :: ss) := by
    rw [gap, gap, movesUp, movesUp, hrest.head?_any]
    rcases hspaced with rfl | hspaced
    · rfl
    · obtain rfl : spaced = spaced' := hspaced
      rfl
  have hafter : ∀ level, laidOut options keywords level
      (some ⟨kind, text, start, spaced, terminated⟩) rs = laidOut options keywords level
        (some ⟨kind, text, start', spaced', terminated⟩) ss :=
    fun level => (laidOut_congr (by rfl) (by rfl) rs).trans (h level)
  rw [laidOut, laidOut, hgap, hafter]
  rfl

/-- Spans that differ in their places alone are laid out alike. -/
lemma laidOut_of_sameButPlaces {rs ss : List Span} (h : SameButPlaces rs ss) :
    laidOut options keywords level prev rs = laidOut options keywords level prev ss := by
  induction h generalizing level prev with
  | nil => rfl
  | cons hr hrest ih => exact laidOut_cons_congr hr.1 (.inr hr.2) hrest fun _ => ih

/-- Where a layout starts, it does not count whether blanks come before. -/
lemma laidOut_none_significantFrom (start start' : Nat) (spaced spaced' : Bool) (t : Text) :
    laidOut options keywords level none (significantFrom start spaced t)
      = laidOut options keywords level none (significantFrom start' spaced' t) := by
  unfold significantFrom
  cases lexemes t with
  | nil => rfl
  | cons x xs =>
    have hrest := sameButPlaces_locate (start + x.text.utf8Length) (start' + x.text.utf8Length)
      (x.kind == .blank) xs
    rw [locate, locate]
    by_cases hx : x.kind = .blank
    · rw [List.filter_cons_of_neg (by simp [hx]), List.filter_cons_of_neg (by simp [hx])]
      exact laidOut_of_sameButPlaces hrest
    · rw [List.filter_cons_of_pos (by simpa using hx), List.filter_cons_of_pos (by simpa using hx)]
      exact laidOut_cons_congr rfl (.inl rfl) hrest fun _ => laidOut_of_sameButPlaces hrest

end Layout

/-- Formatting from the spans of a text, wherever it is placed and whatever comes before. -/
lemma format_eq_laidOut (options : Options) (keywords : KeywordSet) (t : Text) (start : Nat)
    (spaced : Bool) : format options keywords t
      = Layout.laidOut options keywords 0 none (significantFrom start spaced t) := by
  rw [format, Layout.run_eq_laidOut (connected_significant t)]
  exact Layout.laidOut_none_significantFrom 0 start false spaced t

/-- **Formatting does not depend on the blanks of the source.** Texts that differ in their runs of
blanks alone are formatted alike. -/
theorem format_eq_of_isRespacing (options : Options) (keywords : KeywordSet) {x y : Text}
    (h : IsRespacing x y) : format options keywords y = format options keywords x := by
  have hcut := cut_lexemes x
  rw [format_eq_laidOut options keywords x 0 false]
  rcases h with h | ⟨s, spans, hlex, hkind, h⟩
  · rw [format_eq_laidOut options keywords y 0 false]
    exact Layout.laidOut_of_sameButPlaces (h.sameButPlaces hcut 0)
  · -- the blanks that are left out are noted in the first span of `x`, which does not count
    rw [format_eq_laidOut options keywords y 0 true]
    cases hx : lexemes x with
    | nil => simp [lex, hx, locate] at hlex
    | cons z zs =>
      rw [hx] at hcut
      rw [lex, hx, locate, List.cons.injEq] at hlex
      obtain ⟨rfl, rfl⟩ := hlex
      have hz : z.kind = .blank := hkind
      have hblank : (z.kind == .blank) = true := by simpa using hz
      rw [hblank] at h
      have hsource : significantFrom 0 false x
          = (locate (0 + z.text.utf8Length) true zs).filter (·.kind != .blank) := by
        rw [significantFrom, hx, locate, List.filter_cons_of_neg (by simp [hz]), hblank]
      rw [hsource]
      exact Layout.laidOut_of_sameButPlaces (h.sameButPlaces hcut.2 0)

/-- The blanks at both ends are dropped, a space becomes a tab, and the line feeds after a comment
become a carriage return and a space. -/
theorem format_eq_of_isRespacing_comment :
    IsRespacing " a --b\n\nc ".toList "a\t--b\r c".toList ∧
      format {} .builtin "a\t--b\r c".toList = format {} .builtin " a --b\n\nc ".toList := by
  have hspans : lex " a --b\n\nc ".toList =
      [⟨.blank, [' '], 0, false, true⟩, ⟨.word, ['a'], 1, true, true⟩,
        ⟨.blank, [' '], 2, false, true⟩, ⟨.comment, ['-', '-', 'b'], 3, true, true⟩,
        ⟨.blank, ['\n', '\n'], 6, false, true⟩, ⟨.word, ['c'], 8, true, true⟩,
        ⟨.blank, [' '], 9, false, true⟩] := by
    decide +kernel
  have hrespacing : IsRespacing " a --b\n\nc ".toList "a\t--b\r c".toList := by
    refine Or.inr ⟨_, _, hspans, rfl, .kept ?_⟩
    refine @Reblanked.replaced _ _ ['\t'] _ _ rfl (by simp) (List.all_eq_true.1 (by decide)) (by simp)
      (.kept ?_)
    have hreturn : isLineEnd '\r' = true := by decide
    refine @Reblanked.replaced _ _ ['\r', ' '] _ _ rfl (by simp) (List.all_eq_true.1 (by decide))
      (by simp [hreturn]) (.kept ?_)
    exact .trimmed rfl
  exact ⟨hrespacing, format_eq_of_isRespacing {} .builtin hrespacing⟩

end SqlIndent
