import SqlIndent.Proofs.Layout.Reattached

/-!
# Casing and layout

Upper-casing changes the pieces of words, even their lengths, but no gap: breaks, spaces and levels
of indentation are decided by the source. So the two texts that a source is formatted to, with the
case kept and upper-cased, have the same gaps around the pieces of the same spans, and differ in the
case of words alone (`format_in_both_casings`).
-/

namespace SqlIndent

namespace Text

/-- Texts one after another, with a gap before each of them and one at the end. -/
def woven (gaps : Nat → Text) (pieces : List Text) : Text :=
  (pieces.zipIdx.flatMap fun (p, i) => gaps i ++ p) ++ gaps pieces.length

lemma upper_append (s t : Text) : upper (s ++ t) = upper s ++ upper t :=
  List.flatMap_append

/-- Upper-casing goes through gaps and pieces. -/
lemma upper_woven (gaps : Nat → Text) (pieces : List Text) :
    upper (woven gaps pieces) = woven (fun i => upper (gaps i)) (pieces.map upper) := by
  have hpieces : ∀ start, upper ((pieces.zipIdx start).flatMap fun (p, i) => gaps i ++ p)
      = ((pieces.map upper).zipIdx start).flatMap fun (p, i) => upper (gaps i) ++ p := by
    induction pieces with
    | nil => exact fun _ => rfl
    | cons p pieces ih =>
      intro start
      simp only [List.map_cons, List.zipIdx_cons, List.flatMap_cons, upper_append, ih]
  rw [woven, woven, upper_append, hpieces, List.length_map]

end Text

namespace Layout

variable {keywords : KeywordSet}

/-- Gaps do not depend on the casing of words. -/
lemma gapAt_congr {options options' : Options} (h : options.indentSize = options'.indentSize)
    (spans : List Span) (i : Nat) :
    gapAt options keywords spans i = gapAt options' keywords spans i := by
  unfold gapAt
  cases spans.drop i with
  | nil => simp only [gap, h]
  | cons s rest => simp only [gap, plainGap, h]

/-- A formatted text is woven of its gaps and pieces. -/
lemma format_eq_woven (options : Options) (keywords : KeywordSet) (t : Text) :
    format options keywords t
      = Text.woven (gapAt options keywords (significant t))
        ((significant t).map (piece options)) := by
  have hlaidOut := @laidOut_eq_flatMap options keywords [] (significant t)
  rw [format, run_eq_laidOut (connected_significant t), Text.woven, List.length_map,
    List.zipIdx_map, List.flatMap_map]
  exact hlaidOut

/-- The piece of a word is upper-cased, all others stay as they are. -/
lemma piece_upper (indentSize : Nat) (s : Span) :
    piece ⟨true, indentSize⟩ s
      = if s.isCode then (piece ⟨false, indentSize⟩ s).upper else piece ⟨false, indentSize⟩ s := by
  unfold piece Span.isCode
  cases s.kind <;> rfl

/-- After upper-casing it does not matter whether the pieces were upper-cased before. -/
lemma upper_piece_upper (indentSize : Nat) (s : Span) :
    (piece ⟨true, indentSize⟩ s).upper = (piece ⟨false, indentSize⟩ s).upper := by
  rw [piece_upper]
  split
  · rw [Text.upper_upper]
  · rfl

lemma isBlank_of_mem_gapAt {options : Options} {spans : List Span} {i : Nat} :
    ∀ c ∈ gapAt options keywords spans i, Text.isBlank c = true :=
  isBlank_of_mem_gap

end Layout

open Layout

/-- **Casing does not influence the layout.** With the case kept and upper-cased, a text is formatted
to the same gaps around the pieces of the same spans. The pieces of words and punctuation are those
of the source in the one text and upper-cased in the other, where upper-casing them again changes
nothing; those of literals and comments are the same. So the two texts differ in case only. -/
theorem format_in_both_casings (indentSize : Nat) (keywords : KeywordSet) (t : Text) :
    let kept : Options := ⟨false, indentSize⟩
    let upper : Options := ⟨true, indentSize⟩
    (∃ gaps : Nat → Text, (∀ i, ∀ c ∈ gaps i, Text.isBlank c = true) ∧
      format kept keywords t = Text.woven gaps ((significant t).map (piece kept)) ∧
      format upper keywords t = Text.woven gaps ((significant t).map (piece upper))) ∧
    (∀ s ∈ significant t, s.isCode = true →
      piece kept s = s.text ∧ piece upper s = (piece kept s).upper ∧
        (piece upper s).upper = piece upper s) ∧
    (∀ s ∈ significant t, s.isCode = false → piece upper s = piece kept s) ∧
    (format upper keywords t).upper = (format kept keywords t).upper := by
  intro kept upper
  have hgaps : gapAt upper keywords (significant t) = gapAt kept keywords (significant t) :=
    funext fun i => gapAt_congr rfl _ i
  refine ⟨⟨gapAt kept keywords (significant t), fun i => isBlank_of_mem_gapAt,
    format_eq_woven kept keywords t, ?_⟩, ?_, ?_, ?_⟩
  · rw [format_eq_woven upper keywords t, hgaps]
  · intro s _ hcode
    have hupper : piece upper s = (piece kept s).upper := by
      rw [piece_upper, if_pos hcode]
    refine ⟨?_, hupper, ?_⟩
    · rw [piece_code hcode]
      rfl
    · rw [hupper, Text.upper_upper]
  · intro s _ hcode
    rw [piece_upper, if_neg (by simp [hcode])]
  · rw [format_eq_woven, format_eq_woven, hgaps, Text.upper_woven, Text.upper_woven]
    have hpieces : ((significant t).map (piece upper)).map Text.upper
        = ((significant t).map (piece kept)).map Text.upper := by
      rw [List.map_map, List.map_map]
      exact List.map_congr_left fun s _ => upper_piece_upper indentSize s
    rw [hpieces]

end SqlIndent
