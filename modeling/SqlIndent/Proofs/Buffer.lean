import SqlIndent.Buffer
import SqlIndent.Proofs.Text.Blank

/-!
# The end of the output

The buffer is inspected at its end only: is the current line still empty, does a lone comma stand
on it? Both questions are answered here from the output, whatever the buffer went through before:
a solid output ends in the middle of a line, an output that ends in a line break at the start of
one.
-/

namespace SqlIndent

/-- A line feed and the indentation of the line it starts. -/
def lineBreak (indentSize level : Nat) : Text :=
  '\n' :: List.replicate (level * indentSize) ' '

lemma isBlank_of_mem_lineBreak {indentSize level : Nat} :
    ∀ c ∈ lineBreak indentSize level, Text.isBlank c = true := by
  intro c hc
  rcases List.mem_cons.1 hc with rfl | hc
  · decide
  · rw [(List.mem_replicate.1 hc).2]
    decide

namespace Buffer

lemma reversed_eq (b : Buffer) : b.reversed = b.output.reverse := by
  simp [output]

/-! ## What the operations keep -/

@[simp] lemma level_write (b : Buffer) (t : Text) : (b.write t).level = b.level := rfl

@[simp] lemma level_trim (b : Buffer) : b.trim.level = b.level := rfl

@[simp] lemma level_newline (b : Buffer) : b.newline.level = b.level := rfl

@[simp] lemma level_space (b : Buffer) : b.space.level = b.level := by
  unfold space
  split <;> rfl

@[simp] lemma indentSize_write (b : Buffer) (t : Text) : (b.write t).indentSize = b.indentSize :=
  rfl

@[simp] lemma indentSize_trim (b : Buffer) : b.trim.indentSize = b.indentSize := rfl

@[simp] lemma indentSize_newline (b : Buffer) : b.newline.indentSize = b.indentSize := rfl

@[simp] lemma indentSize_space (b : Buffer) : b.space.indentSize = b.indentSize := by
  unfold space
  split <;> rfl

@[simp] lemma indentSize_indent (b : Buffer) : b.indent.indentSize = b.indentSize := rfl

@[simp] lemma indentSize_dedent (b : Buffer) : b.dedent.indentSize = b.indentSize := rfl

/-- A new line drops the trailing blanks, ends the line and indents the next one. -/
lemma output_newline_eq (b : Buffer) :
    b.newline.output = Text.trimEnd b.output ++ lineBreak b.indentSize b.level :=
  output_newline b

lemma isEmpty_iff (b : Buffer) : b.isEmpty = true ↔ b.output = [] := by
  simp [isEmpty, output]

/-- The spaces of an indentation are skipped together. -/
lemma dropWhile_replicate_append (n : Nat) (t : Text) :
    (List.replicate n ' ' ++ t).dropWhile (· == ' ') = t.dropWhile (· == ' ') := by
  apply List.dropWhile_append_of_pos
  intro c hc
  simp [(List.mem_replicate.1 hc).2]

/-! ## The start of a line -/

lemma atLineStart_of_nil {b : Buffer} (h : b.output = []) : b.atLineStart = true := by
  simp [atLineStart, reversed_eq, h]

/-- Right after a line break the output is at the start of a line, however far it is indented. -/
lemma atLineStart_of_lineBreak {b : Buffer} {t : Text} {indentSize level : Nat}
    (h : b.output = t ++ lineBreak indentSize level) : b.atLineStart = true := by
  unfold atLineStart
  rw [reversed_eq, h, List.reverse_append, lineBreak, List.reverse_cons, List.reverse_replicate,
    List.append_assoc, dropWhile_replicate_append]
  rfl

/-- After a character that is no blank the output is not at the start of a line. -/
lemma atLineStart_of_solid {b : Buffer} (h : Text.Solid b.output) : b.atLineStart = false := by
  obtain ⟨t, c, ht, -, hspace, hfeed⟩ := h.exists_concat
  simp [atLineStart, reversed_eq, ht, hspace, hfeed]

/-- After a character that is no blank a space is written. -/
lemma output_space_of_solid {b : Buffer} (h : Text.Solid b.output) :
    b.space.output = b.output ++ [' '] := by
  simp [space, atLineStart_of_solid h]

/-- At the start of a line no space is written. -/
lemma space_of_atLineStart {b : Buffer} (h : b.atLineStart = true) : b.space = b := by
  simp [space, h]

/-! ## Lone commas -/

/-- A comma alone on its line is taken back with its line break. -/
lemma withoutLoneComma?_of_lineBreak {b : Buffer} {t : Text} {indentSize level : Nat}
    (h : b.output = t ++ lineBreak indentSize level ++ [',']) :
    b.withoutLoneComma? = some { b with reversed := t.reverse } := by
  have hreversed : b.reversed
      = ',' :: (List.replicate (level * indentSize) ' ' ++ '\n' :: t.reverse) := by
    rw [reversed_eq, h]
    simp [lineBreak]
  have hrest : ('\n' :: t.reverse).dropWhile (· == ' ') = '\n' :: t.reverse := rfl
  simp only [withoutLoneComma?, hreversed, dropWhile_replicate_append, hrest]

/-- Where the output ends in something else, there is no lone comma. -/
lemma withoutLoneComma?_of_getLast? {b : Buffer} (h : b.output.getLast? ≠ some ',') :
    b.withoutLoneComma? = none := by
  rw [← List.head?_reverse, ← reversed_eq] at h
  unfold withoutLoneComma?
  split
  next rest hrest => simp [hrest] at h
  · rfl

/-- A comma with text before it on its line does not stand alone. -/
lemma withoutLoneComma?_of_solid {b : Buffer} {t : Text} {n : Nat} (ht : t = [] ∨ Text.Solid t)
    (h : b.output = t ++ List.replicate n ' ' ++ [',']) : b.withoutLoneComma? = none := by
  have hreversed : b.reversed = ',' :: (List.replicate n ' ' ++ t.reverse) := by
    rw [reversed_eq, h]
    simp
  simp only [withoutLoneComma?, hreversed, dropWhile_replicate_append]
  rcases ht with rfl | hsolid
  · rfl
  · obtain ⟨s, c, rfl, -, hspace, hfeed⟩ := hsolid.exists_concat
    simp [hspace, hfeed]

/-- What is taken back with a lone comma is a line break and the comma. -/
lemma output_of_withoutLoneComma? {b q : Buffer} (h : b.withoutLoneComma? = some q) :
    ∃ blanks, b.output = q.output ++ blanks ++ [','] ∧ ∀ c ∈ blanks, Text.isBlank c = true := by
  unfold withoutLoneComma? at h
  split at h
  next rest hrest =>
    split at h
    next before hbefore =>
      cases h
      have hspaces : ∀ c ∈ rest.takeWhile (· == ' '), Text.isBlank c = true := by
        intro c hc
        have hspace : c = ' ' := by simpa using List.mem_takeWhile_imp hc
        rw [hspace]
        decide
      have hreversed : b.reversed = ',' :: (rest.takeWhile (· == ' ') ++ '\n' :: before) := by
        rw [hrest, ← hbefore, List.takeWhile_append_dropWhile]
      refine ⟨'\n' :: (rest.takeWhile (· == ' ')).reverse, ?_, ?_⟩
      · rw [output, hreversed]
        simp [output]
      · intro c hc
        rcases List.mem_cons.1 hc with rfl | hc
        · decide
        · exact hspaces c (List.mem_reverse.1 hc)
    · cases h
  · cases h

/-! ## Text that stays

Only trailing blanks and a comma are ever taken back, so a beginning of the output that ends in any
other character stays.
-/

variable {p : Text} {b : Buffer}

lemma isPrefix_write (h : p <+: b.output) (t : Text) : p <+: (b.write t).output := by
  rw [output_write]
  exact h.trans (List.prefix_append _ _)

/-- Trimming does not reach a beginning that ends in no blank. -/
lemma isPrefix_trim (hp : Text.Solid p) (h : p <+: b.output) : p <+: b.trim.output := by
  rw [output_trim]
  exact hp.isPrefix_trimEnd h

lemma isPrefix_newline (hp : Text.Solid p) (h : p <+: b.output) : p <+: b.newline.output :=
  isPrefix_write (isPrefix_trim hp h) _

lemma isPrefix_space (h : p <+: b.output) : p <+: b.space.output := by
  unfold space
  split
  · exact h
  · exact isPrefix_write h _

/-- Taking back a lone comma does not reach a beginning that ends in neither a blank nor a comma. -/
lemma isPrefix_withoutLoneComma? {q : Buffer} (hp : Text.Firm p)
    (hq : b.withoutLoneComma? = some q) (h : p <+: b.output) : p <+: q.output := by
  obtain ⟨blanks, houtput, hblanks⟩ := output_of_withoutLoneComma? hq
  rw [houtput] at h
  rcases List.prefix_concat_iff.1 h with rfl | h
  · -- `p` would end in the comma
    exact absurd rfl (Text.firm_concat.1 hp).2
  · have htrim := hp.solid.isPrefix_trimEnd h
    rw [Text.trimEnd_append_blanks hblanks] at htrim
    exact htrim.trans (Text.trimEnd_isPrefix _)

end Buffer
end SqlIndent
