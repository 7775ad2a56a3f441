import SqlIndent.Proofs.Buffer

/-!
# Edits between two texts

Between two texts that are written, the buffer is edited by spaces, line breaks, trims and changes
of level. All that such edits add or take away is blanks at the end of the output. So a line break
absorbs what came before it: there is one break, at the level then in force, however many edits were
made (`newline_absorbs_blankEdits`).
-/

namespace SqlIndent

/-- An edit of the output buffer that writes no text. -/
inductive BlankEdit where
  | space
  | newline
  | trim
  | indent
  | dedent
deriving DecidableEq, Repr

/-- Whether an edit leaves the current line where it is. -/
def BlankEdit.staysOnLine : BlankEdit → Bool
  | space | indent | dedent => true
  | newline | trim => false

namespace Buffer

/-- The buffer after one edit. -/
def edit (b : Buffer) : BlankEdit → Buffer
  | .space => b.space
  | .newline => b.newline
  | .trim => b.trim
  | .indent => b.indent
  | .dedent => b.dedent

/-- The buffer after edits, one after another. -/
def editAll (b : Buffer) (edits : List BlankEdit) : Buffer :=
  edits.foldl edit b

variable {b : Buffer}

/-! ## Any edits -/

/-- A space is lost when the trailing blanks are dropped. -/
lemma trimEnd_output_space (b : Buffer) :
    Text.trimEnd b.space.output = Text.trimEnd b.output := by
  unfold space
  split
  · rfl
  · rw [output_write]
    exact Text.trimEnd_append_blanks (List.forall_mem_singleton.2 (by decide))

/-- One edit changes no more than the blanks at the end. -/
lemma trimEnd_output_edit (b : Buffer) (e : BlankEdit) :
    Text.trimEnd (b.edit e).output = Text.trimEnd b.output := by
  cases e with
  | space => exact trimEnd_output_space b
  | newline =>
    rw [edit, output_newline_eq, Text.trimEnd_append_blanks isBlank_of_mem_lineBreak,
      Text.trimEnd_trimEnd]
  | trim => rw [edit, output_trim, Text.trimEnd_trimEnd]
  | indent => rfl
  | dedent => rfl

/-- Whatever the edits are, nothing but trailing blanks comes or goes. -/
lemma trimEnd_output_editAll (b : Buffer) (edits : List BlankEdit) :
    Text.trimEnd (b.editAll edits).output = Text.trimEnd b.output := by
  induction edits generalizing b with
  | nil => rfl
  | cons e edits ih => rw [editAll, List.foldl_cons, ← editAll, ih, trimEnd_output_edit]

lemma indentSize_edit (b : Buffer) (e : BlankEdit) : (b.edit e).indentSize = b.indentSize := by
  cases e <;> simp [edit]

lemma indentSize_editAll (b : Buffer) (edits : List BlankEdit) :
    (b.editAll edits).indentSize = b.indentSize := by
  induction edits generalizing b with
  | nil => rfl
  | cons e edits ih => rw [editAll, List.foldl_cons, ← editAll, ih, indentSize_edit]

/-! ## Edits at the start of a line -/

/-- Whether a line starts is a question about the output alone. -/
lemma atLineStart_congr {c : Buffer} (h : b.output = c.output) :
    b.atLineStart = c.atLineStart := by
  rw [atLineStart, atLineStart, reversed_eq, reversed_eq, h]

/-- At the start of a line no space is written, so the output stays as it is. -/
lemma output_edit_of_atLineStart {e : BlankEdit} (hline : b.atLineStart = true)
    (he : e.staysOnLine = true) : (b.edit e).output = b.output := by
  cases e with
  | space => rw [edit, space_of_atLineStart hline]
  | indent => rfl
  | dedent => rfl
  | newline => simp [BlankEdit.staysOnLine] at he
  | trim => simp [BlankEdit.staysOnLine] at he

/-- At the start of a line, edits that stay on the line write nothing at all. -/
lemma output_editAll_of_atLineStart {edits : List BlankEdit} (hline : b.atLineStart = true)
    (hedits : ∀ e ∈ edits, e.staysOnLine = true) : (b.editAll edits).output = b.output := by
  induction edits generalizing b with
  | nil => rfl
  | cons e edits ih =>
    have houtput := output_edit_of_atLineStart hline (hedits e (by simp))
    have hline' : (b.edit e).atLineStart = true := by rw [atLineStart_congr houtput, hline]
    rw [editAll, List.foldl_cons, ← editAll, ih hline' fun e he => hedits e (by simp [he]), houtput]

lemma atLineStart_newline (b : Buffer) : b.newline.atLineStart = true :=
  atLineStart_of_lineBreak (output_newline_eq b)

/-- **A line break absorbs edits.** Let any edits be made, then a line break, then edits that stay
on the new line. The output is what it was at first without its trailing blanks, then one line feed
and the indentation for the level in force at the break; through all the later edits it stays at the
start of a line. Trimmed once more, it is what it was at first without its trailing blanks, whatever
the edits were. As for `newline`, the product of the level and the indentation is taken to fit a machine word. -/
theorem newline_absorbs_blankEdits (b : Buffer) (before after : List BlankEdit)
    (hafter : ∀ e ∈ after, e.staysOnLine = true) :
    let broken := (b.editAll before).newline
    (broken.editAll after).output = Text.trimEnd b.output
      ++ '\n' :: List.replicate ((b.editAll before).level * b.indentSize) ' ' ∧
    (∀ done, done <+: after → (broken.editAll done).atLineStart = true) ∧
    (broken.editAll after).trim.output = Text.trimEnd b.output := by
  intro broken
  have hline : broken.atLineStart = true := atLineStart_newline _
  have hstays : ∀ done, done <+: after → (broken.editAll done).output = broken.output :=
    fun done hdone => output_editAll_of_atLineStart hline fun e he => hafter e (hdone.mem he)
  have hbroken : broken.output = Text.trimEnd b.output
      ++ '\n' :: List.replicate ((b.editAll before).level * b.indentSize) ' ' := by
    rw [output_newline, trimEnd_output_editAll, indentSize_editAll]
  refine ⟨?_, ?_, ?_⟩
  · rw [hstays after List.prefix_rfl, hbroken]
  · intro done hdone
    rw [atLineStart_congr (hstays done hdone), hline]
  · rw [output_trim, trimEnd_output_editAll, output_newline_eq,
      Text.trimEnd_append_blanks isBlank_of_mem_lineBreak, Text.trimEnd_trimEnd,
      trimEnd_output_editAll]

/-- The output ends in a wide space, a space and a tab. The edits before the line break write more
blanks, break a line of their own and change the level there and back; those after it change the
level and ask for spaces. -/
theorem newline_absorbs_blankEdits_wideBlanks :
    let b : Buffer := { reversed := "BEGIN\n\u2003 \t".toList.reverse, indentSize := 4, level := 1 }
    let before : List BlankEdit := [.space, .indent, .newline, .trim, .space, .dedent, .space]
    let after : List BlankEdit := [.indent, .space, .indent, .space]
    (∀ e ∈ after, e.staysOnLine = true) ∧
    ((b.editAll before).newline.editAll after).output = "BEGIN\n    ".toList ∧
    ((b.editAll before).newline.editAll after).trim.output = "BEGIN".toList := by
  intro b before after
  have hafter : ∀ e ∈ after, e.staysOnLine = true := by decide
  obtain ⟨houtput, -, htrim⟩ := newline_absorbs_blankEdits b before after hafter
  exact ⟨hafter, houtput.trans (by decide), htrim.trans (by decide)⟩

end Buffer
end SqlIndent
