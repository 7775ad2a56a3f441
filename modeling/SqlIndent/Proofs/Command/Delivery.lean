import SqlIndent.Proofs.Command.Formatting
import SqlIndent.Proofs.Document.Positions
import SqlIndent.Proofs.Document.Reading

/-!
# The ways of handing out a formatted text

`format` prints a formatted text, prints it as a replacement in JSON, or writes it to its file. An
editor that reads the JSON and applies the replacement to the document comes to the text that the
other two hand out (`deliveries_agree`).
-/

namespace SqlIndent

namespace Job

variable (j : Job) {w : Work} {f : Found} {source : Text}

/-- An argument that stands for one file is handled as that file. -/
lemma run_format_single (w : Work) {path : Text} (hpath : isInputArgument path = false)
    (hfound : w.tree.discover path = .ok [f]) (write edits : Bool) :
    j.run w (.format write edits [path]) =
      j.formatFile (if write then .write else if edits then .edits else .print) w f := by
  simp only [run, formatArgument, List.foldl_cons, List.foldl_nil, hpath, hfound]
  rfl

/-- Without the order to write, a file that can be read adds its replacement to what is printed. -/
lemma printed_formatFile {d : Delivery} (hd : d ≠ .write)
    (hsource : w.tree.readAt f.location = .ok source) :
    (j.formatFile d w f).printed =
      w.printed ++ d.rendered (reformatting j.options j.keywords source) := by
  simp [formatFile, hsource, hd, Work.print]

/-- With the order to write, a file that holds a text is left with the formatted text, whether or
not it had to be written. -/
lemma content?_formatFile_write (hcontent : w.tree.content? f.location = some (encode source)) :
    (j.formatFile .write w f).tree.content? f.location =
      some (encode (format j.options j.keywords source)) := by
  rw [content?_formatFile_self, hcontent]
  simp [reformatted]

end Job

/-- **The ways of handing out a formatted text agree.** The place after some characters counts the
line feeds and the code units since the last one; places are in strictly increasing order, and only
the whole document leads to its end. So the range of the edit means the whole document. For a file
that holds a text, what `format` prints, what it leaves in the file when it writes, and what the
edit that it prints in one line of JSON makes of the text are all the formatted text. This holds for
all options and keywords, so for those of every invocation whose configuration loads. -/
theorem deliveries_agree (job : Job) (tree : FileTree) (input : ByteArray) {path : Text} {f : Found}
    {t : Text} (hpath : isInputArgument path = false) (hfound : tree.discover path = .ok [f])
    (hcontent : tree.content? f.location = some (encode t)) :
    let formatted := format job.options job.keywords t
    let edit := reformatting job.options job.keywords t
    let run := fun write edits : Bool => job.run { tree, input } (.format write edits [path])
    (∀ k, Position.after t k =
      ⟨(t.take k).count '\n', (Text.lastLine (t.take k)).utf16Length⟩) ∧
    (∀ j k, j < k → k ≤ t.length → Position.after t j < Position.after t k) ∧
    (∀ k ≤ t.length, Position.after t k = .endOf t ↔ k = t.length) ∧
    edit.range = ⟨Position.after t 0, Position.after t t.length⟩ ∧
    edit.applyTo? t = some formatted ∧
    (run false false).printed = formatted ∧
    (∀ edits, (run true edits).tree.content? f.location = some (encode formatted)) ∧
    (∃ line, (run false true).printed = line ++ ['\n'] ∧ '\n' ∉ line ∧
      Replacement.parse? (run false true).printed = some edit) ∧
    ∀ (i : Invocation) (directory : Text) (config : Config) (write edits : Bool),
      Config.lookup tree i.config tree.herePath directory = .ok config →
      i.options config.format = job.options → config.keywordSet = job.keywords →
      Invocation.run { i with command := .format write edits [path] } tree input directory =
        run write edits := by
  intro formatted edit run
  have hrun : ∀ write edits, run write edits = job.formatFile
      (if write then .write else if edits then .edits else .print) { tree, input } f :=
    job.run_format_single _ hpath hfound
  have hsource : tree.readAt f.location = .ok t :=
    (FileTree.readAt_eq_ok_iff (by simp [hcontent])).2 hcontent
  have hrange : edit.range = ⟨Position.after t 0, Position.after t t.length⟩ := by
    rw [Position.after_length]
    rfl
  refine ⟨Position.after_eq_endOf t, fun j k => Position.after_lt_after,
    fun k => Position.after_eq_endOf_iff, hrange, Replacement.applyTo?_whole t formatted,
    ?_, ?_, ?_, ?_⟩
  · rw [hrun, job.printed_formatFile (by decide) hsource]
    rfl
  · intro edits
    rw [hrun]
    exact job.content?_formatFile_write hcontent
  · have hprinted : (run false true).printed = edit.toJson ++ ['\n'] := by
      rw [hrun, job.printed_formatFile (by decide) hsource]
      rfl
    rw [hprinted]
    exact ⟨edit.toJson, rfl, edit.lineFeed_notMem_toJson, edit.parse?_toJson⟩
  · intro i directory config write edits hconfig hoptions hkeywords
    have hjob : job = { options := i.options config.format, keywords := config.keywordSet } := by
      rw [hoptions, hkeywords]
    simp only [Invocation.run, hconfig, run, hjob]
    rfl

/-- A tree with the working directory `/w`, in which there is one file. Its text has pairs of code
units and ends its lines in two ways. -/
def pairTree : FileTree where
  nodes := [(["w".toList], .directory),
    (["w".toList, "p.sql".toList], .file (encode "select '😀'\r\nfrom t\n\t--😀".toList))]
  increasing := by decide
  closed := by decide
  named := by decide
  here := ["w".toList]
  hereIsDirectory := by decide

/-- Two characters take two code units each, so that the last line ends at the fifth, and one line
ends in two characters: the edit that is printed for the file, found by a path that goes up and down
again, still covers the whole document. -/
theorem deliveries_agree_pairTree :
    let t := "select '😀'\r\nfrom t\n\t--😀".toList
    let i : Invocation :=
      { command := .format false true ["../w/p.sql".toList], config := none, lowercase := false,
        indentSize := none, verbose := false }
    let done := i.run pairTree .empty []
    Position.endOf t = ⟨2, 5⟩ ∧
    ∃ edit, Replacement.parse? done.printed = some edit ∧ edit.range.stop = .endOf t ∧
      edit.applyTo? t = some (format {} .builtin t) := by
  intro t i done
  have hconfig : Config.lookup pairTree i.config pairTree.herePath [] = .ok {} := rfl
  obtain ⟨-, -, -, -, happly, -, -, ⟨-, -, -, hparse⟩, hinvocation⟩ :=
    deliveries_agree ⟨{}, .builtin⟩ pairTree .empty
      (show isInputArgument "../w/p.sql".toList = false by decide)
      (show pairTree.discover "../w/p.sql".toList =
        .ok [⟨"../w/p.sql".toList, ["w".toList, "p.sql".toList]⟩] from rfl)
      (show pairTree.content? ["w".toList, "p.sql".toList] = some (encode t) from rfl)
  have hdone := hinvocation i [] {} false true hconfig rfl rfl
  rw [← hdone] at hparse
  exact ⟨by decide, _, hparse, rfl, happly⟩

end SqlIndent
