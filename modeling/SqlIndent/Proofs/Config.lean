import SqlIndent.Command.Run
import SqlIndent.Proofs.FileTree
import SqlIndent.Proofs.Keyword.Canonical
import SqlIndent.Proofs.Toml.Documents

/-!
# Configurations are read back

A written configuration is read as the options and the word lists it was written for, and the word
lists of a keyword set describe the set itself. So a printed configuration can be used in the place
of the one that was in force when it was printed.
-/

namespace SqlIndent

open Toml

section Written

variable (options : Options) (lists : KeywordLists)

/-- What the lines of a written configuration say. -/
def configStatements : List Statement :=
  [.header ["format".toList],
   .assign ["uppercase".toList] (.boolean options.uppercase),
   .assign ["indent_size".toList] (.integer options.indentSize),
   .header ["keywords".toList],
   .assign ["keywords".toList] (.array (lists.keywords.map .string)),
   .assign ["indent".toList] (.array (lists.indent.map .string)),
   .assign ["newline".toList] (.array (lists.newline.map .string))]

/-- The table of the layout options. -/
def formatEntries : Entries :=
  [("uppercase".toList, .boolean options.uppercase),
   ("indent_size".toList, .integer options.indentSize)]

/-- The table of the word lists. -/
def keywordsEntries : Entries :=
  [("keywords".toList, .array (lists.keywords.map .string)),
   ("indent".toList, .array (lists.indent.map .string)),
   ("newline".toList, .array (lists.newline.map .string))]

/-- The table of a whole configuration. -/
def configEntries : Entries :=
  [("format".toList, .table .header (formatEntries options)),
   ("keywords".toList, .table .header (keywordsEntries lists))]

/-- The lines of a written configuration describe its table. -/
lemma ofStatements?_configStatements :
    ofStatements? (configStatements options lists) = some (configEntries options lists) := by
  rfl

/-- An array of strings is read as their texts. -/
lemma texts?_strings (ts : List Text) : (Value.array (ts.map .string)).texts? = some ts := by
  simp only [Value.texts?, Value.items?, Option.bind_some]
  induction ts with
  | nil => rfl
  | cons t ts ih => simp [Value.text?, ih]

/-- The table of the layout options is read as the options. -/
lemma ofToml?_formatEntries :
    Options.ofToml? (.table .header (formatEntries options)) = some options := by
  rfl

/-- The table of the word lists is read as the lists. -/
lemma ofToml?_keywordsEntries :
    KeywordLists.ofToml? (.table .header (keywordsEntries lists)) = some lists := by
  have hfields : (Value.table .header (keywordsEntries lists)).fields?
      ["keywords".toList, "indent".toList, "newline".toList] =
        some ((keywordsEntries lists).map fun entry => some entry.2) := rfl
  rw [KeywordLists.ofToml?, hfields]
  simp only [keywordsEntries, List.map_cons, List.map_nil, Option.bind_eq_bind, Option.bind_some,
    readField, texts?_strings]
  rfl

/-- The tables are read as they were written. -/
lemma ofToml?_configEntries :
    Config.ofToml? (.table .header (configEntries options lists)) =
      some { format := options, keywords := some lists } := by
  have hfields : (Value.table .header (configEntries options lists)).fields?
      ["format".toList, "keywords".toList] =
        some ((configEntries options lists).map fun entry => some entry.2) := rfl
  rw [Config.ofToml?, hfields]
  simp only [configEntries, List.map_cons, List.map_nil, Option.bind_eq_bind, Option.bind_some,
    readField, ofToml?_formatEntries, ofToml?_keywordsEntries, Option.map_some]
  rfl

variable {options}

/-- Each line is read as what it was written for, and nothing else is there. -/
lemma statements?_writeConfig (h : options.indentSize ≤ maxWritableIndent) :
    statements? (writeConfig options lists) = some (configStatements options lists) := by
  have hsize : options.indentSize < Nat.pow 2 63 := by
    have hpos : 0 < Nat.pow 2 63 := by decide
    rw [maxWritableIndent] at h
    omega
  have htext : writeConfig options lists =
      [] ++ (writeHeader "format" ++
        (writeAssignment "uppercase" (writeBool options.uppercase) ++
          (writeAssignment "indent_size" (Nat.toDigits 10 options.indentSize) ++
            (['\n'] ++ (writeHeader "keywords" ++
              (writeAssignment "keywords" (writeStrings lists.keywords) ++
                (writeAssignment "indent" (writeStrings lists.indent) ++
                  (writeAssignment "newline" (writeStrings lists.newline) ++ [])))))))) := by
    simp only [writeConfig, List.append_assoc, List.nil_append, List.append_nil]
  rw [htext, statements?_writeHeader (by decide) (Or.inl rfl),
    statements?_writeAssignment (by decide) (isWritten_writeBool _),
    statements?_writeAssignment (by decide) (isWritten_toDigits hsize),
    statements?_writeHeader (by decide) (Or.inr rfl),
    statements?_writeAssignment (by decide) (isWritten_writeStrings _),
    statements?_writeAssignment (by decide) (isWritten_writeStrings _),
    statements?_writeAssignment (by decide) (isWritten_writeStrings _), statements?_nil]
  rfl

/-- **A written configuration is read back.** -/
lemma parse?_writeConfig (h : options.indentSize ≤ maxWritableIndent) :
    Config.parse? (writeConfig options lists) =
      some { format := options, keywords := some lists } := by
  have hmark : skipByteOrderMark (writeConfig options lists) = writeConfig options lists := rfl
  rw [Config.parse?, parse?, hmark, statements?_writeConfig lists h, Option.bind_some,
    ofStatements?_configStatements, Option.bind_some, ofToml?_configEntries]

end Written

/-! ## Running with a written configuration -/

/-- The path of the configuration file, where there is one. -/
def Invocation.configPath (i : Invocation) (tree : FileTree) : Text :=
  i.config.getD (Path.join tree.herePath Config.fileName)

/-- A path that leads to a regular file with a text is read as that text. -/
lemma FileTree.read_of_locate? {tree : FileTree} {path text : Text} {l : Location}
    (hlocate : tree.locate? path = some l) (hcontent : tree.content? l = some (encode text)) :
    tree.read path = .ok text := by
  have hresolve : tree.resolve path = .ok l := by
    unfold locate? at hlocate
    cases h : tree.resolve path with
    | error cause => simp [h, Except.toOption] at hlocate
    | ok place =>
      rw [h] at hlocate
      exact congrArg Except.ok (Option.some.inj hlocate)
  rw [read, hresolve]
  exact (readAt_eq_ok_iff (by simp [hcontent])).2 hcontent

/-- A configuration file in its place is the configuration in force. -/
lemma Config.lookup_of_content? {i : Invocation} {tree : FileTree} {l : Location} {text : Text}
    {config : Config} (hlocate : tree.locate? (i.configPath tree) = some l)
    (hcontent : tree.content? l = some (encode text)) (hparse : parse? text = some config)
    (directory : Text) : lookup tree i.config tree.herePath directory = .ok config := by
  have hload : ∀ shown, load tree (i.configPath tree) shown = .ok config := by
    intro shown
    rw [load, FileTree.read_of_locate? hlocate hcontent]
    simp only [hparse]
  unfold Invocation.configPath at hlocate hload
  unfold lookup
  cases hexplicit : i.config with
  | some path =>
    rw [hexplicit] at hload
    exact hload path
  | none =>
    rw [hexplicit, Option.getD_none] at hload hlocate
    -- the file of the directory counts only if it is there
    have hfile : tree.isFile (Path.join tree.herePath fileName) = true := by
      simp [FileTree.isFile, hlocate, hcontent]
    simp only [hfile, if_true]
    exact hload _

/-- **A printed configuration stands for the one in force.** Whatever the words of the lists are, it
is read as the options and the lists of the keyword set, which describe the set itself. Put in the
place of the configuration file it leads every command to the same job, as long as the command line
adds nothing of its own to the options; so all texts are formatted alike, and the configuration is
printed once more as it was. -/
theorem config_printed_and_read (options : Options) (lists : KeywordLists)
    (h : options.indentSize ≤ maxWritableIndent) :
    let keywords := KeywordSet.ofLists lists
    let job : Job := { options, keywords }
    let config : Config := { format := options, keywords := some keywords.toLists }
    let written := writeConfig options keywords.toLists
    (∀ w, job.run w .config = w.print written) ∧
    Config.parse? written = some config ∧
    config.keywordSet = keywords ∧
    (∀ t, format config.format config.keywordSet t = format options keywords t) ∧
    ∀ (i : Invocation) (tree : FileTree) (l : Location) (input : ByteArray) (directory : Text),
      tree.locate? (i.configPath tree) = some l → tree.content? l = some (encode written) →
      i.options options = options →
        i.run tree input directory = job.run { tree, input } i.command ∧
        (i.command = .config →
          (i.run tree input directory).printed = written ∧
          (i.run tree input directory).exitCode = 0) := by
  intro keywords job config written
  have hshow : ∀ w, job.run w .config = w.print written := by
    intro w
    show job.showConfig w = w.print written
    rw [Job.showConfig, if_pos h]
  have hparse : Config.parse? written = some config := parse?_writeConfig keywords.toLists h
  have hkeywords : config.keywordSet = keywords := KeywordSet.ofLists_toLists_ofLists lists
  refine ⟨hshow, hparse, hkeywords, fun t => by rw [hkeywords], ?_⟩
  intro i tree l input directory hlocate hcontent hoptions
  have hrun : i.run tree input directory = job.run { tree, input } i.command := by
    have hlookup := Config.lookup_of_content? hlocate hcontent hparse directory
    simp only [Invocation.run, hlookup, hkeywords]
    rw [show i.options config.format = options from hoptions]
  refine ⟨hrun, fun hcommand => ?_⟩
  rw [hrun, hcommand, hshow]
  exact ⟨rfl, rfl⟩

/-- Words that need every form of a string, change under upper-casing, or are left out. -/
def awkwardLists : KeywordLists where
  keywords := ["straße", " ﬁn\t", "  ", "a\"b\\'c", "x\ny\x01", "'''\"\"\"\\"].map String.toList
  indent := ["end", "case"].map String.toList
  newline := ["\"'", "\\"].map String.toList

/-- The configuration that is printed for them, with the largest indentation. -/
def awkwardConfig : Text :=
  ["[format]\n", "uppercase = false\n", "indent_size = 9223372036854775807\n", "\n",
    "[keywords]\n",
    "keywords = [\"'''\\\"\\\"\\\"\\\\\", '''A\"B\\'C''', ", "\"FIN\", \"STRASSE\", ",
    "\"\"\"\nX\nY\\u0001\"\"\"]\n", "indent = [\"CASE\"]\n",
    "newline = [\"\"\"\"'\"\"\", '\\']\n"].flatMap String.toList

/-- A tree in which it is the configuration file of the working directory `/w`. -/
def awkwardTree : FileTree where
  nodes := [(["w".toList], .directory),
    (["w".toList, Config.fileName], .file (encode awkwardConfig))]
  increasing := by decide
  closed := by decide
  named := by decide
  here := ["w".toList]
  hereIsDirectory := by decide

/-- The words hold quotes of both kinds, backslashes, a line feed and a control character, one of
them is blank and two become longer in upper case; with the largest indentation the printed text is
read back, and printed once more by a run that finds it in its directory. -/
theorem config_printed_and_read_awkwardLists :
    let options : Options := { uppercase := false, indentSize := 9223372036854775807 }
    let keywords := KeywordSet.ofLists awkwardLists
    let again : Invocation :=
      { command := .config, config := none, lowercase := false, indentSize := none,
        verbose := false }
    options.indentSize ≤ maxWritableIndent ∧
    (∀ w, (Job.mk options keywords).run w .config = w.print awkwardConfig) ∧
    Config.parse? awkwardConfig = some { format := options, keywords := some keywords.toLists } ∧
    (again.run awkwardTree .empty []).printed = awkwardConfig := by
  intro options keywords again
  have hsize : options.indentSize ≤ maxWritableIndent := by decide
  have hwritten : writeConfig options keywords.toLists = awkwardConfig := by decide +kernel
  have hlocate : awkwardTree.locate? (again.configPath awkwardTree) =
      some ["w".toList, Config.fileName] := by
    decide +kernel
  have hcontent : awkwardTree.content? ["w".toList, Config.fileName] =
      some (encode awkwardConfig) := rfl
  obtain ⟨hshow, hparse, -, -, hrun⟩ := config_printed_and_read options awkwardLists hsize
  rw [← hwritten] at hcontent ⊢
  have hprinted := (hrun again awkwardTree _ .empty [] hlocate hcontent rfl).2 rfl
  exact ⟨hsize, hshow, hparse, hprinted.1⟩

end SqlIndent
