import Mathlib.Logic.Function.Iterate
import SqlIndent.Command.Run
import SqlIndent.Proofs.Discovery

/-!
# What formatting does to files

Each time an argument finds a file, its text is formatted once more. Which files are found, and
which of them hold no text, is the same all the way, because formatting keeps the outline of the
tree. So the result of a run can be told from the tree at its start: how often each file is found,
and what fails. All other commands leave the files as they are.
-/

namespace SqlIndent

/-! ## The effect, told from the tree at the start -/

/-- The bytes of a file after its text was formatted a number of times. -/
def Job.reformatted (j : Job) (times : Nat) (bytes : ByteArray) : ByteArray :=
  match decode? bytes with
  | some text => encode ((format j.options j.keywords)^[times] text)
  | none => bytes

/-- What is printed for the standard input. -/
def Job.printedInput (j : Job) (input : ByteArray) : Text :=
  match decode? input with
  | some text => format j.options j.keywords text
  | none => []

/-- What is printed for arguments, one after another. The standard input is read by the first
argument that stands for it, and is empty for the others. -/
def Job.printedInputs (j : Job) : ByteArray → List Text → Text
  | _, [] => []
  | input, arg :: args =>
    if isInputArgument arg then j.printedInput input ++ j.printedInputs .empty args
    else j.printedInputs input args

namespace FileTree

/-- The places at which an argument finds files, in order. -/
def visits (t : FileTree) (arg : Text) : List Location :=
  if isInputArgument arg then []
  else match t.discover arg with
    | .error _ => []
    | .ok found => found.map Found.location

/-- How often arguments find the file at a place. -/
def timesFound (t : FileTree) (args : List Text) (l : Location) : Nat :=
  (args.flatMap t.visits).count l

/-- What is told about a file that was found but cannot be read. -/
def fileFailure? (t : FileTree) (f : Found) : Option Notice :=
  (t.readError? f.location).map fun cause => .failedOn f.shown (.unreadable cause)

/-- What is told about an argument that finds nothing, or about the files that it finds. -/
def argumentFailures (t : FileTree) (arg : Text) : List Notice :=
  match t.discover arg with
  | .error e => [.failedOn arg e]
  | .ok found => found.filterMap t.fileFailure?

/-- What is told about the standard input. -/
def inputFailures (input : ByteArray) : List Notice :=
  match decode? input with
  | some _ => []
  | none => [.failed (.unreadable .notUtf8)]

/-- What is told about arguments, one after another. -/
def failures (t : FileTree) : ByteArray → List Text → List Notice
  | _, [] => []
  | input, arg :: args =>
    if isInputArgument arg then inputFailures input ++ t.failures .empty args
    else t.argumentFailures arg ++ t.failures input args

end FileTree

namespace Job

variable (j : Job)

lemma reformatted_zero (bytes : ByteArray) : j.reformatted 0 bytes = bytes := by
  unfold reformatted
  split
  next text h => exact decode?_eq_some_iff.1 h
  · rfl

/-- Formatting some times and then more times. -/
lemma reformatted_reformatted (m n : Nat) (bytes : ByteArray) :
    j.reformatted n (j.reformatted m bytes) = j.reformatted (m + n) bytes := by
  unfold reformatted
  cases h : decode? bytes with
  | none => simp [h]
  | some text => simp only [decode?_encode, Nat.add_comm m n, Function.iterate_add_apply]

/-! ## Step by step -/

/-- Formatting no more times leaves contents as they are. -/
lemma map_reformatted_zero (content : Option ByteArray) :
    content.map (j.reformatted 0) = content := by
  have hzero : j.reformatted 0 = id := funext j.reformatted_zero
  rw [hzero, Option.map_id, id]

/-- What happens to a file that is found: it cannot be read, or its text stays the same, or it gets
a new text. -/
lemma formatFile_cases (w : Work) (f : Found) :
    (∃ cause, w.tree.readAt f.location = .error cause ∧
      j.formatFile .write w f = w.notify (.failedOn f.shown (.unreadable cause))) ∨
    ∃ source, w.tree.readAt f.location = .ok source ∧
      (format j.options j.keywords source = source ∧ j.formatFile .write w f = w ∨
        j.formatFile .write w f = { w with
          tree := w.tree.write f.location (encode (format j.options j.keywords source)) }) := by
  cases hread : w.tree.readAt f.location with
  | error cause =>
    refine Or.inl ⟨cause, rfl, ?_⟩
    rw [formatFile, hread]
  | ok source =>
    refine Or.inr ⟨source, rfl, ?_⟩
    by_cases hsame : format j.options j.keywords source = source
    · refine Or.inl ⟨hsame, ?_⟩
      simp [formatFile, hread, reformatting, Replacement.whole, hsame]
    · refine Or.inr ?_
      simp [formatFile, hread, reformatting, Replacement.whole, hsame]

/-- Formatting a file keeps the outline, and with it what is found later. -/
lemma outline_formatFile (w : Work) (f : Found) :
    (j.formatFile .write w f).tree.outline = w.tree.outline := by
  rcases j.formatFile_cases w f with ⟨cause, -, hstep⟩ | ⟨source, hread, ⟨-, hstep⟩ | hstep⟩
  · rw [hstep, Work.notify]
  · rw [hstep]
  · rw [hstep, FileTree.outline_write hread]

/-- All files but the one that is found stay as they are. -/
lemma content?_formatFile_of_ne (w : Work) {f : Found} {l : Location} (hl : l ≠ f.location) :
    (j.formatFile .write w f).tree.content? l = w.tree.content? l := by
  rcases j.formatFile_cases w f with ⟨cause, -, hstep⟩ | ⟨source, -, ⟨-, hstep⟩ | hstep⟩
  · rw [hstep, Work.notify]
  · rw [hstep]
  · rw [hstep, FileTree.content?_write, if_neg hl]

/-- A file that is found is formatted once more, unless it holds no text; whether it is written when
its text stays the same makes no difference. -/
lemma content?_formatFile_self (w : Work) (f : Found) :
    (j.formatFile .write w f).tree.content? f.location =
      (w.tree.content? f.location).map (j.reformatted 1) := by
  cases hcontent : w.tree.content? f.location with
  | none =>
    -- where no regular file stands there is none later
    have hnone := FileTree.isSome_content?_congr (j.outline_formatFile w f) f.location
    simpa [hcontent] using hnone
  | some bytes =>
    have hread := FileTree.readAt_of_content? hcontent
    rw [Option.map_some]
    rcases j.formatFile_cases w f with ⟨cause, herror, hstep⟩ | ⟨source, hok, hstep⟩
    · have hdecode : decode? bytes = none := by
        rw [hread] at herror
        cases h : decode? bytes <;> simp_all
      rw [hstep, Work.notify, hcontent, reformatted, hdecode]
    · have hdecode : decode? bytes = some source := by
        rw [hread] at hok
        cases h : decode? bytes <;> simp_all
      have honce : j.reformatted 1 bytes = encode (format j.options j.keywords source) := by
        simp [reformatted, hdecode]
      rw [honce]
      rcases hstep with ⟨hsame, hstep⟩ | hstep
      · rw [hstep, hcontent, hsame, decode?_eq_some_iff.1 hdecode]
      · rw [hstep, FileTree.content?_write, if_pos rfl, hcontent, Option.map_some]

/-- **What one file does to the tree**, for the file itself and for all others at once. -/
lemma content?_formatFile (w : Work) (f : Found) (l : Location) :
    (j.formatFile .write w f).tree.content? l =
      (w.tree.content? l).map (j.reformatted ([f.location].count l)) := by
  by_cases hl : l = f.location
  · rw [hl, List.count_singleton_self, content?_formatFile_self]
  · have hcount : [f.location].count l = 0 := by simp [Ne.symm hl]
    rw [hcount, map_reformatted_zero, content?_formatFile_of_ne j w hl]

/-- A file that is found adds just the notice why it cannot be read, if it cannot. -/
lemma notices_formatFile (w : Work) (f : Found) :
    (j.formatFile .write w f).notices = w.notices ++ (w.tree.fileFailure? f).toList := by
  rw [FileTree.fileFailure?, FileTree.readError?]
  rcases j.formatFile_cases w f with ⟨cause, hread, hstep⟩ | ⟨source, hread, ⟨-, hstep⟩ | hstep⟩
  · rw [hstep, hread]
    rfl
  · rw [hstep, hread]
    simp
  · rw [hstep, hread]
    simp

/-- Writing a file neither reads the standard input nor prints anything. -/
lemma input_printed_formatFile (w : Work) (f : Found) :
    (j.formatFile .write w f).input = w.input ∧ (j.formatFile .write w f).printed = w.printed := by
  rcases j.formatFile_cases w f with ⟨cause, -, hstep⟩ | ⟨source, -, ⟨-, hstep⟩ | hstep⟩
  · rw [hstep, Work.notify]
    exact ⟨rfl, rfl⟩
  · rw [hstep]
    exact ⟨rfl, rfl⟩
  · rw [hstep]
    exact ⟨rfl, rfl⟩

/-- Where a run stands that started at the tree `t`: it has found files at the places `visited`, has
told `told` and printed `printed`, and `input` is left of the standard input. -/
structure Reached (t : FileTree) (visited : List Location) (told : List Notice) (input : ByteArray)
    (printed : Text) (w : Work) : Prop where
  outline : w.tree.outline = t.outline
  content? : ∀ l, w.tree.content? l = (t.content? l).map (j.reformatted (visited.count l))
  notices : w.notices = told
  input : w.input = input
  printed : w.printed = printed

/-- At the start of a run nothing has been found, told or printed. -/
lemma reached_start (t : FileTree) (input : ByteArray) :
    j.Reached t [] [] input [] { tree := t, input } where
  outline := rfl
  content? l := by rw [List.count_nil, map_reformatted_zero]
  notices := rfl
  input := rfl
  printed := rfl

variable {j} {t : FileTree} {visited : List Location} {told : List Notice} {input : ByteArray}
  {printed : Text} {w : Work}

/-- **One file.** Its text is formatted once more, or it is told why it cannot be read. -/
lemma Reached.formatFile (h : j.Reached t visited told input printed w) (f : Found) :
    j.Reached t (visited ++ [f.location]) (told ++ (t.fileFailure? f).toList) input printed
      (j.formatFile .write w f) where
  outline := by rw [outline_formatFile, h.outline]
  content? l := by
    rw [content?_formatFile, h.content?, Option.map_map, List.count_append]
    congr 1
    funext bytes
    exact j.reformatted_reformatted _ _ bytes
  notices := by
    rw [notices_formatFile, h.notices, FileTree.fileFailure?, FileTree.readError?_congr h.outline]
    rfl
  input := by rw [(j.input_printed_formatFile w f).1, h.input]
  printed := by rw [(j.input_printed_formatFile w f).2, h.printed]

/-- **The files of one argument.** -/
lemma Reached.foldl_formatFile (h : j.Reached t visited told input printed w) (found : List Found) :
    j.Reached t (visited ++ found.map Found.location) (told ++ found.filterMap t.fileFailure?)
      input printed (found.foldl (j.formatFile .write) w) := by
  induction found generalizing visited told w with
  | nil => simpa using h
  | cons f found ih =>
    have hnext := ih (h.formatFile f)
    rw [List.foldl_cons, List.map_cons, List.filterMap_cons]
    cases hfailure : t.fileFailure? f <;> simpa [hfailure] using hnext

/-- **The standard input.** It is printed, and no file changes. -/
lemma Reached.formatInput (h : j.Reached t visited told input printed w) :
    j.Reached t visited (told ++ FileTree.inputFailures input) .empty
      (printed ++ j.printedInput input) (j.formatInput .write w) := by
  unfold Job.formatInput FileTree.inputFailures Job.printedInput Work.readInput
  rw [h.input]
  cases decode? input with
  | none =>
    rw [List.append_nil]
    exact ⟨h.outline, h.content?, congrArg (· ++ _) h.notices, rfl, h.printed⟩
  | some source =>
    rw [List.append_nil]
    exact ⟨h.outline, h.content?, h.notices, rfl, congrArg (· ++ _) h.printed⟩

/-- **One argument.** What it finds, and what fails, can be told from the tree at the start. -/
lemma Reached.formatArgument (h : j.Reached t visited told input printed w) {arg : Text}
    (harg : isInputArgument arg = false) :
    j.Reached t (visited ++ t.visits arg) (told ++ t.argumentFailures arg) input printed
      (j.formatArgument .write w arg) := by
  -- the tree is no longer that of the start, but its outline is, so the same files are found
  rw [Job.formatArgument, FileTree.visits, FileTree.argumentFailures, harg,
    FileTree.discover_congr h.outline]
  cases t.discover arg with
  | error e =>
    rw [if_neg (by simp), if_neg (by simp), List.append_nil]
    exact ⟨h.outline, h.content?, congrArg (· ++ _) h.notices, h.input, h.printed⟩
  | ok found => exact h.foldl_formatFile found

/-- **All arguments.** Files are found as often as from the tree at the start, and no argument
depends on how others fared. -/
lemma Reached.foldl_formatArgument (h : j.Reached t visited told input printed w)
    (args : List Text) :
    ∃ rest, j.Reached t (visited ++ args.flatMap t.visits) (told ++ t.failures input args) rest
      (printed ++ j.printedInputs input args) (args.foldl (j.formatArgument .write) w) := by
  induction args generalizing visited told input printed w with
  | nil => exact ⟨input, by simpa [FileTree.failures, Job.printedInputs] using h⟩
  | cons arg args ih =>
    rw [List.foldl_cons, List.flatMap_cons, FileTree.failures, Job.printedInputs]
    cases harg : isInputArgument arg with
    | true =>
      have hstep : j.formatArgument .write w arg = j.formatInput .write w := by
        simp [Job.formatArgument, harg]
      have hvisits : t.visits arg = [] := by
        simp [FileTree.visits, harg]
      have hnext := ih h.formatInput
      simp only [List.append_assoc] at hnext
      rw [hstep, hvisits, List.nil_append, if_pos rfl, if_pos rfl]
      exact hnext
    | false =>
      have hnext := ih (h.formatArgument harg)
      simp only [List.append_assoc] at hnext
      rw [if_neg (by simp), if_neg (by simp)]
      exact hnext

end Job

/-! ## What fails -/

namespace FileTree

/-- Whether something fails on an argument: the standard input holds no text, or the argument finds
nothing, or it finds a file that holds no text. -/
def Fails (t : FileTree) (input : ByteArray) (arg : Text) : Prop :=
  if isInputArgument arg then decode? input = none
  else match t.discover arg with
    | .error _ => True
    | .ok found =>
      ∃ f ∈ found, ∃ bytes, t.content? f.location = some bytes ∧ decode? bytes = none

variable {t : FileTree}

/-- Of a regular file nothing is told just if its bytes encode a text. -/
lemma fileFailure?_eq_none_iff {f : Found} {bytes : ByteArray}
    (hcontent : t.content? f.location = some bytes) :
    t.fileFailure? f = none ↔ decode? bytes ≠ none := by
  rw [fileFailure?, Option.map_eq_none_iff, readError?, readAt_of_content? hcontent]
  cases decode? bytes <;> simp

/-- Of the standard input nothing is told just if its bytes encode a text. -/
lemma inputFailures_eq_nil_iff {input : ByteArray} :
    inputFailures input = [] ↔ decode? input ≠ none := by
  unfold inputFailures
  cases decode? input <;> simp

/-- Files that are found are told about just if they hold no text. -/
lemma argumentFailures_eq_nil_iff {arg : Text} (harg : isInputArgument arg = false)
    (input : ByteArray) : t.argumentFailures arg = [] ↔ ¬ t.Fails input arg := by
  rw [argumentFailures, Fails, harg]
  cases hfound : t.discover arg with
  | error e => simp
  | ok found =>
    simp only [List.filterMap_eq_nil_iff, Bool.false_eq_true, if_false, not_exists, not_and]
    constructor
    · intro h f hf bytes hcontent
      exact (fileFailure?_eq_none_iff hcontent).1 (h f hf)
    · intro h f hf
      obtain ⟨bytes, hcontent⟩ :=
        Option.isSome_iff_exists.1 (isSome_content?_of_discover hfound hf)
      exact (fileFailure?_eq_none_iff hcontent).2 (h f hf bytes hcontent)

/-- Of the standard input it only matters whether it holds a text. -/
lemma fails_congr {input other : ByteArray} (h : decode? input = none ↔ decode? other = none)
    (arg : Text) : t.Fails input arg ↔ t.Fails other arg := by
  unfold Fails
  split
  · exact h
  · rfl

/-- Nothing is told just if nothing fails. -/
lemma failures_eq_nil_iff (input : ByteArray) (args : List Text) :
    t.failures input args = [] ↔ ∀ arg ∈ args, ¬ t.Fails input arg := by
  induction args generalizing input with
  | nil => simp [failures]
  | cons arg args ih =>
    rw [failures, List.forall_mem_cons]
    cases harg : isInputArgument arg with
    | true =>
      have hhead : t.Fails input arg ↔ decode? input = none := by
        rw [Fails, if_pos harg]
      rw [if_pos rfl, List.append_eq_nil_iff, inputFailures_eq_nil_iff, ih, hhead]
      -- for the arguments after this one the input is empty, which is a text as well
      have hempty : decode? .empty = some [] := decode?_encode []
      refine and_congr_right fun hinput => ?_
      have hsame : decode? .empty = none ↔ decode? input = none := by simp [hempty, hinput]
      simp only [fails_congr hsame]
    | false =>
      rw [if_neg (by simp), List.append_eq_nil_iff, argumentFailures_eq_nil_iff harg input, ih]

/-- Whatever is told of arguments or of the standard input while formatting is a failure, so a
single notice makes the exit code 2. -/
lemma isFailure_of_mem_failures {input : ByteArray} {args : List Text} {n : Notice}
    (hn : n ∈ t.failures input args) : n.isFailure = true := by
  have hinput : ∀ bytes, n ∈ inputFailures bytes → n.isFailure = true := by
    intro bytes h
    unfold inputFailures at h
    split at h
    · simp at h
    · obtain rfl := List.mem_singleton.1 h
      rfl
  have hargument : ∀ arg, n ∈ t.argumentFailures arg → n.isFailure = true := by
    intro arg h
    unfold argumentFailures at h
    split at h
    · obtain rfl := List.mem_singleton.1 h
      rfl
    · obtain ⟨f, -, hf⟩ := List.mem_filterMap.1 h
      obtain ⟨cause, -, rfl⟩ := Option.map_eq_some_iff.1 hf
      rfl
  induction args generalizing input with
  | nil => simp [failures] at hn
  | cons arg args ih =>
    rw [failures] at hn
    split at hn
    · rcases List.mem_append.1 hn with h | h
      · exact hinput input h
      · exact ih h
    · rcases List.mem_append.1 hn with h | h
      · exact hargument arg h
      · exact ih h

end FileTree

/-- Where all notices are failures, the exit code is 2 just if there is one. -/
lemma Work.exitCode_of_isFailure {w : Work} (h : ∀ n ∈ w.notices, n.isFailure = true) :
    w.exitCode = if w.notices = [] then 0 else 2 := by
  unfold exitCode
  cases hnotices : w.notices with
  | nil => rfl
  | cons n ns =>
    have hn : n.isFailure = true := h n (by simp [hnotices])
    simp [hn]

/-! ## Commands that write no files -/

namespace Job

variable (j : Job)

/-- If no step changes the tree, a whole run of steps does not. -/
lemma tree_foldl {α : Type} {step : Work → α → Work} (h : ∀ w a, (step w a).tree = w.tree)
    (as : List α) (w : Work) : (as.foldl step w).tree = w.tree := by
  induction as generalizing w with
  | nil => rfl
  | cons a as ih => rw [List.foldl_cons, ih, h]

/-- Without the order to write, a file that is found is left as it is. -/
lemma tree_formatFile {d : Delivery} (hd : d ≠ .write) (w : Work) (f : Found) :
    (j.formatFile d w f).tree = w.tree := by
  rw [formatFile]
  cases w.tree.readAt f.location with
  | error cause => rfl
  | ok source => simp [hd, Work.print]

lemma tree_formatInput (d : Delivery) (w : Work) : (j.formatInput d w).tree = w.tree := by
  unfold formatInput Work.readInput
  cases decode? w.input <;> rfl

lemma tree_formatArgument {d : Delivery} (hd : d ≠ .write) (w : Work) (arg : Text) :
    (j.formatArgument d w arg).tree = w.tree := by
  unfold formatArgument
  split
  · exact j.tree_formatInput d w
  · split
    · rfl
    · exact tree_foldl (j.tree_formatFile hd) _ w

lemma tree_checkText (w : Work) (subject source : Text) :
    (j.checkText w subject source).tree = w.tree := by
  unfold checkText
  split <;> rfl

lemma tree_checkFile (w : Work) (f : Found) : (j.checkFile w f).tree = w.tree := by
  unfold checkFile
  split
  · rfl
  · exact j.tree_checkText w _ _

lemma tree_checkArgument (w : Work) (arg : Text) : (j.checkArgument w arg).tree = w.tree := by
  unfold checkArgument
  split
  · unfold checkInput Work.readInput
    cases decode? w.input with
    | none => rfl
    | some source => exact j.tree_checkText _ _ _
  · split
    · rfl
    · exact tree_foldl j.tree_checkFile _ w

/-- Only `format` with the order to write changes files. -/
lemma tree_run {command : Command} (h : ∀ edits files, command ≠ .format true edits files)
    (w : Work) : (j.run w command).tree = w.tree := by
  cases command with
  | format write edits files =>
    have hwrite : write = false := by
      cases write with
      | false => rfl
      | true => exact absurd rfl (h edits files)
    subst hwrite
    exact tree_foldl (j.tree_formatArgument (by cases edits <;> decide)) files w
  | check files => exact tree_foldl j.tree_checkArgument files w
  | config =>
    show (j.showConfig w).tree = w.tree
    unfold showConfig
    split <;> rfl

end Job

/-! ## Whole runs -/

/-- **What a run does to files.** With the order to write, every file that holds a text has it
formatted as often as the arguments find the file, counted in the tree at the start; a file that
holds no text, or that is not found, keeps its bytes, and every place has what it had: no file comes
or goes. What is told and printed for an argument does not depend on the others, except that the
standard input is read only once, and the exit code is 2 just if something fails. Without the order
to write, no file changes. -/
theorem run_effect_on_files (i : Invocation) (tree : FileTree) (input : ByteArray)
    (directory : Text) {config : Config}
    (hconfig : Config.lookup tree i.config tree.herePath directory = .ok config) :
    let job : Job := { options := i.options config.format, keywords := config.keywordSet }
    let done := i.run tree input directory
    (∀ edits files, i.command = .format true edits files →
      (∀ l bytes text, tree.content? l = some bytes → decode? bytes = some text →
        done.tree.content? l =
          some (encode ((format job.options job.keywords)^[tree.timesFound files l] text))) ∧
      (∀ l bytes, tree.content? l = some bytes →
        decode? bytes = none ∨ tree.timesFound files l = 0 → done.tree.content? l = some bytes) ∧
      done.tree.outline = tree.outline ∧
      done.notices = tree.failures input files ∧
      done.printed = job.printedInputs input files ∧
      ((∃ arg ∈ files, tree.Fails input arg) → done.exitCode = 2) ∧
      ((∀ arg ∈ files, ¬ tree.Fails input arg) → done.exitCode = 0)) ∧
    ((∀ edits files, i.command ≠ .format true edits files) → done.tree = tree) := by
  intro job done
  have hdone : done = job.run { tree, input } i.command := by
    simp only [done, Invocation.run, hconfig, job]
  refine ⟨?_, fun hcommand => ?_⟩
  · intro edits files hcommand
    have hrun : done = files.foldl (job.formatArgument .write) { tree, input } := by
      rw [hdone, hcommand]
      rfl
    -- from here on everything is said of the tree at the start
    obtain ⟨rest, hreached⟩ := (job.reached_start tree input).foldl_formatArgument files
    rw [← hrun] at hreached
    simp only [List.nil_append] at hreached
    have hcontent : ∀ l, done.tree.content? l =
        (tree.content? l).map (job.reformatted (tree.timesFound files l)) := hreached.content?
    have hexit : done.exitCode = if tree.failures input files = [] then 0 else 2 := by
      have hfailure : ∀ n ∈ done.notices, n.isFailure = true := by
        rw [hreached.notices]
        exact fun n hn => FileTree.isFailure_of_mem_failures hn
      rw [Work.exitCode_of_isFailure hfailure, hreached.notices]
    refine ⟨?_, ?_, hreached.outline, hreached.notices, hreached.printed, ?_, ?_⟩
    · intro l bytes text hbytes htext
      rw [hcontent, hbytes, Option.map_some, Job.reformatted, htext]
    · intro l bytes hbytes hkept
      rw [hcontent, hbytes, Option.map_some]
      rcases hkept with hdecode | hnever
      · rw [Job.reformatted, hdecode]
      · rw [hnever, Job.reformatted_zero]
    · rintro ⟨arg, harg, hfails⟩
      rw [hexit, if_neg]
      exact fun hnil => (FileTree.failures_eq_nil_iff input files).1 hnil arg harg hfails
    · intro hsucceeds
      rw [hexit, if_pos ((FileTree.failures_eq_nil_iff input files).2 hsucceeds)]
  · rw [hdone]
    exact job.tree_run hcommand _

/-- A tree with the working directory `/w`: in it there are texts, bytes that encode none, and a
directory below it, and beside it there is another file. -/
def mixedTree : FileTree where
  nodes := [(["o.sql".toList], .file (encode "insert".toList)), (["w".toList], .directory),
    (["w".toList, "a.sql".toList], .file (encode "select a,b".toList)),
    (["w".toList, "d".toList], .directory),
    (["w".toList, "d".toList, "b.sql".toList], .file ⟨#[0xFF]⟩),
    (["w".toList, "d".toList, "c.sql".toList], .file (encode "from t".toList)),
    (["w".toList, "n.txt".toList], .file (encode "select".toList))]
  increasing := by decide
  closed := by decide
  named := by decide
  here := ["w".toList]
  hereIsDirectory := by decide

/-- Arguments that find one file four times by different paths, and that fail in between. -/
def mixedArguments : List Text :=
  ["missing", "../w/a.sql", "d", "./d/../a.sql", "-", "/*/*.sql", ".."].map String.toList

/-- One file is found by a path through the directory above, by one through a directory below, by a
pattern from the root on and below the directory above, so it is formatted four times. Bytes that
encode no text are kept, and neither they nor an argument that finds nothing keep the others from
being formatted. -/
theorem run_effect_on_files_mixedTree :
    let i : Invocation :=
      { command := .format true false mixedArguments, config := none, lowercase := false,
        indentSize := none, verbose := false }
    let done := i.run mixedTree .empty []
    Config.lookup mixedTree i.config mixedTree.herePath [] = .ok {} ∧
    done.tree.content? ["w".toList, "a.sql".toList] =
      some (encode ((format {} .builtin)^[4] "select a,b".toList)) ∧
    done.tree.content? ["w".toList, "d".toList, "c.sql".toList] =
      some (encode ((format {} .builtin)^[2] "from t".toList)) ∧
    done.tree.content? ["o.sql".toList] = some (encode (format {} .builtin "insert".toList)) ∧
    done.tree.content? ["w".toList, "d".toList, "b.sql".toList] = some ⟨#[0xFF]⟩ ∧
    done.tree.content? ["w".toList, "n.txt".toList] = some (encode "select".toList) ∧
    done.exitCode = 2 := by
  intro i done
  have hconfig : Config.lookup mixedTree i.config mixedTree.herePath [] = .ok {} := by rfl
  have hdirectory : mixedTree.Fails .empty "d".toList := by
    have hfound : mixedTree.discover "d".toList = .ok
        [⟨"d/b.sql".toList, ["w".toList, "d".toList, "b.sql".toList]⟩,
          ⟨"d/c.sql".toList, ["w".toList, "d".toList, "c.sql".toList]⟩] := rfl
    rw [FileTree.Fails, if_neg (by decide), hfound]
    exact ⟨_, List.mem_cons_self, _, rfl, by decide +kernel⟩
  obtain ⟨htexts, hkept, -, -, -, hfails, -⟩ :=
    (run_effect_on_files i mixedTree .empty [] hconfig).1 false mixedArguments rfl
  have htimes : ∀ l text, mixedTree.content? l = some (encode text) → done.tree.content? l =
      some (encode ((format {} .builtin)^[mixedTree.timesFound mixedArguments l] text)) :=
    fun l text hl => htexts l _ text hl (decode?_encode text)
  refine ⟨hconfig, ?_, ?_, ?_, hkept _ _ rfl (Or.inl (by decide +kernel)),
    hkept _ _ rfl (Or.inr (by decide +kernel)), hfails ⟨_, by decide, hdirectory⟩⟩
  · let a := ["w".toList, "a.sql".toList]
    have hfour : mixedTree.timesFound mixedArguments a = 4 := by decide +kernel
    have ha := htimes a "select a,b".toList rfl
    rw [hfour] at ha
    exact ha
  · let c := ["w".toList, "d".toList, "c.sql".toList]
    have htwo : mixedTree.timesFound mixedArguments c = 2 := by decide +kernel
    have hc := htimes c "from t".toList rfl
    rw [htwo] at hc
    exact hc
  · have hone : mixedTree.timesFound mixedArguments ["o.sql".toList] = 1 := by decide +kernel
    have ho := htimes ["o.sql".toList] "insert".toList rfl
    rw [hone] at ho
    exact ho

end SqlIndent
