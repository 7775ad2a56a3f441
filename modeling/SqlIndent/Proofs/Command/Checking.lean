import SqlIndent.Proofs.Command.Formatting
import SqlIndent.Proofs.Discovery.Shown

/-!
# Checking tells what formatting would change

`check` and `format` go through their arguments each in its own way, and still they agree: as long
as no file is found twice, the files that are told not to be formatted are those whose bytes would
change, and both commands fail on the same arguments (`check_agrees_with_write`). What is told about
an argument does not depend on the others, so their order does not matter.
-/

namespace SqlIndent

/-- The work with more notices. -/
def Work.told (w : Work) (notices : List Notice) : Work :=
  { w with notices := w.notices ++ notices }

lemma Work.told_nil (w : Work) : w.told [] = w := by
  simp [told]

lemma Work.told_told (w : Work) (first second : List Notice) :
    (w.told first).told second = w.told (first ++ second) := by
  simp [told]

namespace Job

variable (j : Job)

/-! ## What is told, argument by argument -/

/-- What is told about a file that was found, if anything. -/
def verdict? (t : FileTree) (f : Found) : Option Notice :=
  match t.readAt f.location with
  | .error cause => some (.unreadable f.shown cause)
  | .ok source =>
    if isFormatted j.options j.keywords source then none else some (.needsFormatting f.shown)

/-- What is told about an argument other than the standard input. -/
def verdicts (t : FileTree) (arg : Text) : List Notice :=
  match t.discover arg with
  | .error e => [.failedOn arg e]
  | .ok found => found.filterMap (j.verdict? t)

/-- **One file.** -/
lemma checkFile_eq (w : Work) (f : Found) :
    j.checkFile w f = w.told (j.verdict? w.tree f).toList := by
  rw [checkFile, verdict?]
  cases w.tree.readAt f.location with
  | error cause => rfl
  | ok source =>
    dsimp only
    rw [checkText]
    split
    · exact w.told_nil.symm
    · rfl

/-- **The files of one argument.** -/
lemma foldl_checkFile (found : List Found) (w : Work) :
    found.foldl j.checkFile w = w.told (found.filterMap (j.verdict? w.tree)) := by
  induction found generalizing w with
  | nil => exact w.told_nil.symm
  | cons f found ih =>
    rw [List.foldl_cons, ih, checkFile_eq, Work.told_told, List.filterMap_cons]
    -- telling something leaves the tree as it is
    cases j.verdict? w.tree f <;> rfl

/-- **One argument.** -/
lemma checkArgument_eq {arg : Text} (harg : isInputArgument arg = false) (w : Work) :
    j.checkArgument w arg = w.told (j.verdicts w.tree arg) := by
  rw [checkArgument, verdicts, harg, if_neg (by simp)]
  cases w.tree.discover arg with
  | error e => rfl
  | ok found => exact j.foldl_checkFile found w

/-- **All arguments.** -/
lemma foldl_checkArgument {args : List Text} (hargs : ∀ arg ∈ args, isInputArgument arg = false)
    (w : Work) :
    args.foldl j.checkArgument w = w.told (args.flatMap (j.verdicts w.tree)) := by
  induction args generalizing w with
  | nil => exact w.told_nil.symm
  | cons arg args ih =>
    have hrest := ih (fun a ha => hargs a (by simp [ha])) (w.told (j.verdicts w.tree arg))
    rw [List.foldl_cons, checkArgument_eq j (hargs arg (by simp)), hrest, Work.told_told]
    rfl

/-! ## What the notices say -/

variable {j} {t : FileTree} {files : List Text}

/-- A file that the arguments find, and that holds a text which formatting would change. -/
def Unformatted (j : Job) (t : FileTree) (files : List Text) (f : Found) : Prop :=
  (∃ arg ∈ files, ∃ found, t.discover arg = .ok found ∧ f ∈ found) ∧
    ∃ source, t.readAt f.location = .ok source ∧ format j.options j.keywords source ≠ source

/-- A file is told not to be formatted just if it is read as a text that formatting changes. -/
lemma verdict?_eq_needsFormatting_iff {f : Found} {subject : Text} :
    j.verdict? t f = some (.needsFormatting subject) ↔
      f.shown = subject ∧ ∃ source, t.readAt f.location = .ok source ∧
        format j.options j.keywords source ≠ source := by
  rw [verdict?]
  cases t.readAt f.location with
  | error cause => simp
  | ok source => by_cases h : format j.options j.keywords source = source <;> simp [isFormatted, h]

/-- **What is told not to be formatted.** -/
lemma needsFormatting_mem_iff {subject : Text} :
    Notice.needsFormatting subject ∈ files.flatMap (j.verdicts t) ↔
      ∃ f, j.Unformatted t files f ∧ f.shown = subject := by
  have hverdicts : ∀ arg, Notice.needsFormatting subject ∈ j.verdicts t arg ↔
      ∃ found, t.discover arg = .ok found ∧ ∃ f ∈ found, f.shown = subject ∧
        ∃ source, t.readAt f.location = .ok source ∧
          format j.options j.keywords source ≠ source := by
    intro arg
    rw [verdicts]
    cases t.discover arg with
    | error e => simp
    | ok found => simp [verdict?_eq_needsFormatting_iff]
  simp only [List.mem_flatMap, hverdicts]
  constructor
  · rintro ⟨arg, harg, found, hfound, f, hf, hshown, hsource⟩
    exact ⟨f, ⟨⟨arg, harg, found, hfound, hf⟩, hsource⟩, hshown⟩
  · rintro ⟨f, ⟨⟨arg, harg, found, hfound, hf⟩, hsource⟩, hshown⟩
    exact ⟨arg, harg, found, hfound, f, hf, hshown, hsource⟩

/-- A file that is told not to be formatted is told by a path that leads to it. -/
lemma Unformatted.locate?_shown {f : Found} (h : j.Unformatted t files f) :
    t.locate? f.shown = some f.location := by
  obtain ⟨⟨arg, -, found, hfound, hf⟩, -⟩ := h
  exact FileTree.locate?_shown hfound hf

/-- A failure is told about just the arguments on which formatting fails. -/
lemma exists_isFailure_verdicts_iff {arg : Text} (harg : isInputArgument arg = false)
    (input : ByteArray) :
    (∃ n ∈ j.verdicts t arg, n.isFailure = true) ↔ t.Fails input arg := by
  rw [verdicts, FileTree.Fails, harg, if_neg (by simp)]
  cases hfound : t.discover arg with
  | error e => simp [Notice.isFailure]
  | ok found =>
    simp only [List.mem_filterMap]
    constructor
    · rintro ⟨n, ⟨f, hf, hverdict⟩, hfailure⟩
      obtain ⟨bytes, hbytes⟩ :=
        Option.isSome_iff_exists.1 (FileTree.isSome_content?_of_discover hfound hf)
      refine ⟨f, hf, bytes, hbytes, ?_⟩
      -- had the bytes encoded a text, the notice would be none or no failure
      rw [verdict?, FileTree.readAt_of_content? hbytes] at hverdict
      cases hdecode : decode? bytes with
      | none => rfl
      | some source =>
        simp only [hdecode, Option.elim_some, Option.ite_none_left_eq_some, Option.some.injEq]
          at hverdict
        rw [← hverdict.2] at hfailure
        exact absurd hfailure (by simp [Notice.isFailure])
    · rintro ⟨f, hf, bytes, hbytes, hdecode⟩
      refine ⟨.unreadable f.shown .notUtf8, ⟨f, hf, ?_⟩, rfl⟩
      simp [verdict?, FileTree.readAt_of_content? hbytes, hdecode]

/-- A failure is told just if formatting fails on one of the arguments. -/
lemma exists_isFailure_iff (hfiles : ∀ arg ∈ files, isInputArgument arg = false)
    (input : ByteArray) :
    (∃ n ∈ files.flatMap (j.verdicts t), n.isFailure = true) ↔
      ∃ arg ∈ files, t.Fails input arg := by
  simp only [List.mem_flatMap]
  constructor
  · rintro ⟨n, ⟨arg, harg, hn⟩, hfailure⟩
    exact ⟨arg, harg, (exists_isFailure_verdicts_iff (hfiles arg harg) input).1 ⟨n, hn, hfailure⟩⟩
  · rintro ⟨arg, harg, hfails⟩
    obtain ⟨n, hn, hfailure⟩ :=
      (@exists_isFailure_verdicts_iff j t arg (hfiles arg harg) input).2 hfails
    exact ⟨n, ⟨arg, harg, hn⟩, hfailure⟩

end Job

/-! ## Exit codes -/

/-- The exit code depends on what is told, not on the order. -/
lemma Work.exitCode_of_perm {v w : Work} (h : v.notices.Perm w.notices) :
    v.exitCode = w.exitCode := by
  have hany : v.notices.any Notice.isFailure = w.notices.any Notice.isFailure := by
    rw [Bool.eq_iff_iff, List.any_eq_true, List.any_eq_true]
    simp only [h.mem_iff]
  have hempty : v.notices.isEmpty = w.notices.isEmpty := by
    rw [Bool.eq_iff_iff, List.isEmpty_iff, List.isEmpty_iff]
    exact ⟨fun hv => (hv ▸ h).nil_eq.symm, fun hw => (hw ▸ h).eq_nil⟩
  rw [exitCode, exitCode, hany, hempty]

/-- The exit code is 2 just if a failure was told. -/
lemma Work.exitCode_eq_two_iff {w : Work} :
    w.exitCode = 2 ↔ ∃ n ∈ w.notices, n.isFailure = true := by
  rw [exitCode, ← List.any_eq_true]
  split
  next h => simp [h]
  next h =>
    simp only [h]
    split <;> simp

/-- Where nothing failed, the exit code tells whether something is not formatted. -/
lemma Work.exitCode_of_ne_two {w : Work} (h : w.exitCode ≠ 2) :
    ((∃ subject, Notice.needsFormatting subject ∈ w.notices) → w.exitCode = 1) ∧
      ((∀ subject, Notice.needsFormatting subject ∉ w.notices) → w.exitCode = 0) := by
  rw [ne_eq, exitCode_eq_two_iff, not_exists] at h
  have hany : w.notices.any Notice.isFailure = false := by
    simpa using h
  rw [exitCode, hany, if_neg (by simp)]
  constructor
  · rintro ⟨subject, hsubject⟩
    rw [if_neg (by rw [List.isEmpty_iff]; exact List.ne_nil_of_mem hsubject)]
  · intro hnone
    rw [if_pos]
    rw [List.isEmpty_iff, List.eq_nil_iff_forall_not_mem]
    intro n hn
    -- the only notices that are no failures
    cases n with
    | needsFormatting subject => exact hnone subject hn
    | _ => exact h _ ⟨hn, rfl⟩

/-! ## What formatting changes -/

/-- The places that an argument visits are those of the files that it finds. -/
lemma FileTree.mem_visits_iff {t : FileTree} {arg : Text} (harg : isInputArgument arg = false)
    {l : Location} :
    l ∈ t.visits arg ↔ ∃ found, t.discover arg = .ok found ∧ ∃ f ∈ found, f.location = l := by
  rw [visits, harg, if_neg (by simp)]
  cases t.discover arg with
  | error e => simp
  | ok found => simp

namespace Job

variable {j : Job} {t : FileTree} {files : List Text}

/-- Formatting at most once changes the texts that are not formatted, and they are formatted. -/
lemma map_reformatted_ne_iff {content : Option ByteArray} {times : Nat} (htimes : times ≤ 1) :
    content.map (j.reformatted times) ≠ content ↔
      times = 1 ∧ ∃ source, content = some (encode source) ∧
        format j.options j.keywords source ≠ source := by
  have hcases : times = 0 ∨ times = 1 := by omega
  rcases hcases with rfl | rfl
  · simp [map_reformatted_zero]
  cases content with
  | none => simp
  | some bytes =>
    have hencode : ∀ u v : Text, encode u = encode v ↔ u = v := by
      intro u v
      rw [← decode?_eq_some_iff, decode?_encode, Option.some.injEq, eq_comm]
    cases hdecode : decode? bytes with
    | none =>
      have hbytes : ∀ source, bytes ≠ encode source := by
        rintro source rfl
        simp at hdecode
      simp [reformatted, hdecode, hbytes]
    | some source =>
      obtain rfl := decode?_eq_some_iff.1 hdecode
      simp [reformatted, hencode]

/-- **What formatting changes**, where no file is found twice. -/
lemma content?_ne_iff {w : Work} {told : List Notice} {input : ByteArray} {printed : Text}
    (hfiles : ∀ arg ∈ files, isInputArgument arg = false)
    (honce : ∀ l, t.timesFound files l ≤ 1)
    (hw : j.Reached t (files.flatMap t.visits) told input printed w) (l : Location) :
    w.tree.content? l ≠ t.content? l ↔ ∃ f, j.Unformatted t files f ∧ f.location = l := by
  have hle : (files.flatMap t.visits).count l ≤ 1 := honce l
  have hfound : (files.flatMap t.visits).count l = 1 ↔
      ∃ arg ∈ files, ∃ found, t.discover arg = .ok found ∧ ∃ f ∈ found, f.location = l := by
    have hpos := @List.count_pos_iff _ _ _ l (files.flatMap t.visits)
    have hone : (files.flatMap t.visits).count l = 1 ↔ l ∈ files.flatMap t.visits := by
      rw [← hpos]
      omega
    rw [hone, List.mem_flatMap]
    exact exists_congr fun arg => and_congr_right fun harg =>
      FileTree.mem_visits_iff (hfiles arg harg)
  rw [hw.content?, map_reformatted_ne_iff hle, hfound]
  -- what was found is a regular file, and so is read as the text of its bytes
  have hread : ∀ {arg found f source}, t.discover arg = .ok found → f ∈ found →
      (t.readAt f.location = .ok source ↔ t.content? f.location = some (encode source)) :=
    fun hdiscover hf => FileTree.readAt_eq_ok_iff (FileTree.isSome_content?_of_discover hdiscover hf)
  constructor
  · rintro ⟨⟨arg, harg, found, hdiscover, f, hf, rfl⟩, source, hsource, hne⟩
    exact ⟨f, ⟨⟨arg, harg, found, hdiscover, hf⟩, source, (hread hdiscover hf).2 hsource, hne⟩, rfl⟩
  · rintro ⟨f, ⟨⟨arg, harg, found, hdiscover, hf⟩, source, hsource, hne⟩, rfl⟩
    exact ⟨⟨arg, harg, found, hdiscover, f, hf, rfl⟩, source, (hread hdiscover hf).1 hsource, hne⟩

end Job

/-- Formatting tells of a failure just if something fails. -/
lemma FileTree.exists_isFailure_failures_iff {t : FileTree} (input : ByteArray)
    (files : List Text) :
    (∃ n ∈ t.failures input files, n.isFailure = true) ↔ ∃ arg ∈ files, t.Fails input arg := by
  constructor
  · rintro ⟨n, hn, -⟩
    by_contra hnone
    rw [(failures_eq_nil_iff input files).2 fun arg harg hfails => hnone ⟨arg, harg, hfails⟩] at hn
    simp at hn
  · rintro ⟨arg, harg, hfails⟩
    have hne : t.failures input files ≠ [] := fun hnil =>
      (failures_eq_nil_iff input files).1 hnil arg harg hfails
    obtain ⟨n, hn⟩ := List.exists_mem_of_ne_nil _ hne
    exact ⟨n, hn, isFailure_of_mem_failures hn⟩

/-- Without the standard input, failures are told argument by argument. -/
lemma FileTree.failures_eq_flatMap {t : FileTree} {files : List Text} (input : ByteArray)
    (hfiles : ∀ arg ∈ files, isInputArgument arg = false) :
    t.failures input files = files.flatMap t.argumentFailures := by
  induction files with
  | nil => rfl
  | cons arg files ih =>
    rw [failures, hfiles arg (by simp), if_neg (by simp), ih fun a ha => hfiles a (by simp [ha]),
      List.flatMap_cons]

/-! ## The two commands -/

/-- **Checking tells what formatting would change.** Let no file be found twice, and no argument be
the standard input. Each path that `check` tells to be not formatted leads to a file whose bytes
`format` would change, and each such file is told. Both commands exit with 2 on the same arguments,
those that find nothing or find a file that holds no text; else `check` exits with 1 just if a file
is told. The order of the arguments does not matter. -/
theorem check_agrees_with_write (i : Invocation) (tree : FileTree) (input : ByteArray)
    (directory : Text) {config : Config} {files : List Text}
    (hconfig : Config.lookup tree i.config tree.herePath directory = .ok config)
    (hfiles : ∀ arg ∈ files, isInputArgument arg = false)
    (honce : ∀ l, tree.timesFound files l ≤ 1) :
    let check := fun files : List Text =>
      Invocation.run { i with command := .check files } tree input directory
    let write := fun files : List Text =>
      Invocation.run { i with command := .format true false files } tree input directory
    (∀ subject, .needsFormatting subject ∈ (check files).notices →
      ∃ l, tree.locate? subject = some l ∧ (write files).tree.content? l ≠ tree.content? l) ∧
    (∀ l, (write files).tree.content? l ≠ tree.content? l →
      ∃ subject, tree.locate? subject = some l ∧
        .needsFormatting subject ∈ (check files).notices) ∧
    ((check files).exitCode = 2 ↔ (write files).exitCode = 2) ∧
    ((check files).exitCode = 2 ↔ ∃ arg ∈ files, tree.Fails input arg) ∧
    ((check files).exitCode ≠ 2 →
      ((∃ subject, .needsFormatting subject ∈ (check files).notices) →
        (check files).exitCode = 1) ∧
      ((∀ subject, .needsFormatting subject ∉ (check files).notices) →
        (check files).exitCode = 0)) ∧
    ∀ files' : List Text, files'.Perm files →
      (check files').exitCode = (check files).exitCode ∧
      (write files').exitCode = (write files).exitCode ∧
      ∀ subject, .needsFormatting subject ∈ (check files').notices ↔
        .needsFormatting subject ∈ (check files).notices := by
  intro check write
  let job : Job := { options := i.options config.format, keywords := config.keywordSet }
  have hcheck : ∀ files' : List Text, (∀ arg ∈ files', isInputArgument arg = false) →
      (check files').notices = files'.flatMap (job.verdicts tree) := by
    intro files' hfiles'
    have hrun : check files' = files'.foldl job.checkArgument { tree, input } := by
      simp only [check, Invocation.run, hconfig, job]
      rfl
    rw [hrun, job.foldl_checkArgument hfiles']
    exact List.nil_append _
  have hwrite : ∀ files' : List Text, ∃ rest printed,
      job.Reached tree (files'.flatMap tree.visits) (tree.failures input files') rest printed
        (write files') := by
    intro files'
    obtain ⟨rest, hreached⟩ := (job.reached_start tree input).foldl_formatArgument files'
    have hrun : write files' = files'.foldl (job.formatArgument .write) { tree, input } := by
      simp only [write, Invocation.run, hconfig, job]
      rfl
    rw [hrun]
    exact ⟨rest, _, hreached⟩
  obtain ⟨rest, printed, hreached⟩ := hwrite files
  have hchanged := Job.content?_ne_iff hfiles honce hreached
  have htold : ∀ subject, .needsFormatting subject ∈ (check files).notices ↔
      ∃ f, job.Unformatted tree files f ∧ f.shown = subject := by
    intro subject
    rw [hcheck files hfiles]
    exact Job.needsFormatting_mem_iff
  have hcheckFails : (check files).exitCode = 2 ↔ ∃ arg ∈ files, tree.Fails input arg := by
    rw [Work.exitCode_eq_two_iff, hcheck files hfiles]
    exact Job.exists_isFailure_iff hfiles input
  have hwriteFails : (write files).exitCode = 2 ↔ ∃ arg ∈ files, tree.Fails input arg := by
    rw [Work.exitCode_eq_two_iff, hreached.notices]
    exact FileTree.exists_isFailure_failures_iff input files
  refine ⟨?_, ?_, hcheckFails.trans hwriteFails.symm, hcheckFails, Work.exitCode_of_ne_two, ?_⟩
  · intro subject hsubject
    obtain ⟨f, hf, rfl⟩ := (htold subject).1 hsubject
    exact ⟨f.location, hf.locate?_shown, (hchanged f.location).2 ⟨f, hf, rfl⟩⟩
  · intro l hl
    obtain ⟨f, hf, rfl⟩ := (hchanged l).1 hl
    exact ⟨f.shown, hf.locate?_shown, (htold f.shown).2 ⟨f, hf, rfl⟩⟩
  · intro files' hperm
    have hfiles' : ∀ arg ∈ files', isInputArgument arg = false := fun arg harg =>
      hfiles arg (hperm.mem_iff.1 harg)
    obtain ⟨rest', printed', hreached'⟩ := hwrite files'
    have hchecked : (check files').notices.Perm (check files).notices := by
      rw [hcheck files' hfiles', hcheck files hfiles]
      exact hperm.flatMap_right _
    have hwritten : (write files').notices.Perm (write files).notices := by
      rw [hreached'.notices, hreached.notices, FileTree.failures_eq_flatMap input hfiles',
        FileTree.failures_eq_flatMap input hfiles]
      exact hperm.flatMap_right _
    exact ⟨Work.exitCode_of_perm hchecked, Work.exitCode_of_perm hwritten,
      fun subject => hchecked.mem_iff⟩

/-- A pattern that leads through the directory above and back finds a file that is not formatted, and
a directory reached by the root holds a file that encodes no text: the one is told and changed, and
both commands fail on the other. -/
theorem check_agrees_with_write_mixedTree :
    let files : List Text := ["/w/d", "../*/a.sql"].map String.toList
    let i : Invocation :=
      { command := .check files, config := none, lowercase := false, indentSize := none,
        verbose := false }
    let checked := i.run mixedTree .empty []
    let written := Invocation.run { i with command := .format true false files } mixedTree .empty []
    (∀ l, mixedTree.timesFound files l ≤ 1) ∧
    .needsFormatting "../w/a.sql".toList ∈ checked.notices ∧
    written.tree.content? ["w".toList, "a.sql".toList] ≠
      mixedTree.content? ["w".toList, "a.sql".toList] ∧
    checked.exitCode = 2 ∧ written.exitCode = 2 := by
  intro files i checked written
  have hconfig : Config.lookup mixedTree i.config mixedTree.herePath [] = .ok {} := rfl
  have honce : ∀ l, mixedTree.timesFound files l ≤ 1 := by
    have hnodup : (files.flatMap mixedTree.visits).Nodup := by decide +kernel
    exact List.nodup_iff_count.1 hnodup
  have hfails : mixedTree.Fails .empty "/w/d".toList := by
    have hfound : mixedTree.discover "/w/d".toList = .ok
        [⟨"/w/d/b.sql".toList, ["w".toList, "d".toList, "b.sql".toList]⟩,
          ⟨"/w/d/c.sql".toList, ["w".toList, "d".toList, "c.sql".toList]⟩] := rfl
    rw [FileTree.Fails, if_neg (by decide), hfound]
    exact ⟨_, List.mem_cons_self, _, rfl, by decide +kernel⟩
  obtain ⟨htold, -, hexits, hexit, -⟩ :=
    check_agrees_with_write i mixedTree .empty [] hconfig (by decide) honce
  have htwo : checked.exitCode = 2 := hexit.2 ⟨_, by decide, hfails⟩
  have hmem : .needsFormatting "../w/a.sql".toList ∈ checked.notices := by decide +kernel
  obtain ⟨l, hl, hchanged⟩ := htold _ hmem
  have hlocate : mixedTree.locate? "../w/a.sql".toList = some ["w".toList, "a.sql".toList] := by
    decide +kernel
  obtain rfl : ["w".toList, "a.sql".toList] = l := Option.some.inj (hlocate.symm.trans hl)
  exact ⟨honce, hmem, hchanged, htwo, hexits.1 htwo⟩

end SqlIndent
