import SqlIndent.Proofs.Discovery.Beginnings

/-!
# Just the SQL files are found

What a path argument stands for is told here from the tree and the argument alone. A regular file
stands for itself; a directory for the regular files at any depth below it that have the extension
`sql`; anything else is a pattern, and stands for the files with that extension to which a path leads
that matches the pattern. Nothing is missed and nothing else is found (`discover_exact`). Paths that
are too long lead nowhere, so a file that can be shown by such a path only is not found.
-/

namespace SqlIndent

/-- The extension `sql` has a name before it. -/
lemma hasSqlExtension_iff {name : Text} :
    hasSqlExtension name = true ↔ ∃ stem, stem ≠ [] ∧ name = stem ++ ['.', 's', 'q', 'l'] := by
  rw [hasSqlExtension, Bool.and_eq_true, List.isSuffixOf_iff_suffix, decide_eq_true_eq]
  constructor
  · rintro ⟨⟨stem, rfl⟩, hlength⟩
    refine ⟨stem, ?_, rfl⟩
    rintro rfl
    simp at hlength
  · rintro ⟨stem, hstem, rfl⟩
    refine ⟨List.suffix_append _ _, ?_⟩
    have hpos := List.length_pos_iff.2 hstem
    simp only [List.length_append, List.length_cons, List.length_nil]
    omega

namespace FileTree

/-- A regular file whose name has the extension `sql`. -/
structure HoldsSql (t : FileTree) (l : Location) : Prop where
  regular : (t.content? l).isSome = true
  extension : ∃ stem, stem ≠ [] ∧ l.getLast? = some (stem ++ ['.', 's', 'q', 'l'])

/-- What stands below the directory to which a path leads, shown by the path and the names on the
way. -/
def IsBelow (t : FileTree) (path : Text) (f : Found) : Prop :=
  ∃ d names, t.locate? path = some d ∧ names ≠ [] ∧
    f.location = d ++ names ∧ f.shown = Path.joinAll path names

/-- What is shown by a path that matches a pattern and leads to it. -/
def IsMatch (t : FileTree) (pattern : Text) (f : Found) : Prop :=
  Glob.Matches pattern f.shown ∧ t.locate? f.shown = some f.location

variable {t : FileTree}

/-- What passes for an SQL file is a regular file with the extension, shown by a path that can be
read. -/
lemma isSqlFile_iff {f : Found} :
    t.isSqlFile f = true ↔ t.HoldsSql f.location ∧ Path.fits f.shown = true := by
  rw [isSqlFile, Bool.and_eq_true, Bool.and_eq_true, Option.any_eq_true]
  refine and_congr_left fun _ => ⟨?_, ?_⟩
  · rintro ⟨hregular, name, hlast, hname⟩
    obtain ⟨stem, hstem, rfl⟩ := hasSqlExtension_iff.1 hname
    exact ⟨hregular, stem, hstem, hlast⟩
  · rintro ⟨hregular, stem, hstem, hlast⟩
    exact ⟨hregular, _, hlast, hasSqlExtension_iff.2 ⟨stem, hstem, rfl⟩⟩

/-- A regular file is no directory. -/
lemma isDirectory_of_content? {l : Location} (h : (t.content? l).isSome = true) :
    t.isDirectory l = false := by
  obtain ⟨bytes, hbytes⟩ := Option.isSome_iff_exists.1 h
  have hnode := content?_eq_some_iff.1 hbytes
  have hne : l ≠ [] := by
    rintro rfl
    exact (t.closed ([], .file bytes) (mem_of_node? hnode)).1 rfl
  rw [isDirectory, hnode, List.isEmpty_eq_false_iff.2 hne]
  rfl

/-! ## Below a directory -/

/-- What is made of the nodes below a place is what is made of the names of all nodes there. -/
lemma mem_map_below_iff {α : Type} {g : Location → α} {l : Location} {a : α} :
    (a ∈ (t.below l).map fun n => g n.1) ↔
      ∃ names, names ≠ [] ∧ (t.node? (l ++ names)).isSome = true ∧ a = g names := by
  rw [List.mem_map]
  constructor
  · rintro ⟨⟨names, n⟩, hn, rfl⟩
    obtain ⟨hne, hnode⟩ := mem_below_iff.1 hn
    exact ⟨names, hne, Option.isSome_of_eq_some hnode, rfl⟩
  · rintro ⟨names, hne, hnode, rfl⟩
    obtain ⟨n, hn⟩ := Option.isSome_iff_exists.1 hnode
    exact ⟨(names, n), mem_below_iff.2 ⟨hne, hn⟩, rfl⟩

/-- The places below a directory are among all the places of the tree, in their order. -/
lemma map_below_sublist (t : FileTree) (l : Location) :
    ((t.below l).map fun n => l ++ n.1).Sublist (t.nodes.map Prod.fst) := by
  have hfilter : ((t.below l).map fun n => l ++ n.1) =
      (t.nodes.filter fun n => l.isPrefixOf n.1 && l.length < n.1.length).map Prod.fst := by
    rw [below, List.map_filterMap, ← List.filterMap_eq_filter, List.map_filterMap]
    refine List.filterMap_congr fun n _ => ?_
    by_cases hbelow : (l.isPrefixOf n.1 && l.length < n.1.length) = true
    · obtain ⟨rest, hrest⟩ := List.isPrefixOf_iff_prefix.1 (Bool.and_eq_true_iff.1 hbelow).1
      rw [if_pos hbelow, Option.guard, if_pos hbelow]
      simp [← hrest]
    · rw [if_neg hbelow, Option.guard, if_neg hbelow]
      rfl
  rw [hfilter]
  exact List.filter_sublist.map Prod.fst

/-- No place below a directory occurs twice. -/
lemma nodup_map_below (t : FileTree) (l : Location) :
    ((t.below l).map fun n => l ++ n.1).Nodup := by
  refine List.Nodup.sublist (map_below_sublist t l) (t.increasing.imp fun hlt => ?_)
  rintro rfl
  exact List.lt_irrefl _ hlt

/-- What is found below a directory is all that stands there at any depth, shown by the names on the
way. -/
lemma mem_foundBelow_iff {d f : Found} :
    f ∈ t.foundBelow d ↔ ∃ names, names ≠ [] ∧ (t.node? (d.location ++ names)).isSome = true ∧
      f = ⟨Path.joinAll (Path.withoutHere d.shown) names, d.location ++ names⟩ :=
  mem_map_below_iff (g := fun names =>
    Found.mk (Path.joinAll (Path.withoutHere d.shown) names) (d.location ++ names))

/-- What is found in a directory is all that stands right there. -/
lemma mem_foundIn_iff {d f : Found} :
    f ∈ t.foundIn d ↔ ∃ name, (t.node? (d.location ++ [name])).isSome = true ∧
      f = ⟨Path.join (Path.withoutHere d.shown) name, d.location ++ [name]⟩ := by
  rw [foundIn, List.mem_filter, mem_foundBelow_iff]
  constructor
  · rintro ⟨⟨names, -, hnode, rfl⟩, hlength⟩
    rw [beq_iff_eq, List.length_append, Nat.add_left_cancel_iff, List.length_eq_one_iff] at hlength
    obtain ⟨name, rfl⟩ := hlength
    exact ⟨name, hnode, rfl⟩
  · rintro ⟨name, hnode, rfl⟩
    exact ⟨⟨[name], by simp, hnode, rfl⟩, by simp⟩

/-- The directories to which wildcards lead by their dots. -/
lemma mem_foundDots_iff {d f : Found} {tokens : List Glob.Token} :
    f ∈ t.foundDots d tokens ↔ t.isDirectory d.location = true ∧
      tokens.head? = some (.char '.') ∧
      ∃ dots ∈ [Path.above, Path.here], Glob.StandFor tokens dots ∧
        f ∈ t.reach (Path.join d.shown dots) := by
  unfold foundDots
  split
  next h =>
    rw [Bool.and_eq_true, beq_iff_eq] at h
    simp only [h, List.mem_flatMap, List.mem_filter, Glob.matchTokens_iff_standFor, and_assoc,
      true_and]
  next h =>
    rw [Bool.and_eq_true, beq_iff_eq, not_and] at h
    simp only [List.not_mem_nil, false_iff]
    exact fun hf => h hf.1 hf.2.1

/-! ## Files that are found are shown by paths that are spelled -/

section Sound

variable {d e : Found} {rest : List Glob.Part} {q : Text} (hrest : Glob.Spells rest e.shown q)

include hrest

/-- A name of a pattern that is looked up is spelled by itself. -/
lemma spells_of_mem_reach {p text : Text}
    (he : e ∈ t.reach (Path.join (Path.withoutHere p) text)) :
    Glob.Spells (.name text :: rest) p q := by
  obtain ⟨hshown, hl⟩ := mem_reach_iff.1 he
  obtain ⟨hleads, hfits⟩ := locate?_eq_some_iff.1 hl
  rw [hshown] at hrest
  exact .name ⟨hleads.nonempty, hfits⟩ hrest

/-- A part with wildcards that matches the dots of a directory spells them. -/
lemma spells_of_mem_foundDots {tokens : List Glob.Token} (he : e ∈ t.foundDots d tokens) :
    Glob.Spells (.wild tokens :: rest) d.shown q := by
  obtain ⟨-, hdot, dots, hdots, htokens, he⟩ := mem_foundDots_iff.1 he
  obtain ⟨hshown, hl⟩ := mem_reach_iff.1 he
  obtain ⟨hleads, hfits⟩ := locate?_eq_some_iff.1 hl
  rw [hshown] at hrest
  exact .dots hdots hdot htokens ⟨hleads.nonempty, hfits⟩ hrest

/-- A part with wildcards spells the names in a directory that its tokens match. -/
lemma spells_of_mem_foundIn {tokens : List Glob.Token} (he : e ∈ t.foundIn d)
    (htokens : e.location.getLast?.any (Glob.matchTokens tokens) = true) :
    Glob.Spells (.wild tokens :: rest) d.shown q := by
  obtain ⟨name, hnode, rfl⟩ := mem_foundIn_iff.1 he
  rw [List.getLast?_concat, Option.any_some, Glob.matchTokens_iff_standFor] at htokens
  exact .wild (isName_of_node? hnode name (by simp)) htokens hrest

/-- Two stars spell the directories above a name at any depth, and the next part spells the name. -/
lemma spells_of_mem_foundBelow {part : Glob.Part} (hpart : part ≠ .anyDepth)
    (he : e ∈ (t.foundBelow d).filter fun f => f.location.getLast?.any (part.accepts ·)) :
    Glob.Spells (.anyDepth :: part :: rest) d.shown q := by
  obtain ⟨he, haccepts⟩ := List.mem_filter.1 he
  obtain ⟨names, hne, hnode, rfl⟩ := mem_foundBelow_iff.1 he
  obtain ⟨names, name, rfl⟩ := names.eq_nil_or_concat.resolve_left hne
  rw [List.concat_eq_append] at *
  rw [List.getLast?_append, List.getLast?_concat, Option.some_or, Option.any_some,
    Glob.accepts_iff_names hpart] at haccepts
  exact .anyDepth (fun n hn => isName_of_node? hnode n (List.mem_append_right _ hn)) haccepts hrest

end Sound

/-- Going through the parts of a pattern, files are found by paths that the parts spell. -/
lemma spells_of_mem_expand (parts : List Glob.Part) {d f : Found}
    (hf : f ∈ t.expand parts d) (hregular : (t.content? f.location).isSome = true) :
    Glob.Spells parts d.shown f.shown := by
  -- the recursion of `expand`, as for `expand_congr`
  match parts with
  | [] =>
    rw [expand, List.mem_singleton] at hf
    rw [hf]
    exact .done _
  | .name text :: rest =>
    obtain ⟨e, he, hf⟩ := List.mem_flatMap.1 hf
    rw [← Path.join_withoutHere] at he
    exact spells_of_mem_reach (spells_of_mem_expand rest hf hregular) he
  | .wild tokens :: rest =>
    obtain ⟨e, he, hf⟩ := List.mem_flatMap.1 hf
    have hrest := spells_of_mem_expand rest hf hregular
    rcases List.mem_append.1 he with he | he
    · exact spells_of_mem_foundDots hrest he
    · obtain ⟨he, htokens⟩ := List.mem_filter.1 he
      exact spells_of_mem_foundIn hrest he htokens
  | [.anyDepth] =>
    have hdirectory := (List.mem_filter.1 hf).2
    rw [isDirectory_of_content? hregular] at hdirectory
    simp at hdirectory
  | .anyDepth :: .anyDepth :: rest =>
    exact .again (spells_of_mem_expand (.anyDepth :: rest) hf hregular)
  | .anyDepth :: .name text :: rest =>
    obtain ⟨e, he, hf⟩ := List.mem_flatMap.1 hf
    exact spells_of_mem_foundBelow (spells_of_mem_expand rest hf hregular) (by simp) he
  | .anyDepth :: .wild tokens :: rest =>
    obtain ⟨e, he, hf⟩ := List.mem_flatMap.1 hf
    exact spells_of_mem_foundBelow (spells_of_mem_expand rest hf hregular) (by simp) he

/-! ## Paths that are spelled show files that are found -/

/-- Where a spelled path leads into the tree, so does the path from which it is spelled. -/
lemma exists_leadsTo_of_spells {parts : List Glob.Part} {p q : Text} {l : Location}
    (h : Glob.Spells parts p q) (hp : p ≠ []) (hq : t.LeadsTo q l) : ∃ d, t.LeadsTo p d := by
  induction h with
  | done p => exact ⟨l, hq⟩
  | name hlead _ ih =>
    obtain ⟨d, hd⟩ := ih hlead.1 hq
    exact hd.beginning_withoutHere hp
  | wild hname _ _ ih =>
    obtain ⟨d, hd⟩ := ih (Path.join_name_ne_nil hname) hq
    exact hd.beginning_withoutHere hp
  | dots _ _ _ hlead _ ih =>
    obtain ⟨d, hd⟩ := ih hlead.1 hq
    obtain ⟨d', hd', -⟩ := hd.beginning hp
    exact ⟨d', hd'⟩
  | anyDepth hnames _ _ ih =>
    obtain ⟨d, hd⟩ := ih (Path.joinAll_concat_ne_nil _ (hnames _ (by simp))) hq
    exact hd.beginning_joinAll_withoutHere hp (by simp) hnames
  | again _ ih => exact ih hp hq

/-- After `**` the next part, if it is another one, is compared with the names at any depth. -/
lemma expand_anyDepth_cons {part : Glob.Part} (hpart : part ≠ .anyDepth) (parts : List Glob.Part)
    (d : Found) :
    t.expand (.anyDepth :: part :: parts) d =
      ((t.foundBelow d).filter fun f => f.location.getLast?.any (part.accepts ·)).flatMap
        (t.expand parts) := by
  cases part with
  | anyDepth => exact absurd rfl hpart
  | _ => rfl

/-- Going through the parts of a pattern, what a spelled path leads to is found. -/
lemma mem_expand_of_spells {parts : List Glob.Part} {p q : Text} {d l : Location}
    (h : Glob.Spells parts p q) (hp : t.LeadsTo p d) (hq : t.LeadsTo q l) :
    ⟨q, l⟩ ∈ t.expand parts ⟨p, d⟩ := by
  induction h generalizing d with
  | done p =>
    rw [hp.unique hq]
    exact List.mem_singleton.2 rfl
  | @name text p q parts hlead hrest ih =>
    obtain ⟨e, he⟩ := exists_leadsTo_of_spells hrest hlead.1 hq
    refine List.mem_flatMap.2 ⟨⟨_, e⟩, ?_, ih he hq⟩
    rw [← Path.join_withoutHere]
    exact mem_reach_iff.2 ⟨rfl, locate?_eq_some_iff.2 ⟨he, hlead.2⟩⟩
  | @wild tokens name p q parts hname htokens hrest ih =>
    obtain ⟨e, he⟩ := exists_leadsTo_of_spells hrest (Path.join_name_ne_nil hname) hq
    obtain rfl := hp.join_withoutHere_name hname he
    refine List.mem_flatMap.2 ⟨⟨_, d ++ [name]⟩, List.mem_append_right _ ?_, ih he hq⟩
    refine List.mem_filter.2 ⟨mem_foundIn_iff.2 ⟨name, he.isSome_node? (by simp), rfl⟩, ?_⟩
    rw [List.getLast?_concat, Option.any_some]
    exact Glob.matchTokens_iff_standFor.2 htokens
  | @dots tokens dots p q parts hdots hdot htokens hlead hrest ih =>
    obtain ⟨e, he⟩ := exists_leadsTo_of_spells hrest hlead.1 hq
    refine List.mem_flatMap.2 ⟨⟨_, e⟩, List.mem_append_left _ ?_, ih he hq⟩
    obtain ⟨d', hd', hfollows⟩ := he.beginning hp.nonempty
    have hdirectory : t.isDirectory d = true := by
      rw [hp.unique hd']
      exact isDirectory_of_follow_parts hfollows
    exact mem_foundDots_iff.2 ⟨hdirectory, hdot, dots, hdots, htokens,
      mem_reach_iff.2 ⟨rfl, locate?_eq_some_iff.2 ⟨he, hlead.2⟩⟩⟩
  | @anyDepth part names name p q parts hnames hpart hrest ih =>
    have hne : names ++ [name] ≠ [] := by simp
    obtain ⟨e, he⟩ := exists_leadsTo_of_spells hrest
      (Path.joinAll_concat_ne_nil names (hnames name (by simp))) hq
    obtain rfl := hp.joinAll_withoutHere_names hne hnames he
    have hdepth : part ≠ .anyDepth := by
      rintro rfl
      exact hpart
    rw [expand_anyDepth_cons hdepth]
    refine List.mem_flatMap.2 ⟨⟨_, d ++ (names ++ [name])⟩, ?_, ih he hq⟩
    refine List.mem_filter.2
      ⟨mem_foundBelow_iff.2 ⟨_, hne, he.isSome_node? (by simp), rfl⟩, ?_⟩
    rw [← List.append_assoc, List.getLast?_concat, Option.any_some]
    exact (Glob.accepts_iff_names hdepth).2 hpart
  | again _ ih => exact ih hp hq

/-! ## What an argument stands for -/

lemma HoldsSql.isSome_node? {l : Location} (h : t.HoldsSql l) : (t.node? l).isSome = true := by
  obtain ⟨bytes, hbytes⟩ := Option.isSome_iff_exists.1 h.regular
  exact Option.isSome_of_eq_some (content?_eq_some_iff.1 hbytes)

/-- A regular file is no directory, so a path leads to at most one of the two. -/
lemma leadsToDirectory_of_isFile {path : Text} (h : t.isFile path = true) :
    t.leadsToDirectory path = false := by
  obtain ⟨l, hl, hregular⟩ := (Option.any_eq_true _ _).1 h
  rw [leadsToDirectory, hl, Option.any_some, isDirectory_of_content? hregular]

/-- What is found below a directory by its path. -/
lemma mem_sqlFilesBelow_iff {path : Text} {d : Location} (hd : t.locate? path = some d)
    {f : Found} :
    f ∈ t.sqlFilesBelow ⟨path, d⟩ ↔
      t.IsBelow path f ∧ t.HoldsSql f.location ∧ Path.fits f.shown = true := by
  rw [sqlFilesBelow, List.mem_filter, isSqlFile_iff]
  refine and_congr_left fun hsqlFile => ?_
  rw [mem_map_below_iff (g := fun names => Found.mk (Path.joinAll path names) (d ++ names))]
  constructor
  · rintro ⟨names, hne, -, rfl⟩
    exact ⟨d, names, hd, hne, rfl, rfl⟩
  · rintro ⟨d', names, hd', hne, hlocation, hshown⟩
    obtain rfl := Option.some.inj (hd.symm.trans hd')
    have hnode := hsqlFile.1.isSome_node?
    rw [hlocation] at hnode
    exact ⟨names, hne, hnode, by rw [← hlocation, ← hshown]⟩

/-- No file below a directory is found twice. -/
lemma nodup_sqlFilesBelow (t : FileTree) (d : Found) :
    ((t.sqlFilesBelow d).map Found.location).Nodup := by
  have hsublist := (List.filter_sublist (p := t.isSqlFile)
    (l := (t.below d.location).map fun n =>
      Found.mk (Path.joinAll d.shown n.1) (d.location ++ n.1))).map Found.location
  rw [List.map_map] at hsublist
  exact (nodup_map_below t d.location).sublist hsublist

/-- A pattern finds just the SQL files to which a path leads that matches it. -/
lemma mem_matching_iff {pattern : Text} {f : Found} :
    f ∈ t.matching pattern ↔ t.IsMatch pattern f ∧ t.HoldsSql f.location := by
  have hstart : t.LeadsTo (Glob.start pattern) (t.startOf pattern) := leadsTo_start pattern
  unfold matching
  constructor
  · intro hf
    split at hf
    · simp at hf
    next parts hparse =>
    obtain ⟨hf, hsqlFile⟩ := List.mem_filter.1 hf
    obtain ⟨hsql, hfits⟩ := isSqlFile_iff.1 hsqlFile
    obtain ⟨-, hparts⟩ := Glob.parse?_eq_some_iff.1 hparse
    have hleads := leadsTo_of_mem_expand parts hstart hf
    exact ⟨⟨⟨parts, hparts, spells_of_mem_expand parts hf hsql.regular⟩,
      locate?_eq_some_iff.2 ⟨hleads, hfits⟩⟩, hsql⟩
  · rintro ⟨⟨hmatches, hl⟩, hsql⟩
    obtain ⟨hleads, hfits⟩ := locate?_eq_some_iff.1 hl
    -- a path with a slash at the end would lead to a directory
    have hslash : pattern.getLast? ≠ some '/' := by
      intro hslash
      have hdirectory := hleads.isDirectory_of_getLast? (hmatches.getLast? hslash)
      rw [isDirectory_of_content? hsql.regular] at hdirectory
      simp at hdirectory
    have hne := hmatches.ne_nil
    obtain ⟨parts, hparts, hspells⟩ := hmatches
    rw [Glob.parse?_eq_some_iff.2 ⟨⟨hne, hslash⟩, hparts⟩]
    exact List.mem_filter.2
      ⟨mem_expand_of_spells hspells hstart hleads, isSqlFile_iff.2 ⟨hsql, hfits⟩⟩

/-- An argument that leads to a regular file stands for it. -/
lemma discover_of_isFile {path : Text} (h : t.isFile path = true) :
    ∃ l, t.locate? path = some l ∧ t.discover path = .ok [⟨path, l⟩] := by
  obtain ⟨l, hl, -⟩ := (Option.any_eq_true _ _).1 h
  refine ⟨l, hl, ?_⟩
  rw [discover, if_pos h, reach, hl]
  rfl

/-- An argument that leads to a directory stands for the SQL files below it. -/
lemma discover_of_leadsToDirectory {path : Text} (h : t.leadsToDirectory path = true) :
    ∃ found, t.discover path = .ok found ∧ (found.map Found.location).Nodup ∧
      ∀ f, f ∈ found ↔ t.IsBelow path f ∧ t.HoldsSql f.location ∧ Path.fits f.shown = true := by
  obtain ⟨d, hd, -⟩ := (Option.any_eq_true _ _).1 h
  have hfile : t.isFile path = false := by
    cases hfile : t.isFile path with
    | false => rfl
    | true => simp [leadsToDirectory_of_isFile hfile] at h
  refine ⟨t.sqlFilesBelow ⟨path, d⟩, ?_, nodup_sqlFilesBelow t ⟨path, d⟩, fun f =>
    mem_sqlFilesBelow_iff hd⟩
  rw [discover, hfile, if_neg (by simp), if_pos h, reach, hd]
  exact congrArg Except.ok (List.flatMap_singleton _ _)

/-- An argument that leads to no file and to no directory is a pattern. -/
lemma discover_of_neither {path : Text} (hfile : t.isFile path = false)
    (hdirectory : t.leadsToDirectory path = false) :
    t.discover path =
      if t.matching path = [] then .error (.noMatch path) else .ok (t.matching path) := by
  rw [discover, hfile, hdirectory, if_neg (by simp), if_neg (by simp)]
  split
  next h => rw [if_pos h]
  next h => rw [if_neg h]

/-- **A regular file stands for itself, a directory for the SQL files below it, and anything else for
the SQL files that match; where there are none to match, that is an error.** -/
theorem discover_exact (t : FileTree) (path : Text) :
    (t.isFile path = true →
      ∃ l, t.locate? path = some l ∧ t.discover path = .ok [⟨path, l⟩]) ∧
    (t.leadsToDirectory path = true →
      ∃ found, t.discover path = .ok found ∧ (found.map Found.location).Nodup ∧
        ∀ f, f ∈ found ↔ t.IsBelow path f ∧ t.HoldsSql f.location ∧ Path.fits f.shown = true) ∧
    (t.isFile path = false → t.leadsToDirectory path = false →
      (∀ found, t.discover path = .ok found →
        found ≠ [] ∧ ∀ f, f ∈ found ↔ t.IsMatch path f ∧ t.HoldsSql f.location) ∧
      (∀ e, t.discover path = .error e → e = .noMatch path) ∧
      (t.discover path = .error (.noMatch path) ↔
        ¬Glob.IsValid path ∨ ∀ f, ¬(t.IsMatch path f ∧ t.HoldsSql f.location))) := by
  refine ⟨discover_of_isFile, discover_of_leadsToDirectory, fun hfile hdirectory => ?_⟩
  rw [discover_of_neither hfile hdirectory]
  have hmatching : t.matching path = [] ↔ ∀ f, ¬(t.IsMatch path f ∧ t.HoldsSql f.location) := by
    simp only [List.eq_nil_iff_forall_not_mem, mem_matching_iff]
  by_cases hempty : t.matching path = []
  · simp only [if_pos hempty, reduceCtorEq, false_implies, implies_true, Except.error.injEq,
      true_and, true_iff]
    exact ⟨fun e he => he.symm, Or.inr (hmatching.1 hempty)⟩
  · simp only [if_neg hempty, reduceCtorEq, false_implies, implies_true, Except.ok.injEq,
      true_and, false_iff, not_or, not_not]
    refine ⟨?_, ?_, fun hnone => hempty (hmatching.2 hnone)⟩
    · rintro found rfl
      exact ⟨hempty, fun f => mem_matching_iff⟩
    · obtain ⟨f, hf⟩ := List.exists_mem_of_ne_nil _ hempty
      exact (mem_matching_iff.1 hf).1.1.isValid

/-- A tree with the working directory `/w`. Below it there are a hidden file, one that is named by the
bare extension, one with another spelling of it, and a directory that is named like a file; beside it
there is a device. -/
def nestedTree : FileTree where
  nodes := [(["n.txt".toList], .file (encode [])), (["null.sql".toList], .special (encode [])),
    (["w".toList], .directory), (["w".toList, "d".toList], .directory),
    (["w".toList, "d".toList, ".h.sql".toList], .file (encode [])),
    (["w".toList, "d".toList, ".sql".toList], .file (encode [])),
    (["w".toList, "d".toList, "e.sql".toList], .directory),
    (["w".toList, "d".toList, "e.sql".toList, "b.sql".toList], .file (encode [])),
    (["w".toList, "d".toList, "x.SQL".toList], .file (encode []))]
  increasing := by decide
  closed := by decide
  named := by decide
  here := ["w".toList]
  hereIsDirectory := by decide

/-- Files above the working directory, a directory that holds it, a pattern that leads out of it and
back, one from the root on, a device, and a part that cannot be read. -/
theorem discover_exact_nestedTree :
    let hidden := ["w".toList, "d".toList, ".h.sql".toList]
    let nested := ["w".toList, "d".toList, "e.sql".toList, "b.sql".toList]
    nestedTree.discover "../n.txt".toList = .ok [⟨"../n.txt".toList, ["n.txt".toList]⟩] ∧
    nestedTree.discover "..".toList =
      .ok [⟨"../w/d/.h.sql".toList, hidden⟩, ⟨"../w/d/e.sql/b.sql".toList, nested⟩] ∧
    nestedTree.IsBelow "..".toList ⟨"../w/d/e.sql/b.sql".toList, nested⟩ ∧
    nestedTree.discover "../*/d/**/e*/?.sql".toList =
      .ok [⟨"../w/d/e.sql/b.sql".toList, nested⟩] ∧
    nestedTree.IsMatch "../*/d/**/e*/?.sql".toList ⟨"../w/d/e.sql/b.sql".toList, nested⟩ ∧
    nestedTree.discover "/w/**/.h*".toList = .ok [⟨"/w/d/.h.sql".toList, hidden⟩] ∧
    nestedTree.IsMatch "/w/**/.h*".toList ⟨"/w/d/.h.sql".toList, hidden⟩ ∧
    nestedTree.discover "/null.sql".toList = .error (.noMatch "/null.sql".toList) ∧
    nestedTree.discover "d/[".toList = .error (.noMatch "d/[".toList) := by
  intro hidden nested
  have hbelow : nestedTree.discover "..".toList =
      .ok [⟨"../w/d/.h.sql".toList, hidden⟩, ⟨"../w/d/e.sql/b.sql".toList, nested⟩] := by
    decide +kernel
  have hround : nestedTree.discover "../*/d/**/e*/?.sql".toList =
      .ok [⟨"../w/d/e.sql/b.sql".toList, nested⟩] := by
    decide +kernel
  have hroot : nestedTree.discover "/w/**/.h*".toList =
      .ok [⟨"/w/d/.h.sql".toList, hidden⟩] := by
    decide +kernel
  obtain ⟨l, hl, hfile⟩ := (discover_exact nestedTree "../n.txt".toList).1 (by decide +kernel)
  have hn : nestedTree.locate? "../n.txt".toList = some ["n.txt".toList] := by decide +kernel
  obtain rfl : ["n.txt".toList] = l := Option.some.inj (hn.symm.trans hl)
  obtain ⟨found, hfound, -, hmem⟩ :=
    (discover_exact nestedTree "..".toList).2.1 (by decide +kernel)
  obtain rfl := Except.ok.inj (hbelow.symm.trans hfound)
  obtain ⟨-, hround'⟩ := ((discover_exact nestedTree "../*/d/**/e*/?.sql".toList).2.2
    (by decide +kernel) (by decide +kernel)).1 _ hround
  obtain ⟨-, hroot'⟩ := ((discover_exact nestedTree "/w/**/.h*".toList).2.2
    (by decide +kernel) (by decide +kernel)).1 _ hroot
  obtain ⟨-, -, herror⟩ :=
    (discover_exact nestedTree "d/[".toList).2.2 (by decide +kernel) (by decide +kernel)
  refine ⟨hfile, hbelow, ((hmem _).1 (by simp)).1, hround, ((hround' _).1 (by simp)).1, hroot,
    ((hroot' _).1 (by simp)).1, by decide +kernel, herror.2 (Or.inl fun hvalid => ?_)⟩
  -- the class in the second part is not closed
  exact absurd (hvalid "[".toList (by decide)) (by decide +kernel)

/-- A path to a directory that is as long as a path may be. -/
def longestPath : Text :=
  'd' :: List.replicate 4094 '/'

/-- A tree with one file in a directory, in the root of which a program works. -/
def shallowTree : FileTree where
  nodes := [(["d".toList], .directory), (["d".toList, "a.sql".toList], .file (encode []))]
  increasing := by decide
  closed := by decide
  named := by decide
  here := []
  hereIsDirectory := by decide

/-- A regular file below a directory is not found by a path that leaves no room for its name. -/
theorem discover_longestPath :
    let file : Found := ⟨Path.joinAll longestPath ["a.sql".toList], ["d".toList, "a.sql".toList]⟩
    shallowTree.leadsToDirectory longestPath = true ∧
    shallowTree.IsBelow longestPath file ∧ shallowTree.HoldsSql file.location ∧
    ¬∃ found, shallowTree.discover longestPath = .ok found ∧ file ∈ found := by
  intro file
  have hd : shallowTree.locate? longestPath = some ["d".toList] := by decide +kernel
  have hdirectory : shallowTree.leadsToDirectory longestPath = true := by
    rw [leadsToDirectory, hd]
    decide
  have hnone : shallowTree.discover longestPath = .ok [] := by
    rw [discover, isFile, reach, hdirectory, hd]
    decide +kernel
  have hshown : file.shown = Path.joinAll longestPath ["a.sql".toList] := by dsimp only [file]
  refine ⟨hdirectory, ⟨_, ["a.sql".toList], hd, by simp, rfl, hshown⟩,
    ⟨by decide +kernel, ['a'], by simp, by decide +kernel⟩, ?_⟩
  rintro ⟨found, hfound, hmem⟩
  rw [hnone] at hfound
  obtain rfl := Except.ok.inj hfound
  simp at hmem

end FileTree
end SqlIndent
