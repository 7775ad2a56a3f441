import Mathlib.Data.List.Induction
import SqlIndent.Proofs.Discovery
import SqlIndent.Proofs.Path

/-!
# Where shown paths lead

Files that are found are shown by a path: the one that was given, or one that is put together from
it and the names on the way. This path leads to the place at which the file was found
(`locate?_shown`), so what is told about a path is told about one file.
-/

namespace SqlIndent

namespace FileTree

variable {t : FileTree}

/-! ## Following joined paths -/

/-- Parts are followed one after another. -/
lemma follow_append (l : Location) (first second : List Text) :
    t.follow l (first ++ second) = (t.follow l first).bind fun m => t.follow m second := by
  induction first generalizing l with
  | nil => rfl
  | cons part first ih =>
    rw [List.cons_append, follow, follow]
    split
    · rfl
    split
    · exact ih l
    split
    · exact ih l.dropLast
    split
    · rfl
    split
    · exact ih _
    · rfl

/-- Parts that lead nowhere stay where they are. -/
lemma eq_of_follow_idle {l m : Location} {parts : List Text}
    (hparts : parts.all Path.isIdle = true) (h : t.follow l parts = .ok m) : m = l := by
  induction parts with
  | nil => exact (Except.ok.inj h).symm
  | cons part rest ih =>
    rw [List.all_cons, Bool.and_eq_true] at hparts
    rw [follow] at h
    split at h
    · simp at h
    · rw [if_pos hparts.1] at h
      exact ih hparts.2 h

/-- What has a node in it is a directory. -/
lemma isDirectory_of_node? {l : Location} {name : Text}
    (h : (t.node? (l ++ [name])).isSome = true) : t.isDirectory l = true := by
  simpa using isDirectory_dropLast h

/-- On the way to a node there are nodes. -/
lemma isSome_node?_of_append {l rest : Location} (hl : l ≠ [])
    (h : (t.node? (l ++ rest)).isSome = true) : (t.node? l).isSome = true := by
  induction rest using List.reverseRecOn with
  | nil => simpa using h
  | append_singleton rest name ih =>
    rw [← List.append_assoc] at h
    have hdirectory := isDirectory_of_node? h
    rw [isDirectory, Bool.or_eq_true, List.isEmpty_iff] at hdirectory
    refine ih (hdirectory.elim (fun hnil => ?_) Option.isSome_of_any)
    exact absurd (List.append_eq_nil_iff.1 hnil).1 hl

/-- On the way to a node there are proper names only, so no dots and no slashes. -/
lemma isName_of_node? {l : Location} (h : (t.node? l).isSome = true) :
    ∀ name ∈ l, Path.isName name = true := by
  obtain ⟨n, hn⟩ := Option.isSome_iff_exists.1 h
  exact List.all_eq_true.1 (t.named (l, n) (mem_of_node? hn))

/-- A name leads from the directory of a node to the node. -/
lemma follow_name {l : Location} {name : Text} (h : (t.node? (l ++ [name])).isSome = true) :
    t.follow l [name] = .ok (l ++ [name]) := by
  obtain ⟨hidle, habove, -, -, hlength⟩ := Path.isName_iff.1 (isName_of_node? h name (by simp))
  rw [follow, isDirectory_of_node? h, hidle, if_neg (by simp), if_neg (by simp), if_neg habove,
    if_neg (Nat.not_lt.2 hlength), if_pos h]
  rfl

/-- A path leads to a place, however long the path is. -/
structure LeadsTo (t : FileTree) (path : Text) (l : Location) : Prop where
  noNul : '\x00' ∉ path
  nonempty : path ≠ []
  follows : t.follow (t.startOf path) (Path.parts path) = .ok l

/-- A path is looked up where it leads, unless it is too long. -/
lemma locate?_eq_some_iff {path : Text} {l : Location} :
    t.locate? path = some l ↔ t.LeadsTo path l ∧ Path.fits path = true := by
  have hresolve : t.locate? path = some l ↔ t.resolve path = .ok l := by
    rw [locate?]
    cases t.resolve path <;> simp [Except.toOption]
  rw [hresolve, resolve]
  constructor
  · intro h
    split at h
    · simp at h
    next hnul =>
    split at h
    · simp at h
    next hfits =>
    split at h
    · simp at h
    next hempty =>
    exact ⟨⟨by simpa using hnul, by simpa using hempty, h⟩, by simpa using hfits⟩
  · rintro ⟨⟨hnul, hne, hfollow⟩, hfits⟩
    rw [if_neg (by simpa using hnul), if_neg (by simpa using hfits), if_neg (by simpa using hne)]
    exact hfollow

/-- A path with another one after it starts where it starts itself. -/
lemma startOf_join {p : Text} (hp : p ≠ []) (x : Text) :
    t.startOf (Path.join p x) = t.startOf p := by
  rw [startOf, startOf, Path.isAbsolute_join hp]

/-- A path with the name of a node after it leads to the node. -/
lemma LeadsTo.join {p name : Text} {l : Location} (hp : t.LeadsTo p l)
    (h : (t.node? (l ++ [name])).isSome = true) : t.LeadsTo (Path.join p name) (l ++ [name]) := by
  obtain ⟨-, -, hslash, hnul, -⟩ := Path.isName_iff.1 (isName_of_node? h name (by simp))
  refine ⟨fun hmem => ?_, fun hnil => ?_, ?_⟩
  · rcases Path.mem_join hmem with hmem | hmem | hmem
    · exact hp.noNul hmem
    · exact absurd hmem (by decide)
    · exact hnul hmem
  · exact hp.nonempty (Path.join_eq_nil hnil).1
  · rw [startOf_join hp.nonempty]
    have hfollows := hp.follows
    rcases Path.parts_join hp.nonempty with hparts | ⟨ps, hps, hparts⟩
    · rw [hparts, Path.parts_of_not_mem hslash, follow_append, hfollows]
      exact follow_name h
    · -- the slash at the end of `p` asks for a directory, and there is one
      rw [hps, follow_append] at hfollows
      rw [hparts, Path.parts_of_not_mem hslash, follow_append]
      cases hm : t.follow (t.startOf p) ps with
      | error e => simp [hm, Except.bind] at hfollows
      | ok m =>
        rw [hm] at hfollows
        rw [← eq_of_follow_idle (by decide) hfollows]
        exact follow_name h

/-- The name of a node of the working directory leads to it. -/
lemma leadsTo_name {name : Text} (h : (t.node? (t.here ++ [name])).isSome = true) :
    t.LeadsTo name (t.here ++ [name]) := by
  have hname := isName_of_node? h name (by simp)
  obtain ⟨-, -, hslash, hnul, -⟩ := Path.isName_iff.1 hname
  refine ⟨hnul, Path.ne_nil_of_isName hname, ?_⟩
  rw [startOf, Path.isAbsolute_of_isName hname, Path.parts_of_not_mem hslash]
  exact follow_name h

/-- A path with the names on the way to a node after it leads to the node. -/
lemma LeadsTo.joinAll {p : Text} {l names : Location} (hp : t.LeadsTo p l)
    (h : names ≠ [] → (t.node? (l ++ names)).isSome = true) :
    t.LeadsTo (Path.joinAll p names) (l ++ names) := by
  induction names generalizing p l with
  | nil => simpa [Path.joinAll] using hp
  | cons name names ih =>
    have hnode : (t.node? (l ++ [name] ++ names)).isSome = true := by simpa using h (by simp)
    have hrest := ih (hp.join (isSome_node?_of_append (by simp) hnode)) fun _ => hnode
    rwa [List.append_assoc] at hrest

/-- The names on the way to a node from the working directory lead to it. -/
lemma leadsTo_joinAll_nil {names : Location} (hne : names ≠ [])
    (h : (t.node? (t.here ++ names)).isSome = true) :
    t.LeadsTo (Path.joinAll [] names) (t.here ++ names) := by
  obtain ⟨name, rest, rfl⟩ := List.exists_cons_of_ne_nil hne
  have hnode : (t.node? (t.here ++ [name] ++ rest)).isSome = true := by simpa using h
  have hname : t.LeadsTo name (t.here ++ [name]) :=
    leadsTo_name (isSome_node?_of_append (by simp) hnode)
  have hrest := hname.joinAll fun _ => hnode
  rwa [List.append_assoc] at hrest

/-- A single dot, with parts after it that lead nowhere, is the working directory. -/
lemma LeadsTo.eq_here_of_isPart {p : Text} {l : Location} (hp : t.LeadsTo p l)
    (hpart : Path.isPart Path.here p = true) : l = t.here := by
  obtain ⟨hidle, hrelative⟩ := Path.idle_of_isPart hpart
  have hfollows := hp.follows
  rw [startOf, hrelative] at hfollows
  exact eq_of_follow_idle hidle hfollows

/-! ## What is found -/

/-- What stands below a place, with the names on the way. -/
lemma mem_below_iff {l names : Location} {n : Node} :
    (names, n) ∈ t.below l ↔ names ≠ [] ∧ t.node? (l ++ names) = some n := by
  rw [below, List.mem_filterMap]
  constructor
  · rintro ⟨m, hm, hif⟩
    split at hif
    next hbelow =>
      rw [Bool.and_eq_true, List.isPrefixOf_iff_prefix, decide_eq_true_eq] at hbelow
      obtain ⟨⟨rest, hrest⟩, hlength⟩ := hbelow
      obtain ⟨rfl, rfl⟩ := Prod.mk.inj (Option.some.inj hif)
      rw [← hrest, List.length_append] at hlength
      rw [← hrest, List.drop_left]
      refine ⟨?_, hrest ▸ node?_of_mem hm⟩
      rintro rfl
      simp at hlength
    · simp at hif
  · rintro ⟨hne, hnode⟩
    refine ⟨(l ++ names, n), mem_of_node? hnode, ?_⟩
    have hpos := List.length_pos_iff.2 hne
    have hbegins : l.isPrefixOf (l ++ names) = true :=
      List.isPrefixOf_iff_prefix.2 (List.prefix_append l names)
    simp [hbegins, hne]

/-- What stands below a directory is shown by a path that leads to it. -/
lemma leadsTo_of_mem_foundBelow {d f : Found} (hd : t.LeadsTo d.shown d.location)
    (hf : f ∈ t.foundBelow d) : t.LeadsTo f.shown f.location := by
  obtain ⟨n, hn, rfl⟩ := List.mem_map.1 hf
  obtain ⟨hne, hnode⟩ := mem_below_iff.1 hn
  replace hnode := Option.isSome_of_eq_some hnode
  dsimp only
  split
  next hpart =>
    rw [hd.eq_here_of_isPart hpart] at hnode ⊢
    exact leadsTo_joinAll_nil hne hnode
  · exact hd.joinAll fun _ => hnode

/-- What a path reaches is shown by a path that leads to it: the path itself. -/
lemma leadsTo_of_mem_reach {path : Text} {f : Found} (hf : f ∈ t.reach path) :
    t.LeadsTo f.shown f.location := by
  obtain ⟨rfl, hl⟩ := mem_reach_iff.1 hf
  exact (locate?_eq_some_iff.1 hl).1

/-- The directories that dots stand for are shown by paths that lead to them. -/
lemma leadsTo_of_mem_foundDots {d f : Found} {tokens : List Glob.Token}
    (hf : f ∈ t.foundDots d tokens) : t.LeadsTo f.shown f.location := by
  unfold foundDots at hf
  split at hf
  · obtain ⟨dots, -, hdots⟩ := List.mem_flatMap.1 hf
    exact leadsTo_of_mem_reach hdots
  · simp at hf

/-- Going through the parts of a pattern, paths keep leading to what they show. -/
lemma leadsTo_of_mem_expand (parts : List Glob.Part) {d f : Found}
    (hd : t.LeadsTo d.shown d.location) (hf : f ∈ t.expand parts d) :
    t.LeadsTo f.shown f.location := by
  -- the recursion of `expand`, as for `expand_congr`
  match parts with
  | [] =>
    rw [expand, List.mem_singleton] at hf
    rwa [hf]
  | .name text :: rest =>
    obtain ⟨e, he, hf⟩ := List.mem_flatMap.1 hf
    exact leadsTo_of_mem_expand rest (leadsTo_of_mem_reach he) hf
  | .wild tokens :: rest =>
    obtain ⟨e, he, hf⟩ := List.mem_flatMap.1 hf
    refine leadsTo_of_mem_expand rest ?_ hf
    rcases List.mem_append.1 he with he | he
    · exact leadsTo_of_mem_foundDots he
    · exact leadsTo_of_mem_foundBelow hd (List.mem_filter.1 (List.mem_filter.1 he).1).1
  | [.anyDepth] => exact leadsTo_of_mem_foundBelow hd (List.mem_filter.1 hf).1
  | .anyDepth :: .anyDepth :: rest => exact leadsTo_of_mem_expand (.anyDepth :: rest) hd hf
  | .anyDepth :: .name text :: rest =>
    obtain ⟨e, he, hf⟩ := List.mem_flatMap.1 hf
    have he := leadsTo_of_mem_foundBelow hd (List.mem_filter.1 he).1
    exact leadsTo_of_mem_expand rest he hf
  | .anyDepth :: .wild tokens :: rest =>
    obtain ⟨e, he, hf⟩ := List.mem_flatMap.1 hf
    have he := leadsTo_of_mem_foundBelow hd (List.mem_filter.1 he).1
    exact leadsTo_of_mem_expand rest he hf

lemma fits_of_isSqlFile {f : Found} (h : t.isSqlFile f = true) : Path.fits f.shown = true := by
  rw [isSqlFile, Bool.and_eq_true] at h
  exact h.2

/-- A pattern starts at a directory. -/
lemma leadsTo_start (pattern : Text) :
    t.LeadsTo (Glob.start pattern) (t.startOf pattern) := by
  cases h : Path.isAbsolute pattern with
  | true =>
    rw [Glob.start, startOf, h, if_pos rfl, if_pos rfl]
    exact ⟨by decide, by decide, rfl⟩
  | false =>
    rw [Glob.start, startOf, h, if_neg (by simp), if_neg (by simp)]
    refine ⟨by decide, by decide, ?_⟩
    have hparts : Path.parts Path.here = [Path.here] := rfl
    have hstart : t.startOf Path.here = t.here := rfl
    rw [hparts, hstart, follow, t.isDirectory_here]
    rfl

/-- **The path by which a file is shown leads to the place at which it was found.** -/
theorem locate?_shown {path : Text} {found : List Found} {f : Found}
    (hfound : t.discover path = .ok found) (hf : f ∈ found) :
    t.locate? f.shown = some f.location := by
  unfold discover at hfound
  split at hfound
  · obtain rfl := Except.ok.inj hfound
    obtain ⟨rfl, hl⟩ := mem_reach_iff.1 hf
    exact hl
  · split at hfound
    · obtain rfl := Except.ok.inj hfound
      obtain ⟨d, hd, hf⟩ := List.mem_flatMap.1 hf
      obtain ⟨hmem, hsql⟩ := List.mem_filter.1 hf
      obtain ⟨n, hn, rfl⟩ := List.mem_map.1 hmem
      have hnode := Option.isSome_of_eq_some (mem_below_iff.1 hn).2
      exact locate?_eq_some_iff.2
        ⟨(leadsTo_of_mem_reach hd).joinAll fun _ => hnode, fits_of_isSqlFile hsql⟩
    · split at hfound
      · simp at hfound
      · obtain rfl := Except.ok.inj hfound
        unfold matching at hf
        split at hf
        · simp at hf
        next parts _ =>
          obtain ⟨hmem, hsql⟩ := List.mem_filter.1 hf
          exact locate?_eq_some_iff.2
            ⟨leadsTo_of_mem_expand parts (leadsTo_start path) hmem, fits_of_isSqlFile hsql⟩

end FileTree

end SqlIndent
