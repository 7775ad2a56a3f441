import SqlIndent.Discovery
import SqlIndent.Proofs.FileTree

/-!
# What is found, and when

Which files a path argument stands for depends on the outline of the tree alone, so formatting some
files does not change which files are found later. What is found is always a regular file.
-/

namespace SqlIndent.FileTree

/-! ## The outline decides -/

section Congruence

variable {s t : FileTree} (h : s.outline = t.outline)

include h

/-- What is made of the places below another one, without the nodes that stand there. -/
lemma map_below_congr {α : Type} (f : Location → α) (l : Location) :
    ((s.below l).map fun n => f n.1) = (t.below l).map fun n => f n.1 := by
  have houtline : ∀ u : FileTree, ((u.below l).map fun n => f n.1) =
      u.outline.kinds.filterMap fun n =>
        if l.isPrefixOf n.1 && l.length < n.1.length then some (f (n.1.drop l.length))
        else none := by
    intro u
    rw [below, outline, List.map_filterMap, List.filterMap_map]
    apply List.filterMap_congr
    intro n _
    dsimp only [Function.comp_apply]
    split <;> rfl
  rw [houtline, h, houtline]

lemma isSqlFile_congr (f : Found) : s.isSqlFile f = t.isSqlFile f := by
  rw [isSqlFile, isSqlFile, isSome_content?_congr h]

lemma foundBelow_congr (d : Found) : s.foundBelow d = t.foundBelow d :=
  map_below_congr h (fun names => Found.mk
    (Path.joinAll (if Path.isPart Path.here d.shown then [] else d.shown) names)
    (d.location ++ names)) d.location

lemma foundIn_congr (d : Found) : s.foundIn d = t.foundIn d := by
  rw [foundIn, foundIn, foundBelow_congr h]

lemma reach_congr (path : Text) : s.reach path = t.reach path := by
  rw [reach, reach, locate?_congr h]

lemma foundDots_congr (d : Found) (tokens : List Glob.Token) :
    s.foundDots d tokens = t.foundDots d tokens := by
  simp only [foundDots, isDirectory_congr h, reach_congr h]

/-- The parts of a pattern are gone through in the same way. -/
lemma expand_congr (parts : List Glob.Part) : s.expand parts = t.expand parts := by
  -- the recursion of `expand`: after `**` two parts are consumed, or one of two `**` is dropped
  funext d
  match parts with
  | [] => rfl
  | .name text :: rest => simp only [expand, reach_congr h, expand_congr rest]
  | .wild tokens :: rest =>
    simp only [expand, foundDots_congr h, foundIn_congr h, expand_congr rest]
  | [.anyDepth] => simp only [expand, foundBelow_congr h, isDirectory_congr h]
  | .anyDepth :: .anyDepth :: rest => simp only [expand, expand_congr (.anyDepth :: rest)]
  | .anyDepth :: .name text :: rest =>
    simp only [expand, foundBelow_congr h, expand_congr rest]
  | .anyDepth :: .wild tokens :: rest =>
    simp only [expand, foundBelow_congr h, expand_congr rest]

/-- Which files match a pattern depends on the outline alone. -/
lemma matching_congr (pattern : Text) : s.matching pattern = t.matching pattern := by
  have hfilter : s.isSqlFile = t.isSqlFile := funext (isSqlFile_congr h)
  simp only [matching, startOf_congr h, expand_congr h, hfilter]

lemma sqlFilesBelow_congr (d : Found) : s.sqlFilesBelow d = t.sqlFilesBelow d := by
  have hfilter : s.isSqlFile = t.isSqlFile := funext (isSqlFile_congr h)
  have hbelow := map_below_congr h
    (fun names => Found.mk (Path.joinAll d.shown names) (d.location ++ names)) d.location
  rw [sqlFilesBelow, sqlFilesBelow, hfilter, hbelow]

/-- **The outline decides which files an argument stands for.** -/
theorem discover_congr (path : Text) : s.discover path = t.discover path := by
  have hbelow : s.sqlFilesBelow = t.sqlFilesBelow := funext (sqlFilesBelow_congr h)
  simp only [discover, isFile_congr h, reach_congr h, hbelow, leadsToDirectory_congr h,
    matching_congr h]

end Congruence

/-! ## Only files are found -/

/-- Whether something stands at a place. -/
def HasPlace (t : FileTree) (l : Location) : Prop :=
  l = [] ∨ (t.node? l).isSome = true

variable {t : FileTree}

/-- A directory is there. -/
lemma HasPlace.of_isDirectory {l : Location} (h : t.isDirectory l = true) : t.HasPlace l := by
  rw [isDirectory, Bool.or_eq_true, List.isEmpty_iff] at h
  exact h.imp id Option.isSome_of_any

/-- The working directory is there. -/
lemma isDirectory_here (t : FileTree) : t.isDirectory t.here = true := by
  rw [isDirectory, Bool.or_eq_true, List.isEmpty_iff]
  exact t.hereIsDirectory

/-- Every path starts at a place that the tree has. -/
lemma HasPlace.startOf (t : FileTree) (path : Text) : t.HasPlace (t.startOf path) := by
  unfold FileTree.startOf
  split
  · exact Or.inl rfl
  · exact .of_isDirectory t.isDirectory_here

/-- Above what stands in the tree there is a directory. -/
lemma HasPlace.dropLast {l : Location} (hl : t.HasPlace l) : t.HasPlace l.dropLast := by
  obtain rfl | hnode := hl
  · exact Or.inl rfl
  · exact .of_isDirectory (isDirectory_dropLast hnode)

/-- Where a path is followed, something stands. -/
lemma HasPlace.follow {l l' : Location} {parts : List Text} (hl : t.HasPlace l)
    (h : t.follow l parts = .ok l') : t.HasPlace l' := by
  fun_induction FileTree.follow t l parts with
  | case1 l =>
    obtain rfl := Except.ok.inj h
    exact hl
  | case3 l part rest _ _ ih => exact ih hl h
  | case4 l rest _ _ ih => exact ih hl.dropLast h
  | case6 l part rest _ _ _ _ hnode ih => exact ih (Or.inr hnode) h
  | _ => simp at h

/-- A path reaches one place at most, and shows it by itself. -/
lemma mem_reach_iff {path : Text} {f : Found} :
    f ∈ t.reach path ↔ f.shown = path ∧ t.locate? path = some f.location := by
  rw [reach, Option.mem_toList, Option.map_eq_some_iff]
  constructor
  · rintro ⟨l, hl, rfl⟩
    exact ⟨rfl, hl⟩
  · rintro ⟨rfl, hl⟩
    exact ⟨f.location, hl, rfl⟩

/-- **What an argument stands for is a list of files.** -/
theorem isSome_content?_of_discover {path : Text} {found : List Found} {f : Found}
    (hfound : t.discover path = .ok found) (hf : f ∈ found) :
    (t.content? f.location).isSome = true := by
  have hsql : t.isSqlFile f = true → (t.content? f.location).isSome = true := by
    intro h
    rw [isSqlFile, Bool.and_eq_true, Bool.and_eq_true] at h
    exact h.1.1
  unfold discover at hfound
  split at hfound
  next hfile =>
    obtain rfl := Except.ok.inj hfound
    obtain ⟨-, hl⟩ := mem_reach_iff.1 hf
    rw [isFile, hl] at hfile
    exact hfile
  · split at hfound
    · obtain rfl := Except.ok.inj hfound
      obtain ⟨d, -, hf⟩ := List.mem_flatMap.1 hf
      exact hsql (List.mem_filter.1 hf).2
    · split at hfound
      · simp at hfound
      · obtain rfl := Except.ok.inj hfound
        unfold matching at hf
        split at hf
        · simp at hf
        · exact hsql (List.mem_filter.1 hf).2

end SqlIndent.FileTree
