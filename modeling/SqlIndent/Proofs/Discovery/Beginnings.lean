import SqlIndent.Proofs.Discovery.Shown
import SqlIndent.Proofs.Glob

/-!
# Where the beginnings of paths lead

If a path leads to a place, each of its beginnings does, and what is put after the beginning leads on
from there (`LeadsTo.beginning`). Names that are put after a path are the names on the way down
(`LeadsTo.joinAll_withoutHere_names`).
-/

namespace SqlIndent

namespace FileTree

variable {t : FileTree}

/-! ## Following parts -/

/-- Parts are followed from a directory. -/
lemma isDirectory_of_follow_cons {l m : Location} {part : Text} {rest : List Text}
    (h : t.follow l (part :: rest) = .ok m) : t.isDirectory l = true := by
  by_contra hdirectory
  rw [follow, if_pos (by simp [hdirectory])] at h
  simp at h

/-- The parts of a path are followed from a directory: there is at least one. -/
lemma isDirectory_of_follow_parts {l m : Location} {x : Text}
    (h : t.follow l (Path.parts x) = .ok m) : t.isDirectory l = true := by
  obtain ⟨part, rest, hparts⟩ := List.exists_cons_of_ne_nil (Path.parts_ne_nil x)
  rw [hparts] at h
  exact isDirectory_of_follow_cons h

/-- Parts that lead nowhere lead to the directory itself. -/
lemma follow_of_idle {l : Location} {parts : List Text} (hl : t.isDirectory l = true)
    (hparts : parts.all Path.isIdle = true) : t.follow l parts = .ok l := by
  induction parts with
  | nil => rfl
  | cons part rest ih =>
    rw [List.all_cons, Bool.and_eq_true] at hparts
    rw [follow, if_neg (by simp [hl]), if_pos hparts.1, ih hparts.2]

/-- A name leads to a node of the directory. -/
lemma eq_of_follow_name {l m : Location} {name : Text} (hname : Path.isName name = true)
    (h : t.follow l [name] = .ok m) : m = l ++ [name] := by
  obtain ⟨hidle, habove, -, -, hlength⟩ := Path.isName_iff.1 hname
  rw [follow, isDirectory_of_follow_cons h, hidle, if_neg (by simp), if_neg (by simp),
    if_neg habove, if_neg (Nat.not_lt.2 hlength)] at h
  split at h
  · exact (Except.ok.inj h).symm
  · simp at h

/-! ## Beginnings of paths -/

/-- A path leads to one place. -/
lemma LeadsTo.unique {p : Text} {l l' : Location} (h : t.LeadsTo p l) (h' : t.LeadsTo p l') :
    l = l' := by
  have hfollows := h.follows
  rw [h'.follows] at hfollows
  exact (Except.ok.inj hfollows).symm

/-- Dots lead to the working directory. -/
lemma leadsTo_of_isPart {p : Text} (h : Path.isPart Path.here p = true) :
    t.LeadsTo p t.here := by
  obtain ⟨hidle, hrelative⟩ := Path.idle_of_isPart h
  refine ⟨fun hmem => ?_, ?_, ?_⟩
  · rcases Path.mem_parts hmem with hslash | ⟨part, hpart, hnul⟩
    · exact absurd hslash (by decide)
    · have hpart := List.all_eq_true.1 hidle part hpart
      rw [Path.isIdle, Bool.or_eq_true, List.isEmpty_iff, beq_iff_eq] at hpart
      rcases hpart with rfl | rfl <;> simp [Path.here] at hnul
  · rintro rfl
    simp [Path.isPart, Path.here] at h
  · rw [startOf, hrelative]
    exact follow_of_idle t.isDirectory_here hidle

/-- Where a path leads somewhere, what it begins with does, and the rest leads on from there. -/
lemma LeadsTo.beginning {p x : Text} {l : Location} (hp : p ≠ [])
    (h : t.LeadsTo (Path.join p x) l) :
    ∃ m, t.LeadsTo p m ∧ t.follow m (Path.parts x) = .ok l := by
  have hnul : '\x00' ∉ p := fun hmem => h.noNul (Path.mem_join_left x hmem)
  have hfollows := h.follows
  rw [startOf_join hp] at hfollows
  have hsplit : ∀ ps, t.follow (t.startOf p) (ps ++ Path.parts x) = .ok l →
      ∃ m, t.follow (t.startOf p) ps = .ok m ∧ t.follow m (Path.parts x) = .ok l := by
    intro ps hps
    rw [follow_append] at hps
    cases hm : t.follow (t.startOf p) ps with
    | error e => simp [hm, Except.bind] at hps
    | ok m =>
      rw [hm] at hps
      exact ⟨m, rfl, hps⟩
  rcases Path.parts_join hp with hparts | ⟨ps, hps, hparts⟩
  · rw [hparts] at hfollows
    obtain ⟨m, hm, hrest⟩ := hsplit _ hfollows
    exact ⟨m, ⟨hnul, hp, hm⟩, hrest⟩
  · rw [hparts] at hfollows
    obtain ⟨m, hm, hrest⟩ := hsplit _ hfollows
    -- the slash at the end of `p` asks for a directory, and so does what follows it
    have hdirectory := isDirectory_of_follow_parts hrest
    refine ⟨m, ⟨hnul, hp, ?_⟩, hrest⟩
    rw [hps, follow_append, hm]
    exact follow_of_idle hdirectory (by decide)

/-- As for `LeadsTo.beginning`, where the dot is not kept. -/
lemma LeadsTo.beginning_withoutHere {p x : Text} {l : Location} (hp : p ≠ [])
    (h : t.LeadsTo (Path.join (Path.withoutHere p) x) l) : ∃ l', t.LeadsTo p l' := by
  cases hhere : Path.isPart Path.here p with
  | true => exact ⟨t.here, leadsTo_of_isPart hhere⟩
  | false =>
    rw [Path.withoutHere_of_not_isPart hhere] at h
    obtain ⟨l', hl', -⟩ := h.beginning hp
    exact ⟨l', hl'⟩

/-- If a path with more names behind it leads somewhere, so does the path. -/
lemma LeadsTo.beginning_joinAll {p : Text} {names : List Text} {l : Location} (hp : p ≠ [])
    (h : t.LeadsTo (Path.joinAll p names) l) : ∃ l', t.LeadsTo p l' := by
  induction names generalizing p with
  | nil => exact ⟨l, h⟩
  | cons name names ih =>
    obtain ⟨l', hl'⟩ := ih (Path.join_ne_nil name hp) h
    obtain ⟨l'', hl'', -⟩ := hl'.beginning hp
    exact ⟨l'', hl''⟩

lemma LeadsTo.beginning_joinAll_withoutHere {p : Text} {names : List Text} {l : Location}
    (hp : p ≠ []) (hne : names ≠ []) (hnames : ∀ n ∈ names, Path.isName n = true)
    (h : t.LeadsTo (Path.joinAll (Path.withoutHere p) names) l) : ∃ l', t.LeadsTo p l' := by
  obtain ⟨name, names, rfl⟩ := List.exists_cons_of_ne_nil hne
  obtain ⟨l', hl'⟩ := h.beginning_joinAll (Path.join_name_ne_nil (hnames name (by simp)))
  exact hl'.beginning_withoutHere hp

/-- A path with a slash at the end leads to a directory. -/
lemma LeadsTo.isDirectory_of_getLast? {p : Text} {l : Location} (h : t.LeadsTo p l)
    (hslash : p.getLast? = some '/') : t.isDirectory l = true := by
  obtain ⟨q, rfl⟩ := List.getLast?_eq_some_iff.1 hslash
  have hfollows := h.follows
  rw [Path.parts_append_slash, follow_append] at hfollows
  cases hm : t.follow (t.startOf (q ++ ['/'])) (Path.parts q) with
  | error e => simp [hm, Except.bind] at hfollows
  | ok m =>
    rw [hm] at hfollows
    obtain rfl : l = m := eq_of_follow_idle (by decide) hfollows
    exact isDirectory_of_follow_cons hfollows

/-! ## Names after a path -/

/-- Where a path leads, there is a node, unless it is the root. -/
lemma LeadsTo.isSome_node? {p : Text} {l : Location} (h : t.LeadsTo p l) (hl : l ≠ []) :
    (t.node? l).isSome = true :=
  ((HasPlace.startOf t p).follow h.follows).resolve_left hl

/-- A name after a path leads down by this name. -/
lemma LeadsTo.join_name {p name : Text} {d l : Location} (hp : t.LeadsTo p d)
    (hname : Path.isName name = true) (h : t.LeadsTo (Path.join p name) l) : l = d ++ [name] := by
  obtain ⟨-, -, hslash, -, -⟩ := Path.isName_iff.1 hname
  obtain ⟨d', hd', hfollows⟩ := h.beginning hp.nonempty
  rw [Path.parts_of_not_mem hslash, ← hp.unique hd'] at hfollows
  exact eq_of_follow_name hname hfollows

/-- As for `LeadsTo.join_name`, where the dot is not kept. -/
lemma LeadsTo.join_withoutHere_name {p name : Text} {d l : Location} (hp : t.LeadsTo p d)
    (hname : Path.isName name = true) (h : t.LeadsTo (Path.join (Path.withoutHere p) name) l) :
    l = d ++ [name] := by
  cases hhere : Path.isPart Path.here p with
  | false =>
    rw [Path.withoutHere_of_not_isPart hhere] at h
    exact hp.join_name hname h
  | true =>
    obtain ⟨-, -, hslash, -, -⟩ := Path.isName_iff.1 hname
    rw [Path.withoutHere_of_isPart hhere, Path.join_nil_left] at h
    have hfollows := h.follows
    rw [startOf, Path.isAbsolute_of_isName hname, if_neg (by simp),
      Path.parts_of_not_mem hslash] at hfollows
    rw [hp.eq_here_of_isPart hhere]
    exact eq_of_follow_name hname hfollows

/-- Names behind a path lead down from where the path leads, name by name. -/
lemma LeadsTo.joinAll_names {p : Text} {names : List Text} {d l : Location} (hp : t.LeadsTo p d)
    (hnames : ∀ n ∈ names, Path.isName n = true) (h : t.LeadsTo (Path.joinAll p names) l) :
    l = d ++ names := by
  induction names generalizing p d with
  | nil => rw [List.append_nil, hp.unique h]
  | cons name names ih =>
    obtain ⟨d', hd'⟩ := h.beginning_joinAll (Path.join_ne_nil name hp.nonempty)
    obtain rfl := hp.join_name (hnames name (by simp)) hd'
    rw [ih hd' (fun n hn => hnames n (by simp [hn])) h, List.append_assoc]
    rfl

/-- Names after a path lead down by these names. -/
lemma LeadsTo.joinAll_withoutHere_names {p : Text} {names : List Text} {d l : Location}
    (hp : t.LeadsTo p d) (hne : names ≠ []) (hnames : ∀ n ∈ names, Path.isName n = true)
    (h : t.LeadsTo (Path.joinAll (Path.withoutHere p) names) l) : l = d ++ names := by
  obtain ⟨name, names, rfl⟩ := List.exists_cons_of_ne_nil hne
  have hname := hnames name (by simp)
  obtain ⟨d', hd'⟩ := h.beginning_joinAll (Path.join_name_ne_nil hname)
  obtain rfl := hp.join_withoutHere_name hname hd'
  rw [hd'.joinAll_names (fun n hn => hnames n (by simp [hn])) h, List.append_assoc]
  rfl

end FileTree
end SqlIndent
