import Mathlib.Data.List.Basic
import SqlIndent.Resolution

/-!
# Outlines of directory trees

The outline of a tree says where the working directory is, and at which places there is a directory,
a file that holds a text, or a file that holds none, but not which text. Where paths lead, and which
files can be read, depends on the outline alone; and replacing a text by another one leaves the
outline as it is.
-/

namespace SqlIndent

/-! ## Texts and their bytes -/

/-- Bytes encode at most one text, and a text is encoded by one list of bytes only. -/
theorem decode?_eq_some_iff {bytes : ByteArray} {t : Text} :
    decode? bytes = some t ↔ encode t = bytes := by
  rw [decode?, String.fromUTF8?, encode, String.toUTF8_eq_toByteArray]
  constructor
  · intro h
    obtain ⟨s, hs, rfl⟩ := Option.map_eq_some_iff.1 h
    split at hs
    · obtain rfl := Option.some.inj hs
      rw [String.ofList_toList]
      rfl
    · simp at hs
  · rintro rfl
    rw [dif_pos (String.isValidUTF8 _)]
    have hstring : String.fromUTF8 (String.ofList t).toByteArray (String.isValidUTF8 _) =
        String.ofList t := rfl
    rw [hstring, Option.map_some, String.toList_ofList]

@[simp] lemma decode?_encode (t : Text) : decode? (encode t) = some t :=
  decode?_eq_some_iff.2 rfl

/-! ## Outlines -/

/-- What stands at a place, whatever it says. -/
inductive NodeKind where
  | directory
  /-- A file whose bytes encode a text. -/
  | text
  /-- A file whose bytes encode no text. -/
  | binary
  /-- Neither a directory nor a regular file, and whether it can be read as a text. -/
  | special (isText : Bool)
deriving DecidableEq, Repr

/-- The kind of a node. -/
def Node.kind : Node → NodeKind
  | file content => if (decode? content).isSome then .text else .binary
  | directory => .directory
  | special content => .special (decode? content).isSome

/-- Where a tree has something, and where its working directory is. -/
structure Outline where
  /-- The places of the tree, with what stands there. -/
  kinds : List (Location × NodeKind)
  /-- The place of the working directory. -/
  here : Location
deriving DecidableEq, Repr

namespace FileTree

/-- The outline of a tree. -/
def outline (t : FileTree) : Outline where
  kinds := t.nodes.map fun n => (n.1, n.2.kind)
  here := t.here

/-- The outline tells of each place the kind of its node. -/
lemma lookup_outline (t : FileTree) (l : Location) :
    t.outline.kinds.lookup l = (t.node? l).map Node.kind := by
  unfold outline node?
  dsimp only
  induction t.nodes with
  | nil => rfl
  | cons n ns ih =>
    obtain ⟨k, v⟩ := n
    rw [List.map_cons, List.lookup_cons, List.lookup_cons, ih]
    cases l == k <;> rfl

/-- A node is the one at its place: no place occurs twice. -/
lemma node?_of_mem {t : FileTree} {n : Location × Node} (hn : n ∈ t.nodes) :
    t.node? n.1 = some n.2 := by
  obtain ⟨before, after, hsplit⟩ := List.append_of_mem hn
  have hincreasing := t.increasing
  rw [hsplit, List.map_append, List.pairwise_append] at hincreasing
  rw [node?, List.lookup_eq_some_iff]
  refine ⟨before, after, hsplit, fun m hm => ?_⟩
  have hlt : m.1 < n.1 := hincreasing.2.2 m.1 (List.mem_map_of_mem hm) n.1 (by simp)
  rw [bne_iff_ne]
  rintro heq
  rw [heq] at hlt
  exact List.lt_irrefl _ hlt

/-- A node that is looked up is one of the tree. -/
lemma mem_of_node? {t : FileTree} {l : Location} {n : Node} (h : t.node? l = some n) :
    (l, n) ∈ t.nodes := by
  obtain ⟨before, after, hsplit, -⟩ := List.lookup_eq_some_iff.1 h
  simp [hsplit]

/-- Every node stands in a directory. -/
lemma isDirectory_dropLast {t : FileTree} {l : Location} (h : (t.node? l).isSome = true) :
    t.isDirectory l.dropLast = true := by
  obtain ⟨n, hn⟩ := Option.isSome_iff_exists.1 h
  obtain ⟨-, hparent⟩ := t.closed (l, n) (mem_of_node? hn)
  rw [isDirectory, Bool.or_eq_true, List.isEmpty_iff]
  exact hparent

/-- There is content just where a regular file stands. -/
lemma content?_eq_some_iff {t : FileTree} {l : Location} {bytes : ByteArray} :
    t.content? l = some bytes ↔ t.node? l = some (.file bytes) := by
  unfold content?
  split <;> simp_all

/-- A regular file is read as the text that its bytes encode. -/
lemma readAt_of_content? {t : FileTree} {l : Location} {bytes : ByteArray}
    (h : t.content? l = some bytes) :
    t.readAt l = (decode? bytes).elim (.error .notUtf8) .ok := by
  cases hdecode : decode? bytes <;> simp [readAt, content?_eq_some_iff.1 h, hdecode]

/-- A regular file is read as a text just if its bytes are those of the text. -/
lemma readAt_eq_ok_iff {t : FileTree} {l : Location} (h : (t.content? l).isSome = true)
    {text : Text} : t.readAt l = .ok text ↔ t.content? l = some (encode text) := by
  obtain ⟨bytes, hbytes⟩ := Option.isSome_iff_exists.1 h
  rw [readAt_of_content? hbytes, hbytes, Option.some.injEq, @eq_comm _ bytes,
    ← decode?_eq_some_iff]
  cases hdecode : decode? bytes <;> simp

/-- Why a place cannot be read, if it cannot. -/
def readError? (t : FileTree) (l : Location) : Option ReadError :=
  match t.readAt l with
  | .error cause => some cause
  | .ok _ => none

/-! ### What the outline tells -/

lemma isSome_node?_eq (t : FileTree) (l : Location) :
    (t.node? l).isSome = (t.outline.kinds.lookup l).isSome := by
  rw [lookup_outline, Option.isSome_map]

/-- Whether there is a directory at a place can be told from the outline. -/
lemma isDirectory_eq (t : FileTree) (l : Location) :
    t.isDirectory l = (l.isEmpty || t.outline.kinds.lookup l == some .directory) := by
  rw [isDirectory, lookup_outline]
  rcases t.node? l with _ | (bytes | _ | bytes)
  · rfl
  · cases h : decode? bytes <;> simp [Node.kind, Node.isDirectory, h]
  · rfl
  · rfl

/-- Whether there is a regular file at a place can be told from the outline. -/
lemma isSome_content?_eq (t : FileTree) (l : Location) :
    (t.content? l).isSome = (t.outline.kinds.lookup l).any (fun k => k == .text || k == .binary) := by
  rw [content?, lookup_outline]
  rcases t.node? l with _ | (bytes | _ | bytes)
  · rfl
  · cases h : decode? bytes <;> simp [Node.kind, h]
  · rfl
  · rfl

/-- Why a place cannot be read can be told from the outline. -/
lemma readError?_eq (t : FileTree) (l : Location) :
    t.readError? l =
      match t.outline.kinds.lookup l with
      | some .text | some (.special true) => none
      | some .binary | some (.special false) => some .notUtf8
      | _ => some .isDirectory := by
  rw [readError?, readAt, lookup_outline]
  rcases t.node? l with _ | (bytes | _ | bytes)
  · rfl
  · cases h : decode? bytes <;> simp [Node.kind, h]
  · rfl
  · cases h : decode? bytes <;> simp [Node.kind, h]

/-! ## Writing -/

section Write

variable (t : FileTree) (l : Location) (bytes : ByteArray)

/-- Writing changes the node of one place only. -/
lemma node?_write (m : Location) :
    (t.write l bytes).node? m =
      (t.node? m).map fun n => if m = l then n.withContent bytes else n :=
  lookup_map_snd (fun k n => if k = l then n.withContent bytes else n) t.nodes m

/-- The content of one file changes, that of all others stays. -/
lemma content?_write (m : Location) :
    (t.write l bytes).content? m =
      if m = l then (t.content? m).map fun _ => bytes else t.content? m := by
  unfold content?
  rw [node?_write]
  rcases t.node? m with _ | (before | _ | other)
  · simp
  · by_cases h : m = l <;> simp [h, Node.withContent]
  · by_cases h : m = l <;> simp [h, Node.withContent]
  · by_cases h : m = l <;> simp [h, Node.withContent]

variable {t l}

/-- Writing a text over another one leaves the outline as it is. -/
lemma outline_write {source : Text} (hsource : t.readAt l = .ok source) (text : Text) :
    (t.write l (encode text)).outline = t.outline := by
  have hkind : ∀ n ∈ t.nodes, n.1 = l → (n.2.withContent (encode text)).kind = n.2.kind := by
    rintro ⟨_, n⟩ hn rfl
    rw [readAt, node?_of_mem hn] at hsource
    cases n with
    | file bytes =>
      -- the file that was read holds a text before and after
      cases hdecode : decode? bytes with
      | none => simp [hdecode] at hsource
      | some _ => simp [Node.withContent, Node.kind, hdecode]
    | directory => rfl
    | special _ => rfl
  unfold outline
  rw [Outline.mk.injEq]
  refine ⟨?_, rfl⟩
  rw [write, List.map_map, List.map_inj_left]
  intro n hn
  by_cases hl : n.1 = l
  · simp [hl, hkind n hn hl]
  · simp [hl]

end Write

/-! ## Where paths lead -/

section Congruence

variable {s t : FileTree} (h : s.outline = t.outline)

include h

lemma readError?_congr (l : Location) : s.readError? l = t.readError? l := by
  rw [readError?_eq, h, readError?_eq]

lemma isDirectory_congr (l : Location) : s.isDirectory l = t.isDirectory l := by
  rw [isDirectory_eq, h, isDirectory_eq]

lemma isSome_content?_congr (l : Location) : (s.content? l).isSome = (t.content? l).isSome := by
  rw [isSome_content?_eq, h, isSome_content?_eq]

lemma startOf_congr (path : Text) : s.startOf path = t.startOf path := by
  have hhere : s.here = t.here := congrArg Outline.here h
  rw [startOf, startOf, hhere]

/-- Step by step: where parts lead asks only which places are there, and which are directories. -/
lemma follow_congr (l : Location) (parts : List Text) : s.follow l parts = t.follow l parts := by
  induction parts generalizing l with
  | nil => rfl
  | cons part rest ih => simp only [follow, isDirectory_congr h, isSome_node?_eq, h, ih]

/-- Where a path leads, or why it leads nowhere, depends on the outline alone. -/
lemma resolve_congr (path : Text) : s.resolve path = t.resolve path := by
  simp only [resolve, startOf_congr h, follow_congr h]

lemma locate?_congr (path : Text) : s.locate? path = t.locate? path := by
  simp only [locate?, resolve_congr h]

lemma leadsToDirectory_congr (path : Text) : s.leadsToDirectory path = t.leadsToDirectory path := by
  have hdirectory : s.isDirectory = t.isDirectory := funext (isDirectory_congr h)
  rw [leadsToDirectory, leadsToDirectory, locate?_congr h, hdirectory]

lemma isFile_congr (path : Text) : s.isFile path = t.isFile path := by
  simp only [isFile, locate?_congr h, isSome_content?_congr h]

end Congruence

end FileTree
end SqlIndent
