import SqlIndent.Error
import SqlIndent.Path

/-!
# Directory trees

A tree is a whole file system, with the directory in it in which a program works. A place in the
tree is the list of names on the way to it from the root; the nodes are kept in increasing order of
place, so that a directory comes right before what it holds.
-/

namespace SqlIndent

/-- What stands at a place. -/
inductive Node where
  /-- A regular file with its bytes. -/
  | file (content : ByteArray)
  | directory
  /-- Anything else that can be read, such as a device, with the bytes that it gives. -/
  | special (content : ByteArray)

/-- Whether a node is a directory. -/
def Node.isDirectory : Node → Bool
  | directory => true
  | _ => false

/-- A place in a tree: the names on the way from the root. -/
abbrev Location := List Text

/-- Puts a node in its place, unless there is one. -/
def insertNode (n : Location × Node) : List (Location × Node) → List (Location × Node)
  | [] => [n]
  | m :: ms =>
    if n.1 < m.1 then n :: m :: ms
    else if n.1 = m.1 then m :: ms
    else m :: insertNode n ms

/-- The directories on the way to a place. -/
def parents (l : Location) : List Location :=
  (List.range (l.length - 1)).map fun n => l.take (n + 1)

/-- Whether the node stands in the root or in a directory of the list. -/
def hasParent (nodes : List (Location × Node)) (l : Location) : Prop :=
  l ≠ [] ∧ (l.dropLast = [] ∨ (nodes.lookup l.dropLast).any Node.isDirectory)

instance (nodes : List (Location × Node)) (l : Location) : Decidable (hasParent nodes l) :=
  inferInstanceAs (Decidable (_ ∧ _))

/-- A directory tree from the root of the file system on, and the working directory in it. -/
structure FileTree where
  /-- All nodes but the root itself. -/
  nodes : List (Location × Node)
  /-- No place occurs twice, and directories come before what they hold. -/
  increasing : (nodes.map Prod.fst).Pairwise (· < ·)
  /-- Every node stands in a directory. -/
  closed : ∀ n ∈ nodes, hasParent nodes n.1
  /-- Places are lists of names. -/
  named : ∀ n ∈ nodes, n.1.all Path.isName
  /-- The place of the working directory. -/
  here : Location
  /-- The working directory is there. -/
  hereIsDirectory : here = [] ∨ (nodes.lookup here).any Node.isDirectory

/-- A file with another content; what is no regular file stays as it is. -/
def Node.withContent (content : ByteArray) : Node → Node
  | file _ => file content
  | directory => directory
  | special other => special other

@[simp] theorem Node.isDirectory_withContent (content : ByteArray) (n : Node) :
    (n.withContent content).isDirectory = n.isDirectory := by
  cases n <;> rfl

theorem lookup_map_snd (f : Location → Node → Node) (nodes : List (Location × Node)) (l : Location) :
    (nodes.map fun n => (n.1, f n.1 n.2)).lookup l = (nodes.lookup l).map (f l) := by
  induction nodes with
  | nil => rfl
  | cons n ns ih =>
    obtain ⟨k, v⟩ := n
    by_cases h : l == k
    · obtain rfl := eq_of_beq h
      simp
    · have hk : (l == k) = false := by simpa using h
      simp [List.lookup_cons, hk, ih]

namespace FileTree

/-- The tree of a list of nodes and the directories on the way to them, with the root for the
working directory; none if a node stands below one that is no directory, or is the root, or has no
proper name. -/
def ofNodes? (given : List (Location × Node)) : Option FileTree :=
  let implied := given.flatMap fun n => (parents n.1).map (·, Node.directory)
  let nodes := (given ++ implied).foldl (fun ns n => insertNode n ns) []
  if h : (nodes.map Prod.fst).Pairwise (· < ·) ∧ (∀ n ∈ nodes, hasParent nodes n.1) ∧
      ∀ n ∈ nodes, n.1.all Path.isName then
    some ⟨nodes, h.1, h.2.1, h.2.2, [], Or.inl rfl⟩
  else none

/-- The tree with another working directory, if there is a directory at the place. -/
def enter? (t : FileTree) (l : Location) : Option FileTree :=
  if h : l = [] ∨ (t.nodes.lookup l).any Node.isDirectory then
    some { t with here := l, hereIsDirectory := h }
  else none

/-- The node at a place other than the root. -/
def node? (t : FileTree) (l : Location) : Option Node :=
  t.nodes.lookup l

/-- Whether there is a directory at a place. -/
def isDirectory (t : FileTree) (l : Location) : Bool :=
  l.isEmpty || (t.node? l).any Node.isDirectory

/-- The bytes of the regular file at a place. -/
def content? (t : FileTree) (l : Location) : Option ByteArray :=
  match t.node? l with
  | some (.file content) => some content
  | _ => none

/-- The nodes below a place, with the names on the way from it. -/
def below (t : FileTree) (l : Location) : List (Location × Node) :=
  t.nodes.filterMap fun n =>
    if l.isPrefixOf n.1 && l.length < n.1.length then some (n.1.drop l.length, n.2) else none

/-- Another content for a file makes no directory and takes none away. -/
theorem any_isDirectory_lookup_write (nodes : List (Location × Node)) (l : Location)
    (content : ByteArray) (m : Location) :
    ((nodes.map fun n => (n.1, if n.1 = l then n.2.withContent content else n.2)).lookup m).any
        Node.isDirectory =
      (nodes.lookup m).any Node.isDirectory := by
  rw [lookup_map_snd (fun k v => if k = l then v.withContent content else v)]
  cases nodes.lookup m with
  | none => rfl
  | some v =>
    rw [Option.map_some, Option.any_some, Option.any_some]
    split
    · exact v.isDirectory_withContent content
    · rfl

/-- Replaces the content of the regular file at a place. -/
def write (t : FileTree) (l : Location) (content : ByteArray) : FileTree where
  nodes := t.nodes.map fun n => (n.1, if n.1 = l then n.2.withContent content else n.2)
  increasing := by
    simpa [List.map_map, Function.comp_def] using t.increasing
  closed := by
    intro n hn
    obtain ⟨m, hm, rfl⟩ := List.mem_map.1 hn
    obtain ⟨hne, hp⟩ := t.closed m hm
    rw [hasParent, any_isDirectory_lookup_write]
    exact ⟨hne, hp⟩
  named := by
    intro n hn
    obtain ⟨m, hm, rfl⟩ := List.mem_map.1 hn
    exact t.named m hm
  here := t.here
  hereIsDirectory := by
    rw [any_isDirectory_lookup_write]
    exact t.hereIsDirectory

end FileTree

/-- The text that bytes encode in UTF-8, if they do. -/
def decode? (bytes : ByteArray) : Option Text :=
  (String.fromUTF8? bytes).map String.toList

/-- The bytes that encode a text in UTF-8. -/
def encode (t : Text) : ByteArray :=
  (String.ofList t).toUTF8

/-- The text that is read at a place. -/
def FileTree.readAt (t : FileTree) (l : Location) : Except ReadError Text :=
  match t.node? l with
  | some (.file bytes) | some (.special bytes) =>
    match decode? bytes with
    | some text => .ok text
    | none => .error .notUtf8
  | _ => .error .isDirectory

end SqlIndent
