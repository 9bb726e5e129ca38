import LiveCheck.Files.SourceFilter
import LiveCheck.Proofs.Files.Memory
import LiveCheck.Proofs.Table

/-!
The listing of a directory tree.

A walk goes depth first through siblings in the order of their names. It collects exactly the
source files that it can reach through directories that are not passed over
(`SourceFilter.mem_below`), and it collects them in the order of their paths
(`SourceFilter.ascending_below`): two files part at some directory, and there the walk goes by
the names that `FilePath.before` compares. So a directory on a disk is listed as the same files
are when they are kept in memory (`SourceFilter.list_exact`).

Directories that are hidden or ignored are to be passed over, but only one whose name is a text
is. What lies in a hidden directory with another name is listed
(`SourceFilter.lists_hidden_without_text`).
-/

namespace LiveCheck

open FileName (IsName)

/-! ## Trees -/

namespace Node

/-- A node that a file system can hold: what a directory holds has names, and no two of its
entries have the same name. -/
inductive IsTree : Node → Prop where
  | intro {node : Node} (distinct : (node.entries.map (·.1)).Nodup)
      (named : ∀ entry ∈ node.entries, IsName entry.1)
      (children : ∀ entry ∈ node.entries, IsTree entry.2) : IsTree node

variable {node other : Node} {name : FileName} {names : List FileName}

theorem IsTree.distinct : node.IsTree → (node.entries.map (·.1)).Nodup
  | .intro distinct _ _ => distinct

theorem IsTree.named : node.IsTree → ∀ entry ∈ node.entries, IsName entry.1
  | .intro _ named _ => named

theorem IsTree.child : node.IsTree → ∀ entry ∈ node.entries, entry.2.IsTree
  | .intro _ _ children => children

theorem isTree_of_leaf (leaf : node.entries = []) : node.IsTree := by
  refine .intro ?_ ?_ ?_ <;> rw [leaf]
  · exact List.nodup_nil
  · nofun
  · nofun

theorem IsTree.single (named : IsName name) (tree : node.IsTree) :
    (Node.directory [(name, node)]).IsTree :=
  .intro (List.nodup_singleton _) (List.forall_mem_singleton.2 named)
    (List.forall_mem_singleton.2 tree)

theorem IsTree.descend?_cons (tree : node.IsTree) :
    node.descend? (name :: names) = some other ↔
      ∃ child, (name, child) ∈ node.entries ∧ child.descend? names = some other := by
  rw [descend?, Option.bind_eq_some_iff]
  simp only [Table.lookup_eq_some_iff tree.distinct]

theorem IsTree.isName_of_descend? (tree : node.IsTree) (found : node.descend? names = some other) :
    ∀ name ∈ names, IsName name := by
  induction names generalizing node with
  | nil => nofun
  | cons first rest ih =>
      obtain ⟨child, mem, found⟩ := tree.descend?_cons.1 found
      exact List.forall_mem_cons.2 ⟨tree.named _ mem, ih (tree.child _ mem) found⟩

/-- Only a directory leads on. -/
theorem exists_directory_of_descend? (found : node.descend? names = some other)
    (onward : names ≠ []) : ∃ entries, node = .directory entries := by
  obtain ⟨first, rest, rfl⟩ := List.exists_cons_of_ne_nil onward
  cases node with
  | directory entries => exact ⟨entries, rfl⟩
  | file content => cases found
  | link target => cases found

end Node

/-! ## What a listing is to show -/

namespace SourceFilter

variable {filter : SourceFilter} {node : Node} {path found : FilePath} {name : FileName}
  {passed : FileName → Prop} {text : String}

/-- The name of a hidden directory. -/
def Hidden (name : FileName) : Prop := name.bytes.head? = some FileName.dot

instance : DecidablePred Hidden := fun name =>
  inferInstanceAs (Decidable (name.bytes.head? = some FileName.dot))

/-- The name of a directory that is hidden or ignored. -/
def Closed (filter : SourceFilter) (name : FileName) : Prop :=
  Hidden name ∨ ∃ text ∈ filter.ignored, name = .ofText text

instance (filter : SourceFilter) : DecidablePred filter.Closed := fun name =>
  inferInstanceAs (Decidable (Hidden name ∨ ∃ text ∈ filter.ignored, name = .ofText text))

/-- The name of a directory that a walk passes over: it is hidden or ignored, and a text. -/
def PassedOver (filter : SourceFilter) (name : FileName) : Prop :=
  filter.Closed name ∧ ∃ text, name = .ofText text

/-- The name of a source file. -/
def Source (filter : SourceFilter) (name : FileName) : Prop :=
  ∃ stem, ∃ extension ∈ filter.extensions,
    name.bytes = stem ++ FileName.dot :: bytesOf extension ∧ stem ≠ [] ∧
      FileName.dot ∉ bytesOf extension

/-- A path below a root that leads to a source file. The directories on the way, each in the one
before, can be opened, and their names are not among those passed. Links lead nowhere. -/
def Reaches (filter : SourceFilter) (passed : FileName → Prop) (root : FilePath) (node : Node)
    (path : FilePath) : Prop :=
  ∃ directories name content,
    node.descend? (directories ++ [name]) = some (.file content) ∧
    (∀ directory ∈ directories, ¬ passed directory) ∧
    Disk.fits (root.along directories) = true ∧ filter.Source name ∧
    path = root.along (directories ++ [name])

/-- A tree in which the name of every hidden directory is a text. -/
inductive HiddenInText : Node → Prop where
  | intro {node : Node}
      (here : ∀ entry ∈ node.entries, (∃ inner, entry.2 = .directory inner) → Hidden entry.1 →
        ∃ text, entry.1 = .ofText text)
      (children : ∀ entry ∈ node.entries, HiddenInText entry.2) : HiddenInText node

theorem hiddenInText_of_leaf (leaf : node.entries = []) : HiddenInText node := by
  refine .intro ?_ ?_ <;> rw [leaf]
  · nofun
  · nofun

theorem hidden_ofText : Hidden (.ofText text) ↔ text.startsWith "." = true := by
  have dot : ".".toList = ['.'] := rfl
  rw [String.startsWith_string_iff, dot, List.singleton_prefix_iff_head?_eq_some,
    ← head?_utf8Encode (by decide), ← bytesOf_eq]
  rfl

theorem isIgnored_iff : filter.isIgnored name = true ↔ filter.PassedOver name := by
  rw [isIgnored, Option.any_eq_true]
  simp only [FileName.text?_eq_some_iff, Bool.or_eq_true, ← hidden_ofText, List.contains_iff_mem]
  constructor
  · intro found
    obtain ⟨text, rfl, hidden | ignored⟩ := found
    · exact ⟨Or.inl hidden, text, rfl⟩
    · exact ⟨Or.inr ⟨text, ignored, rfl⟩, text, rfl⟩
  · intro passed
    obtain ⟨hidden | ⟨text, ignored, same⟩, isText⟩ := passed
    · obtain ⟨text, rfl⟩ := isText
      exact ⟨text, rfl, Or.inl hidden⟩
    · exact ⟨text, same, Or.inr ignored⟩

theorem isSource_join (named : IsName name) :
    filter.isSource (path.join name) = true ↔ filter.Source name := by
  rw [isSource, FilePath.extension?_join path named, Option.any_eq_true]
  simp only [Option.bind_eq_some_iff, FileName.extension?_eq_some_iff, FileName.text?_eq_some_iff,
    List.contains_iff_mem]
  constructor
  · intro found
    obtain ⟨extension, ⟨_, ⟨stem, parts⟩, rfl⟩, mem⟩ := found
    exact ⟨stem, extension, mem, parts⟩
  · intro source
    obtain ⟨stem, extension, mem, parts⟩ := source
    exact ⟨extension, ⟨_, ⟨stem, parts⟩, rfl⟩, mem⟩

/-- What is reached below a node is a source file among its entries, or reached below an entry
that is not passed. -/
theorem reaches_iff (tree : node.IsTree) (fits : Disk.fits path = true) :
    filter.Reaches passed path node found ↔
      ∃ entry ∈ node.entries,
        ((∃ content, entry.2 = .file content) ∧ filter.Source entry.1 ∧
          found = path.join entry.1) ∨
        (¬ passed entry.1 ∧ Disk.fits (path.join entry.1) = true ∧
          filter.Reaches passed (path.join entry.1) entry.2 found) := by
  constructor
  · intro reached
    obtain ⟨directories, name, content, leads, opened, lastFits, source, rfl⟩ := reached
    -- Without a directory on the way the file is an entry itself.
    cases directories with
    | nil =>
        obtain ⟨child, mem, here⟩ := tree.descend?_cons.1 leads
        exact ⟨(name, child), mem, Or.inl ⟨⟨content, Option.some.inj here⟩, source, rfl⟩⟩
    | cons first rest =>
        obtain ⟨child, mem, leads⟩ := tree.descend?_cons.1 leads
        obtain ⟨first_opened, rest_opened⟩ := List.forall_mem_cons.1 opened
        have firstFits : Disk.fits (path.join first) = true := by
          have longer := FilePath.length_le_along (path.join first) rest
          rw [Disk.fits, decide_eq_true_eq] at lastFits ⊢
          exact Nat.le_trans longer lastFits
        exact ⟨(first, child), mem, Or.inr ⟨first_opened, firstFits, rest, name, content, leads,
          rest_opened, lastFits, source, rfl⟩⟩
  · intro found
    obtain ⟨⟨name, child⟩, mem, ⟨⟨content, here⟩, source, rfl⟩ | ⟨opened, -, reached⟩⟩ := found
    · have leads : node.descend? [name] = some (.file content) :=
        tree.descend?_cons.2 ⟨child, mem, congrArg some here⟩
      exact ⟨[], name, content, leads, nofun, fits, source, rfl⟩
    · obtain ⟨rest, last, content, leads, rest_opened, lastFits, source, rfl⟩ := reached
      have leads := tree.descend?_cons.2 ⟨child, mem, leads⟩
      exact ⟨name :: rest, last, content, leads, List.forall_mem_cons.2 ⟨opened, rest_opened⟩,
        lastFits, source, rfl⟩

/-- Where the name of every hidden directory is a text, the directories that are passed over are
those that are hidden or ignored. -/
theorem HiddenInText.passedOver_iff (filter : SourceFilter) (tree : node.IsTree)
    (inText : HiddenInText node) {directories : List FileName} {content : ByteArray}
    (leads : node.descend? (directories ++ [name]) = some (.file content)) :
    ∀ directory ∈ directories, (filter.PassedOver directory ↔ filter.Closed directory) := by
  induction directories generalizing node with
  | nil => nofun
  | cons first rest ih =>
      obtain ⟨here, children⟩ := inText
      obtain ⟨child, mem, leads⟩ := tree.descend?_cons.1 leads
      have isDirectory := Node.exists_directory_of_descend? leads
        (List.append_ne_nil_of_right_ne_nil _ (List.cons_ne_nil _ _))
      refine List.forall_mem_cons.2 ⟨⟨And.left, fun closed => ⟨closed, ?_⟩⟩,
        ih (tree.child _ mem) (children _ mem) leads⟩
      rcases closed with hidden | ⟨text, -, same⟩
      · exact here _ mem isDirectory hidden
      · exact ⟨text, same⟩

theorem HiddenInText.reaches_iff (tree : node.IsTree) (inText : HiddenInText node) :
    filter.Reaches filter.PassedOver path node found ↔
      filter.Reaches filter.Closed path node found := by
  refine exists_congr fun directories => exists_congr fun name => exists_congr fun content =>
    and_congr_right fun leads => and_congr_left' ?_
  have same := inText.passedOver_iff filter tree leads
  exact forall₂_congr fun directory mem => not_congr (same directory mem)

/-! ## What the walk collects -/

/-- What the walk collects below a node. -/
def below (filter : SourceFilter) (path : FilePath) (node : Node) : List FilePath :=
  gather (filter.visitAll path node.entries)

theorem visitAll_eq_map (entries : List (FileName × Node)) :
    filter.visitAll path entries =
      entries.map fun (name, node) => (name, filter.visit (path.join name) name node) := by
  induction entries with
  | nil => rw [visitAll, List.map_nil]
  | cons first rest ih => rw [visitAll, ih, List.map_cons]

theorem mem_gather {parts : List (FileName × List FilePath)} :
    found ∈ gather parts ↔ ∃ part ∈ parts, found ∈ part.2 := by
  simp only [gather, List.mem_flatMap, (List.mergeSort_perm parts _).mem_iff]

theorem below_eq_nil (leaf : node.entries = []) : filter.below path node = [] := by
  rw [below, leaf, visitAll, gather, List.mergeSort_nil, List.flatMap_nil]

theorem mem_visit :
    found ∈ filter.visit path name node ↔
      ((∃ content, node = .file content) ∧ filter.isSource path = true ∧ found = path) ∨
      (¬ filter.isIgnored name = true ∧ Disk.fits path = true ∧
        found ∈ filter.below path node) := by
  cases node with
  | file content =>
      rw [visit, below_eq_nil rfl]
      cases filter.isSource path <;> simp
  | directory entries =>
      rw [visit, below, Node.entries]
      cases filter.isIgnored name <;> cases Disk.fits path <;> simp
  | link target =>
      rw [visit, below_eq_nil rfl]
      simp

theorem mem_below_iff :
    found ∈ filter.below path node ↔
      ∃ entry ∈ node.entries, found ∈ filter.visit (path.join entry.1) entry.1 entry.2 := by
  rw [below, mem_gather, visitAll_eq_map]
  simp only [List.mem_map, exists_exists_and_eq_and]

/-- The walk collects exactly what it can reach. -/
theorem mem_below (tree : node.IsTree) (fits : Disk.fits path = true) :
    found ∈ filter.below path node ↔ filter.Reaches filter.PassedOver path node found := by
  induction tree generalizing path with
  | intro distinct named children ih =>
      rw [mem_below_iff, reaches_iff (.intro distinct named children) fits]
      refine exists_congr fun entry => and_congr_right fun mem => ?_
      rw [mem_visit, isSource_join (named entry mem), isIgnored_iff]
      refine or_congr_right (and_congr_right fun _ => and_congr_right fun entryFits => ?_)
      exact ih entry mem entryFits

/-- What a visit collects lies behind the name that it goes to. -/
theorem along_of_mem_visit (tree : node.IsTree) (named : IsName name)
    (mem : found ∈ filter.visit (path.join name) name node) :
    ∃ names, found = path.along (name :: names) ∧ ∀ step ∈ name :: names, IsName step := by
  rcases mem_visit.1 mem with ⟨-, -, rfl⟩ | ⟨-, fits, collected⟩
  · exact ⟨[], rfl, List.forall_mem_singleton.2 named⟩
  · obtain ⟨directories, last, content, leads, -, -, -, rfl⟩ := (mem_below tree fits).1 collected
    exact ⟨directories ++ [last], rfl,
      List.forall_mem_cons.2 ⟨named, tree.isName_of_descend? leads⟩⟩

theorem ascending_visit (ascending : FilePath.Ascending (filter.below path node)) :
    FilePath.Ascending (filter.visit path name node) := by
  cases node with
  | file content =>
      rw [visit]
      split
      · exact List.pairwise_singleton _ _
      · exact List.Pairwise.nil
  | directory entries =>
      rw [visit]
      split
      · exact List.Pairwise.nil
      · exact ascending
  | link target =>
      rw [visit]
      exact List.Pairwise.nil

/-- The walk goes in the order of the paths. -/
theorem ascending_below (tree : node.IsTree) : FilePath.Ascending (filter.below path node) := by
  induction tree generalizing path with
  | @intro node distinct named children ih =>
      have apart : ((filter.visitAll path node.entries).map fun part => part.1.bytes).Nodup := by
        have inj : Function.Injective FileName.bytes := fun _ _ same => congrArg FileName.mk same
        rw [visitAll_eq_map, List.map_map]
        simpa [Function.comp_def] using distinct.map inj
      have sorted := Table.ascending_mergeSort
        (fun part : FileName × List FilePath => part.1.bytes) apart
      have visited : ∀ part ∈ (filter.visitAll path node.entries).mergeSort
          (fun a b => a.1.bytes ≤ b.1.bytes), ∃ entry ∈ node.entries,
            (entry.1, filter.visit (path.join entry.1) entry.1 entry.2) = part := by
        intro part mem
        rw [(List.mergeSort_perm _ _).mem_iff, visitAll_eq_map] at mem
        exact List.mem_map.1 mem
      -- Files behind one entry are in order by induction, files behind two by the entries' names.
      refine List.pairwise_flatMap.2 ⟨?_, ?_⟩
      · intro part mem
        obtain ⟨entry, child, rfl⟩ := visited part mem
        exact ascending_visit (ih entry child)
      · refine sorted.imp_of_mem ?_
        intro part other mem otherMem lt found foundMem later laterMem
        obtain ⟨entry, child, rfl⟩ := visited part mem
        obtain ⟨otherEntry, otherChild, rfl⟩ := visited other otherMem
        obtain ⟨names, rfl, firstNamed⟩ :=
          along_of_mem_visit (children entry child) (named entry child) foundMem
        obtain ⟨others, rfl, secondNamed⟩ :=
          along_of_mem_visit (children otherEntry otherChild) (named otherEntry otherChild) laterMem
        exact path.before_along firstNamed secondNamed lt

/-! ## Listings -/

variable {disk : Disk} {root : FilePath} {entries : List (FileName × Node)}

/-- A path that leads to a node can be looked up. -/
theorem fits_of_find (found : disk.find root = .ok node) : Disk.fits root = true := by
  by_contra tooLong
  have unnameable : Disk.isNameable root = false := by simp [Disk.isNameable, tooLong]
  rw [Disk.find, Disk.resolve, unnameable] at found
  cases found

theorem list_eq_below (found : disk.find root = .ok node) :
    filter.list disk root = filter.below root node := by
  rw [list, found]
  cases node with
  | file content => rw [below_eq_nil rfl]
  | directory entries => rfl
  | link target => rw [below_eq_nil rfl]

/-- Files in memory at the paths that are reached below a root are listed as they are on the
disk. -/
theorem list_ofList_eq_below (tree : node.IsTree) (fits : Disk.fits root = true)
    {files : List (FilePath × String)}
    (reached : ∀ path, path ∈ files.map (·.1) ↔ filter.Reaches filter.PassedOver root node path) :
    (StoredFiles.ofList files).list root = filter.below root node := by
  have alike : ∀ a ∈ files.map (·.1), ∀ b ∈ files.map (·.1), a.same b = true → a = b := by
    intro a aMem b bMem same
    obtain ⟨_, _, _, leads, -, -, -, rfl⟩ := (reached a).1 aMem
    obtain ⟨_, _, _, otherLeads, -, -, -, rfl⟩ := (reached b).1 bMem
    rw [(root.same_along (tree.isName_of_descend? leads)
      (tree.isName_of_descend? otherLeads)).1 same]
  refine FilePath.Ascending.eq_of_mem_iff ((StoredFiles.ascending_paths_ofList files).filter _)
    (ascending_below tree) ?_
  intro path
  rw [StoredFiles.list, List.mem_filter, StoredFiles.mem_paths_ofList alike, reached,
    mem_below tree fits, and_iff_left_iff_imp]
  intro found
  obtain ⟨_, _, _, leads, -, -, -, rfl⟩ := found
  exact root.isUnder_along (tree.isName_of_descend? leads)

/-- The listing of a directory is exactly what can be reached below it, without repetition and in
ascending path order, and so it is the listing of the same files in memory. If the name of every
hidden directory is a text, what is reached is what lies in no hidden or ignored directory. -/
theorem list_exact (filter : SourceFilter) (found : disk.find root = .ok (.directory entries))
    (tree : (Node.directory entries).IsTree) :
    (∀ path, path ∈ filter.list disk root ↔
      filter.Reaches filter.PassedOver root (.directory entries) path) ∧
    (filter.list disk root).Nodup ∧
    FilePath.Ascending (filter.list disk root) ∧
    (∀ files : List (FilePath × String),
      (∀ path, path ∈ files.map (·.1) ↔
        filter.Reaches filter.PassedOver root (.directory entries) path) →
      (StoredFiles.ofList files).list root = filter.list disk root) ∧
    (HiddenInText (.directory entries) → ∀ path, path ∈ filter.list disk root ↔
      filter.Reaches filter.Closed root (.directory entries) path) := by
  have fits := fits_of_find found
  have ascending : FilePath.Ascending (filter.below root (.directory entries)) :=
    ascending_below tree
  rw [list_eq_below found]
  refine ⟨fun path => mem_below tree fits, ascending.nodup, ascending,
    fun files reached => list_ofList_eq_below tree fits reached, fun inText path => ?_⟩
  rw [mem_below tree fits, inText.reaches_iff tree]

/-- A file below a directory comes before one whose name begins like the directory's, and what is
hidden or linked is not listed. -/
theorem list_exact_past_hidden :
    let file : Node := .file .empty
    let entries : List (FileName × Node) := [("a.fm", file), ("a", .directory [("b.fm", file)]),
      (".git", .directory [("x.fm", file)]), ("same.fm", .link "/w/a.fm"), (".fm", file)]
    let disk : Disk := ⟨.directory [("w", .directory entries)]⟩
    let filter : SourceFilter := {}
    let listed : List FilePath := ["/w/a/b.fm", "/w/a.fm"]
    disk.find "/w" = .ok (.directory entries) ∧ (Node.directory entries).IsTree ∧
      HiddenInText (.directory entries) ∧ filter.list disk "/w" = listed ∧
      (∀ path, path ∈ listed ↔ filter.Reaches filter.Closed "/w" (.directory entries) path) ∧
      FilePath.Ascending listed ∧
      (StoredFiles.ofList [("/w/a.fm", ""), ("/w/a/b.fm", "")]).list "/w" = listed := by
  intro file entries disk filter listed
  have found : disk.find "/w" = .ok (.directory entries) := rfl
  have leaf : file.IsTree := Node.isTree_of_leaf rfl
  have tree : (Node.directory entries).IsTree := by
    refine .intro (by decide) (by decide) ?_
    simp only [Node.entries, entries, List.forall_mem_cons]
    exact ⟨leaf, .single (by decide) leaf, .single (by decide) leaf, Node.isTree_of_leaf rfl, leaf,
      List.forall_mem_nil _⟩
  have leafInText : HiddenInText file := hiddenInText_of_leaf rfl
  have singleInText (text : String) : HiddenInText (.directory [(.ofText text, file)]) :=
    .intro (List.forall_mem_singleton.2 fun _ _ => ⟨text, rfl⟩)
      (List.forall_mem_singleton.2 leafInText)
  have inText : HiddenInText (.directory entries) := by
    refine .intro ?_ ?_
    · simp only [Node.entries, entries, List.forall_mem_cons]
      exact ⟨fun _ _ => ⟨_, rfl⟩, fun _ _ => ⟨_, rfl⟩, fun _ _ => ⟨_, rfl⟩, fun _ _ => ⟨_, rfl⟩,
        fun _ _ => ⟨_, rfl⟩, List.forall_mem_nil _⟩
    · simp only [Node.entries, entries, List.forall_mem_cons]
      exact ⟨leafInText, singleInText _, singleInText _, hiddenInText_of_leaf rfl, leafInText,
        List.forall_mem_nil _⟩
  let parts : List (FileName × List FilePath) := [("a.fm", ["/w/a.fm"]), ("a", ["/w/a/b.fm"]),
    (".git", []), ("same.fm", []), (".fm", [])]
  have visited : filter.visitAll "/w" entries = parts := by
    have sources : filter.isSource "/w/a.fm" = true ∧ filter.isSource "/w/a/b.fm" = true ∧
        filter.isSource "/w/.fm" = false ∧ Disk.fits "/w/a" = true := by
      decide
    have joins : FilePath.join "/w" "a.fm" = "/w/a.fm" ∧ FilePath.join "/w" "a" = "/w/a" ∧
        FilePath.join "/w/a" "b.fm" = "/w/a/b.fm" ∧ FilePath.join "/w" ".fm" = "/w/.fm" := by
      decide
    have opened : filter.isIgnored "a" = false := by
      rw [← Bool.not_eq_true, isIgnored_iff]
      exact fun passed => absurd passed.1 (by decide)
    have hidden : filter.isIgnored ".git" = true :=
      isIgnored_iff.2 ⟨by decide, ".git", rfl⟩
    simp [entries, parts, visitAll, visit, gather, file, sources, joins, opened, hidden]
  obtain ⟨exact, -, ascending, memory, visible⟩ := list_exact filter found tree
  have listing : filter.list disk "/w" = listed := by
    have ordered : FilePath.Ascending listed := by
      unfold FilePath.Ascending
      decide
    refine ascending.eq_of_mem_iff ordered fun path => ?_
    rw [list_eq_below found, below, Node.entries, visited, mem_gather]
    simp [listed, parts, or_comm]
  rw [listing] at exact ascending memory visible
  refine ⟨found, tree, inText, listing, visible inText, ascending, memory _ fun path => ?_⟩
  rw [← exact]
  simp [listed, or_comm]

/-- A source file in a hidden directory is listed if the name of the directory is no text. -/
theorem lists_hidden_without_text :
    let hidden : FileName := ⟨[0x2E, 0xFF]⟩
    let entries : List (FileName × Node) := [(hidden, .directory [("x.fm", .file .empty)])]
    let disk : Disk := ⟨.directory [("w", .directory entries)]⟩
    let filter : SourceFilter := {}
    let path : FilePath := FilePath.along "/w" [hidden, "x.fm"]
    disk.find "/w" = .ok (.directory entries) ∧ (Node.directory entries).IsTree ∧
      path ∈ filter.list disk "/w" ∧
      ¬ filter.Reaches filter.Closed "/w" (.directory entries) path := by
  intro hidden entries disk filter path
  have found : disk.find "/w" = .ok (.directory entries) := rfl
  have named : ∀ name ∈ [hidden, "x.fm"], IsName name := by decide
  have tree : (Node.directory entries).IsTree :=
    .single (by decide) (.single (by decide) (Node.isTree_of_leaf rfl))
  refine ⟨found, tree, ?_, ?_⟩
  · have notPassed : ¬ filter.PassedOver hidden := by
      intro passed
      obtain ⟨text, isText⟩ := passed.2
      have noText : hidden.text? = none := by decide
      rw [FileName.text?_eq_some_iff.2 isText] at noText
      cases noText
    have source : filter.Source "x.fm" :=
      ⟨bytesOf "x", "fm", by decide, by decide, by decide, by decide⟩
    rw [list_eq_below found, mem_below tree (by decide)]
    exact ⟨[hidden], "x.fm", .empty, rfl, List.forall_mem_singleton.2 notPassed, by decide, source,
      rfl⟩
  · intro reached
    obtain ⟨directories, name, content, leads, opened, -, -, same⟩ := reached
    have names : [hidden, "x.fm"] = directories ++ [name] := by
      refine (FilePath.same_along "/w" named (tree.isName_of_descend? leads)).1 ?_
      rw [← same, FilePath.same, decide_eq_true_eq]
    have only : directories = [hidden] := by
      have front := congrArg List.dropLast names
      simpa using front.symm
    exact opened hidden (only ▸ List.mem_singleton_self _) (by decide)

end SourceFilter

end LiveCheck
