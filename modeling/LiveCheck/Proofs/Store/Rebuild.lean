import LiveCheck.Proofs.Store.Disjoint
import Mathlib.Data.List.Forall2

/-!
What a rebuild makes of the files it is given.

The files are gone through in ascending order of their addresses. One of them is taken in
exactly if none of its names belongs to a file taken in before it; a file that is left out
blocks no other. `Rebuilt` says this of the files gone through so far, together with what the
store then holds. Each file extends it by one step (`Rebuilt.accept`), and since only the
ascending order counts, the order in which the files are given does not (`mergeSort_unique`).
-/

namespace LiveCheck

namespace Store

/-! ## The order of the files -/

section Order

variable {δ : Type} {files others : List (String × Table δ)}

/-- Files with distinct addresses have one ascending order. -/
theorem mergeSort_unique (distinct : (files.map (·.1)).Nodup) (perm : others.Perm files) :
    others.mergeSort (fun a b => a.1 ≤ b.1) = files.mergeSort (fun a b => a.1 ≤ b.1) := by
  have permSorted : (others.mergeSort (fun a b => a.1 ≤ b.1)).Perm
      (files.mergeSort (fun a b => a.1 ≤ b.1)) :=
    (List.mergeSort_perm others _).trans (perm.trans (List.mergeSort_perm files _).symm)
  refine List.Perm.eq_of_pairwise ?_ (Table.pairwise_mergeSort Prod.fst others)
    (Table.pairwise_mergeSort Prod.fst files) permSorted
  intro a b aMem bMem le ge
  have aMem : a ∈ files := perm.mem_iff.1 ((List.mergeSort_perm others _).mem_iff.1 aMem)
  have bMem : b ∈ files := (List.mergeSort_perm files _).mem_iff.1 bMem
  exact List.inj_on_of_nodup_map distinct aMem bMem (String.le_antisymm le ge)

end Order

/-! ## What a rebuild achieves -/

variable {δ : Type} [Definition δ] {known : NameSet} {store : Store δ}
  {files accepted rejected : List (String × Table δ)} {clashes : List NameClash}
  {file : String × Table δ} {clash : NameClash} {name owner : String}

/-- Two files define a name in common. -/
def Overlap (file other : String × Table δ) : Prop :=
  ∃ name, file.2.contains name = true ∧ other.2.contains name = true

/-- A file accepted before `file` defines `name`, and its definition belongs to `owner`. -/
def Taken (accepted : List (String × Table δ)) (file : String × Table δ) (name owner : String) :
    Prop :=
  ∃ holder ∈ accepted, holder.1 < file.1 ∧ owner? holder.2 name = some owner

/-- The clash of a rejected file: the smallest of its names that is taken, with its owner. -/
structure Blames (accepted : List (String × Table δ)) (file : String × Table δ)
    (clash : NameClash) : Prop where
  address : clash.file = file.1
  defined : file.2.contains clash.name = true
  taken : Taken accepted file clash.name clash.owner
  smallest : ∀ name owner, file.2.contains name = true → Taken accepted file name owner →
    clash.name ≤ name
  /-- Where definitions belong to the files that define them, the owner is accepted. -/
  accepted : (∀ holder ∈ accepted, Filed holder.1 holder.2) →
    ∃ holder ∈ accepted, holder.1 = clash.owner ∧ holder.2.contains clash.name = true

/-- What a rebuild from `files` leaves: some files are accepted, the others rejected. -/
structure Rebuilt (known : NameSet) (files accepted rejected : List (String × Table δ))
    (clashes : List NameClash) (store : Store δ) : Prop where
  /-- A file is accepted unless one of its names belongs to a file accepted before. -/
  greedy : ∀ file, file ∈ accepted ↔
    file ∈ files ∧ ∀ earlier ∈ accepted, earlier.1 < file.1 → ¬ Overlap earlier file
  others : ∀ file, file ∈ rejected ↔ file ∈ files ∧ file ∉ accepted
  disjoint : accepted.Pairwise fun file later => file.1 < later.1 ∧ ¬ Overlap file later
  globals : ∀ name definition, store.globals.get? name = some definition ↔
    ∃ file ∈ accepted, file.2.get? name = some definition
  entries : ∀ uri definitions, store.fileDefinitions? uri = some definitions ↔
    (uri, definitions) ∈ accepted
  ascending : rejected.Pairwise fun file later => file.1 < later.1
  /-- There is one clash for each rejected file. -/
  clashes : List.Forall₂ (Blames accepted) rejected clashes
  known : ∀ uri, store.known.contains uri = true ↔
    known.contains uri = true ∨ uri ∈ files.map (·.1)

theorem rebuilt_nil (known : NameSet) (clock : Nat) :
    Rebuilt known [] [] [] [] (⟨.empty, .empty, known, clock⟩ : Store δ) where
  greedy file := by simp
  others file := by simp
  disjoint := .nil
  globals name definition := by simp
  entries uri definitions := by simp [fileDefinitions?]
  ascending := .nil
  clashes := .nil
  known uri := by simp

/-! ## Names that are taken -/

theorem clash?_eq_none {globals definitions : Table δ} :
    clash? globals definitions = none ↔
      ∀ name, definitions.contains name = true → globals.get? name = none := by
  unfold clash?
  simp only [List.findSome?_eq_none_iff, Table.mem_keys, Option.map_eq_none_iff, owner?]

theorem clash?_eq_some {globals definitions : Table δ}
    (found : clash? globals definitions = some (name, owner)) :
    definitions.contains name = true ∧ owner? globals name = some owner ∧
      ∀ other, definitions.contains other = true → (globals.get? other).isSome = true →
        name ≤ other := by
  obtain ⟨before, key, after, split, owned, free⟩ := List.findSome?_eq_some_iff.1 found
  obtain ⟨holder, held, eq⟩ := Option.map_eq_some_iff.1 owned
  cases eq
  have ascending : definitions.keys.Pairwise (· < ·) := List.pairwise_map.2 definitions.ascending
  rw [split, List.pairwise_append, List.pairwise_cons] at ascending
  have defined : name ∈ definitions.keys := by
    rw [split]
    exact List.mem_append_right _ List.mem_cons_self
  refine ⟨Table.mem_keys.1 defined, held, ?_⟩
  intro other has owned
  have mem : other ∈ definitions.keys := Table.mem_keys.2 has
  rw [split, List.mem_append, List.mem_cons] at mem
  rcases mem with mem | rfl | mem
  · -- The names passed over are free.
    have none := Option.map_eq_none_iff.1 (free other mem)
    rw [owner?, Option.map_eq_none_iff] at none
    rw [none] at owned
    cases owned
  · exact String.le_refl _
  · exact Std.le_of_lt (ascending.2.1.1 other mem)

/-- What a file accepted later defines was not taken before. -/
theorem taken_append {later : String × Table δ} (behind : file.1 < later.1) :
    Taken (accepted ++ [later]) file name owner ↔ Taken accepted file name owner := by
  unfold Taken
  constructor
  · intro taken
    obtain ⟨holder, mem, before, owned⟩ := taken
    rcases List.mem_append.1 mem with mem | mem
    · exact ⟨holder, mem, before, owned⟩
    · obtain rfl := List.mem_singleton.1 mem
      exact absurd before (String.lt_asymm behind)
  · intro taken
    obtain ⟨holder, mem, before, owned⟩ := taken
    exact ⟨holder, List.mem_append_left _ mem, before, owned⟩

theorem Taken.accepted_owner (taken : Taken accepted file name owner)
    (filed : ∀ holder ∈ accepted, Filed holder.1 holder.2) :
    ∃ holder ∈ accepted, holder.1 = owner ∧ holder.2.contains name = true := by
  obtain ⟨holder, mem, -, owned⟩ := taken
  obtain ⟨definition, defined, rfl⟩ := owner?_eq_some.1 owned
  exact ⟨holder, mem, (filed holder mem name definition defined).symm,
    Table.contains_eq_true.2 ⟨definition, defined⟩⟩

theorem Blames.append {later : String × Table δ} (behind : file.1 < later.1)
    (blames : Blames accepted file clash) : Blames (accepted ++ [later]) file clash where
  address := blames.address
  defined := blames.defined
  taken := (taken_append behind).2 blames.taken
  smallest name owner has taken :=
    blames.smallest name owner has ((taken_append behind).1 taken)
  accepted filed := ((taken_append behind).2 blames.taken).accepted_owner filed

/-! ## One file -/

section Step

variable (rebuilt : Rebuilt known files accepted rejected clashes store)
include rebuilt

theorem Rebuilt.owner?_globals :
    owner? store.globals name = some owner ↔
      ∃ file ∈ accepted, owner? file.2 name = some owner := by
  rw [owner?_eq_some]
  constructor
  · intro held
    obtain ⟨definition, held, belongs⟩ := held
    obtain ⟨file, mem, defined⟩ := (rebuilt.globals name definition).1 held
    exact ⟨file, mem, owner?_eq_some.2 ⟨definition, defined, belongs⟩⟩
  · intro owned
    obtain ⟨file, mem, owned⟩ := owned
    obtain ⟨definition, defined, belongs⟩ := owner?_eq_some.1 owned
    exact ⟨definition, (rebuilt.globals name definition).2 ⟨file, mem, defined⟩, belongs⟩

theorem Rebuilt.get?_globals_eq_none :
    store.globals.get? name = none ↔ ∀ file ∈ accepted, ¬ file.2.contains name = true := by
  rw [Option.eq_none_iff_forall_ne_some]
  constructor
  · intro free file mem has
    obtain ⟨definition, defined⟩ := Table.contains_eq_true.1 has
    exact free definition ((rebuilt.globals name definition).2 ⟨file, mem, defined⟩)
  · intro free definition held
    obtain ⟨file, mem, defined⟩ := (rebuilt.globals name definition).1 held
    exact free file mem (Table.contains_eq_true.2 ⟨definition, defined⟩)

variable (later : ∀ earlier ∈ files, earlier.1 < file.1)
include later

/-- A file with a taken name is left out. -/
theorem Rebuilt.reject (found : clash? store.globals file.2 = some (name, owner)) :
    Rebuilt known (files ++ [file]) accepted (rejected ++ [file])
      (clashes ++ [⟨file.1, name, owner⟩]) { store with known := store.known.add file.1 } := by
  obtain ⟨defined, owned, smallest⟩ := clash?_eq_some found
  obtain ⟨holder, holderMem, held⟩ := rebuilt.owner?_globals.1 owned
  have before : ∀ earlier ∈ accepted, earlier.1 < file.1 := fun earlier mem =>
    later earlier ((rebuilt.greedy earlier).1 mem).1
  have taken : Taken accepted file name owner := ⟨holder, holderMem, before holder holderMem, held⟩
  have overlap : Overlap holder file := by
    obtain ⟨definition, has, -⟩ := owner?_eq_some.1 held
    exact ⟨name, Table.contains_eq_true.2 ⟨definition, has⟩, defined⟩
  have refused : file ∉ accepted := fun mem => String.lt_irrefl _ (before file mem)
  refine ⟨?_, ?_, rebuilt.disjoint, rebuilt.globals, rebuilt.entries, ?_, ?_, ?_⟩
  · intro other
    rw [rebuilt.greedy, List.mem_append, List.mem_singleton]
    constructor
    · intro chosen
      exact ⟨Or.inl chosen.1, chosen.2⟩
    · rintro ⟨mem | rfl, free⟩
      · exact ⟨mem, free⟩
      · exact absurd overlap (free holder holderMem (before holder holderMem))
  · intro other
    rw [List.mem_append, List.mem_append, rebuilt.others, List.mem_singleton, or_and_right]
    refine or_congr_right ⟨?_, And.left⟩
    rintro rfl
    exact ⟨rfl, refused⟩
  · refine List.pairwise_append.2 ⟨rebuilt.ascending, List.pairwise_singleton _ _, ?_⟩
    intro other mem last lastMem
    obtain rfl := List.mem_singleton.1 lastMem
    exact later other ((rebuilt.others other).1 mem).1
  · refine List.rel_append rebuilt.clashes (.cons ⟨rfl, defined, taken, ?_, ?_⟩ .nil)
    · intro other owner' has taken'
      obtain ⟨earlier, mem, -, owned'⟩ := taken'
      have held' := rebuilt.owner?_globals.2 ⟨earlier, mem, owned'⟩
      obtain ⟨definition, stored, -⟩ := owner?_eq_some.1 held'
      exact smallest other has (Option.isSome_iff_exists.2 ⟨definition, stored⟩)
    · exact taken.accepted_owner
  · intro uri
    rw [NameSet.contains_add, Bool.or_eq_true, decide_eq_true_eq, rebuilt.known, List.map_append,
      List.mem_append, List.map_singleton, List.mem_singleton]
    tauto

/-- A file whose names are all free is taken in. -/
theorem Rebuilt.take (free : clash? store.globals file.2 = none) :
    Rebuilt known (files ++ [file]) (accepted ++ [file]) rejected clashes {
      files := store.files.insert file.1 ⟨file.2, store.clock + 1⟩
      globals := takeOver store.globals file.2
      known := store.known.add file.1
      clock := store.clock + 1 } := by
  have before : ∀ earlier ∈ accepted, earlier.1 < file.1 := fun earlier mem =>
    later earlier ((rebuilt.greedy earlier).1 mem).1
  have apart : ∀ earlier ∈ accepted, ¬ Overlap earlier file := by
    intro earlier mem overlap
    obtain ⟨name, has, has'⟩ := overlap
    have unheld := clash?_eq_none.1 free name has'
    exact rebuilt.get?_globals_eq_none.1 unheld earlier mem has
  refine ⟨?_, ?_, ?_, ?_, ?_, rebuilt.ascending, ?_, ?_⟩
  · intro other
    rw [List.mem_append, List.mem_append, List.mem_singleton, List.forall_mem_append,
      List.forall_mem_singleton]
    constructor
    · rintro (mem | rfl)
      · have chosen := (rebuilt.greedy other).1 mem
        exact ⟨Or.inl chosen.1, chosen.2, fun behind =>
          absurd behind (String.lt_asymm (later other chosen.1))⟩
      · exact ⟨Or.inr rfl, fun earlier mem _ => apart earlier mem,
          fun behind => absurd behind (String.lt_irrefl _)⟩
    · rintro ⟨mem | rfl, chosen, -⟩
      · exact Or.inl ((rebuilt.greedy other).2 ⟨mem, chosen⟩)
      · exact Or.inr rfl
  · intro other
    rw [rebuilt.others, List.mem_append, List.mem_append, List.mem_singleton, not_or]
    constructor
    · rintro ⟨mem, left⟩
      refine ⟨Or.inl mem, left, ?_⟩
      rintro rfl
      exact String.lt_irrefl _ (later other mem)
    · rintro ⟨mem | rfl, left, new⟩
      · exact ⟨mem, left⟩
      · exact absurd rfl new
  · refine List.pairwise_append.2 ⟨rebuilt.disjoint, List.pairwise_singleton _ _, ?_⟩
    intro earlier mem last lastMem
    rw [List.mem_singleton.1 lastMem]
    exact ⟨before earlier mem, apart earlier mem⟩
  · intro name definition
    show (takeOver store.globals file.2).get? name = some definition ↔ _
    rw [get?_takeOver, Option.or_eq_some_iff, rebuilt.globals]
    constructor
    · rintro (defined | ⟨-, earlier, mem, defined⟩)
      · exact ⟨file, List.mem_append_right _ List.mem_cons_self, defined⟩
      · exact ⟨earlier, List.mem_append_left _ mem, defined⟩
    · rintro ⟨other, mem, defined⟩
      rcases List.mem_append.1 mem with mem | mem
      · -- The file has none of the names that are taken.
        have fresh : file.2.get? name = none := Table.not_contains.1 fun has =>
          apart other mem ⟨name, Table.contains_eq_true.2 ⟨definition, defined⟩, has⟩
        exact Or.inr ⟨fresh, other, mem, defined⟩
      · obtain rfl := List.mem_singleton.1 mem
        exact Or.inl defined
  · intro uri definitions
    rw [fileDefinitions?, Table.get?_insert, List.mem_append, List.mem_singleton]
    split
    · next same =>
      have absent : (uri, definitions) ∉ accepted := fun mem =>
        String.lt_irrefl _ (same ▸ before _ mem)
      rw [Option.map_some, Option.some_inj, or_iff_right absent, Prod.ext_iff]
      exact ⟨fun eq => ⟨same, eq.symm⟩, fun eq => eq.2.symm⟩
    · next other =>
      have differs : (uri, definitions) ≠ file := fun eq => other (congrArg Prod.fst eq)
      rw [or_iff_left differs]
      exact rebuilt.entries uri definitions
  · -- The files left out so far were left out because of files before them.
    have behind : ∀ other ∈ rejected, other.1 < file.1 := fun other mem =>
      later other ((rebuilt.others other).1 mem).1
    have both := (List.forall₂_and_left _ _).2 ⟨behind, rebuilt.clashes⟩
    exact both.imp fun _ _ parts => parts.2.append parts.1
  · intro uri
    rw [NameSet.contains_add, Bool.or_eq_true, decide_eq_true_eq, rebuilt.known, List.map_append,
      List.mem_append, List.map_singleton, List.mem_singleton]
    tauto

/-- One more file extends what a rebuild has achieved. -/
theorem Rebuilt.accept :
    ∃ accepted' rejected', Rebuilt known (files ++ [file]) accepted' rejected'
      (Store.accept (clashes, store) file).1 (Store.accept (clashes, store) file).2 := by
  cases found : clash? store.globals file.2 with
  | some owned =>
    have step : Store.accept (clashes, store) file =
        (clashes ++ [⟨file.1, owned.1, owned.2⟩],
          { store with known := store.known.add file.1 }) := by
      simp only [Store.accept, found]
    rw [step]
    exact ⟨accepted, rejected ++ [file], rebuilt.reject later found⟩
  | none =>
    have step : Store.accept (clashes, store) file =
        (clashes, {
          files := store.files.insert file.1 ⟨file.2, store.clock + 1⟩
          globals := takeOver store.globals file.2
          known := store.known.add file.1
          clock := store.clock + 1 }) := by
      simp only [Store.accept, found]
    rw [step]
    exact ⟨accepted ++ [file], rejected, rebuilt.take later found⟩

end Step

/-! ## All files -/

/-- Files in ascending order, behind those handled so far, extend a rebuild. -/
theorem Rebuilt.foldl {seen : List (String × Table δ)}
    (rebuilt : Rebuilt known seen accepted rejected clashes store)
    (ascending : (seen ++ files).Pairwise fun file later => file.1 < later.1) :
    ∃ accepted' rejected', Rebuilt known (seen ++ files) accepted' rejected'
      (files.foldl Store.accept (clashes, store)).1
      (files.foldl Store.accept (clashes, store)).2 := by
  induction files generalizing seen accepted rejected clashes store with
  | nil =>
    rw [List.append_nil]
    exact ⟨accepted, rejected, rebuilt⟩
  | cons file rest ih =>
    have later : ∀ earlier ∈ seen, earlier.1 < file.1 := fun earlier mem =>
      (List.pairwise_append.1 ascending).2.2 earlier mem file List.mem_cons_self
    obtain ⟨accepted', rejected', next⟩ := rebuilt.accept later
    rw [List.append_cons] at ascending ⊢
    exact ih next ascending

/-- What a rebuild achieves does not depend on the order of the files. -/
theorem Rebuilt.perm {others : List (String × Table δ)}
    (rebuilt : Rebuilt known files accepted rejected clashes store) (perm : files.Perm others) :
    Rebuilt known others accepted rejected clashes store where
  greedy file := by rw [rebuilt.greedy, perm.mem_iff]
  others file := by rw [rebuilt.others, perm.mem_iff]
  disjoint := rebuilt.disjoint
  globals := rebuilt.globals
  entries := rebuilt.entries
  ascending := rebuilt.ascending
  clashes := rebuilt.clashes
  known uri := by rw [rebuilt.known, (perm.map (·.1)).mem_iff]

theorem exists_rebuilt (store : Store δ) (distinct : (files.map (·.1)).Nodup) :
    ∃ accepted rejected, Rebuilt store.known files accepted rejected
      (store.rebuild files).1 (store.rebuild files).2 := by
  have start := rebuilt_nil (δ := δ) store.known store.clock
  obtain ⟨accepted, rejected, rebuilt⟩ := start.foldl (Table.ascending_mergeSort Prod.fst distinct)
  exact ⟨accepted, rejected, rebuilt.perm (List.mergeSort_perm files _)⟩

/-- A rebuild takes files in greedily, in the ascending order of their addresses, and
depends only on which files it is given. -/
theorem rebuild_greedy (store : Store δ) (distinct : (files.map (·.1)).Nodup) :
    (∃ accepted rejected, Rebuilt store.known files accepted rejected
      (store.rebuild files).1 (store.rebuild files).2) ∧
    ∀ others : List (String × Table δ), (others.map (·.1)).Nodup →
      (∀ file, file ∈ others ↔ file ∈ files) → store.rebuild others = store.rebuild files := by
  constructor
  · exact exists_rebuilt store distinct
  · intro others distinct' same
    have perm : others.Perm files :=
      (List.perm_ext_iff_of_nodup distinct'.of_map distinct.of_map).2 same
    unfold rebuild
    rw [mergeSort_unique distinct perm]

/-- The second of three files is left out for a name of the first, and its other name stays
free for the third. -/
theorem rebuild_greedy_skips :
    let item (name file : String) : OutlineItem :=
      ⟨name, file, "", .empty 0, .empty 0, [], false⟩
    let first := ("a", tableOf [item "x" "a"])
    let second := ("b", tableOf [item "x" "b", item "z" "b"])
    let third := ("c", tableOf [item "z" "c"])
    let before := (Store.empty.record "d" (tableOf [item "y" "d"])).2
    let rebuilt := before.rebuild [third, first, second]
    ([third, first, second].map (·.1)).Nodup ∧
      (∃ accepted rejected, Rebuilt before.known [third, first, second] accepted rejected
        rebuilt.1 rebuilt.2) ∧
      rebuilt = before.rebuild [first, second, third] ∧
      rebuilt.1 = [⟨"b", "x", "a"⟩] ∧ rebuilt.2.globals.keys = ["x", "z"] ∧
      rebuilt.2.files.keys = ["a", "c"] ∧ rebuilt.2.known.toList = ["a", "b", "c", "d"] := by
  intro item first second third before rebuilt
  have distinct : ([third, first, second].map (·.1)).Nodup := by decide
  have distinct' : ([first, second, third].map (·.1)).Nodup := by decide
  have perm : [first, second, third].Perm [third, first, second] :=
    (List.perm_append_comm : ([third] ++ [first, second]).Perm ([first, second] ++ [third])).symm
  obtain ⟨achieved, unordered⟩ := rebuild_greedy before distinct
  have same : rebuilt = before.rebuild [first, second, third] :=
    (unordered _ distinct' fun _ => perm.mem_iff).symm
  have sorted : [first, second, third].mergeSort (fun a b => a.1 ≤ b.1) = [first, second, third] :=
    List.mergeSort_of_pairwise (by decide)
  have run : rebuilt = [first, second, third].foldl accept
      ([], { before with files := .empty, globals := .empty }) := by
    rw [same, rebuild, sorted]
  refine ⟨distinct, achieved, same, ?_⟩
  rw [run]
  decide

end Store

end LiveCheck
