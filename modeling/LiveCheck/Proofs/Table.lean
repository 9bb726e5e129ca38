import LiveCheck.Workspace.Definition
import Mathlib.Data.List.Nodup

/-!
Tables after many insertions.

A fold of insertions over entries in ascending key order answers like the entries
first and like the table it started from otherwise (`Table.get?_insertAll`). For
entries in any order only the origin of an answer is fixed
(`Table.mem_of_get?_insertAll`), since of two entries with one key the later stays.
-/

namespace LiveCheck

namespace Table

variable {α : Type u}

/-- Insert every entry of a list, in order. -/
def insertAll (table : Table α) (entries : List (String × α)) : Table α :=
  entries.foldl (fun table entry => table.insert entry.1 entry.2) table

theorem lookup_eq_none_of_above {entries : List (String × α)} {key : String}
    (above : ∀ entry ∈ entries, key < entry.1) : entries.lookup key = none := by
  induction entries with
  | nil => rfl
  | cons first rest ih =>
      have ne : key ≠ first.1 := by
        intro eq
        exact String.lt_irrefl key (eq ▸ above first List.mem_cons_self)
      rw [lookup_entry_cons, if_neg ne]
      exact ih fun entry mem => above entry (List.mem_cons_of_mem _ mem)

/-- Ascending entries win over the table they are inserted into. -/
theorem get?_insertAll {entries : List (String × α)}
    (ascending : entries.Pairwise (fun a b => a.1 < b.1)) (table : Table α) (key : String) :
    (table.insertAll entries).get? key = (entries.lookup key).or (table.get? key) := by
  induction entries generalizing table with
  | nil => rfl
  | cons first rest ih =>
      have ⟨below, rest_ascending⟩ := List.pairwise_cons.1 ascending
      rw [show table.insertAll (first :: rest) = (table.insert first.1 first.2).insertAll rest
        from rfl, ih rest_ascending, lookup_entry_cons, get?_insert]
      by_cases h : key = first.1
      · rw [if_pos h, if_pos h, lookup_eq_none_of_above (h ▸ below)]
        rfl
      · rw [if_neg h, if_neg h]

/-- What a table answers after insertions was inserted or there before. -/
theorem mem_of_get?_insertAll {entries : List (String × α)} {table : Table α} {key : String}
    {value : α} (found : (table.insertAll entries).get? key = some value) :
    (key, value) ∈ entries ∨ table.get? key = some value := by
  induction entries generalizing table with
  | nil => exact Or.inr found
  | cons first rest ih =>
      have found : ((table.insert first.1 first.2).insertAll rest).get? key = some value := found
      rcases ih found with mem | inserted
      · exact Or.inl (List.mem_cons_of_mem _ mem)
      · rw [get?_insert] at inserted
        split at inserted
        · next eq =>
          cases inserted
          exact Or.inl (eq ▸ List.mem_cons_self)
        · exact Or.inr inserted

theorem mem_of_get?_ofList {entries : List (String × α)} {key : String} {value : α}
    (found : (ofList entries).get? key = some value) : (key, value) ∈ entries := by
  have found : ((empty : Table α).insertAll entries).get? key = some value := found
  rcases mem_of_get?_insertAll found with mem | none
  · exact mem
  · cases none

theorem insert_insert (table : Table α) (key : String) (first second : α) :
    (table.insert key first).insert key second = table.insert key second := by
  apply ext_get?
  intro other
  simp only [get?_insert]
  split <;> rfl

theorem erase_erase (table : Table α) (key : String) :
    (table.erase key).erase key = table.erase key := by
  apply ext_get?
  intro other
  simp only [get?_erase]
  split <;> rfl

/-! ## Membership -/

theorem contains_eq_true {table : Table α} {key : String} :
    table.contains key = true ↔ ∃ value, table.get? key = some value :=
  Option.isSome_iff_exists

theorem contains_eq_false {table : Table α} {key : String} :
    table.contains key = false ↔ table.get? key = none := by
  rw [contains, Option.isSome_eq_false_iff, Option.isNone_iff_eq_none]

theorem not_contains {table : Table α} {key : String} :
    ¬ table.contains key = true ↔ table.get? key = none := by
  rw [Bool.not_eq_true, contains_eq_false]

theorem contains_insert {table : Table α} {key other : String} {value : α} :
    (table.insert key value).contains other = true ↔
      other = key ∨ table.contains other = true := by
  rw [contains, get?_insert, contains]
  split <;> simp_all

theorem contains_erase {table : Table α} {key other : String} :
    (table.erase key).contains other = true ↔ other ≠ key ∧ table.contains other = true := by
  rw [contains, get?_erase, contains]
  split <;> simp_all

theorem contains_insertAll {entries : List (String × α)} {table : Table α} {key : String} :
    (table.insertAll entries).contains key = true ↔
      key ∈ entries.map (·.1) ∨ table.contains key = true := by
  induction entries generalizing table with
  | nil => simp [insertAll]
  | cons first rest ih =>
      rw [show table.insertAll (first :: rest) = (table.insert first.1 first.2).insertAll rest
        from rfl, ih, contains_insert, List.map_cons, List.mem_cons, or_assoc]
      exact or_left_comm

theorem contains_ofList {entries : List (String × α)} {key : String} :
    (ofList entries).contains key = true ↔ key ∈ entries.map (·.1) := by
  rw [show ofList entries = (empty : Table α).insertAll entries from rfl, contains_insertAll]
  simp [contains]

/-- Of entries with distinct keys every one is found. -/
theorem get?_ofList_eq_some {entries : List (String × α)}
    (distinct : (entries.map (·.1)).Nodup) {key : String} {value : α} :
    (ofList entries).get? key = some value ↔ (key, value) ∈ entries := by
  constructor
  · exact mem_of_get?_ofList
  · intro mem
    have has : (ofList entries).contains key = true :=
      contains_ofList.2 (List.mem_map.2 ⟨(key, value), mem, rfl⟩)
    obtain ⟨other, found⟩ := contains_eq_true.1 has
    have same : (key, other) = (key, value) :=
      List.inj_on_of_nodup_map distinct (mem_of_get?_ofList found) mem rfl
    cases same
    exact found

theorem eq_nil_of_ofList_eq_empty {entries : List (String × α)}
    (none : ofList entries = empty) : entries = [] := by
  cases entries with
  | nil => rfl
  | cons first rest =>
      have has : (ofList (first :: rest)).contains first.1 = true :=
        contains_ofList.2 List.mem_cons_self
      rw [none] at has
      cases has

theorem mem_values {table : Table α} {value : α} :
    value ∈ table.values ↔ ∃ key, table.get? key = some value := by
  simp only [values, List.mem_map, get?_eq_some_iff]
  constructor
  · intro parts
    obtain ⟨⟨key, _⟩, mem, rfl⟩ := parts
    exact ⟨key, mem⟩
  · intro parts
    obtain ⟨key, mem⟩ := parts
    exact ⟨(key, value), mem, rfl⟩

theorem values_filter (table : Table α) (keep : α → Bool) :
    (table.filter fun _ value => keep value).values = table.values.filter keep := by
  rw [values, values, List.filter_map]
  rfl

theorem get?_mapValues {β : Type v} (table : Table α) (change : String → α → β) (key : String) :
    (table.mapValues change).get? key = (table.get? key).map (change key) := by
  apply Option.ext
  intro value
  rw [get?_eq_some_iff, Option.map_eq_some_iff]
  simp only [mapValues, List.mem_map, Prod.mk.injEq, get?_eq_some_iff]
  constructor
  · intro parts
    obtain ⟨⟨_, source⟩, mem, rfl, rfl⟩ := parts
    exact ⟨source, mem, rfl⟩
  · intro parts
    obtain ⟨source, mem, rfl⟩ := parts
    exact ⟨(key, source), mem, rfl, rfl⟩

theorem nodup_keys (table : Table α) : table.keys.Nodup := nodup_of_ascending table.ascending

theorem keys_congr {β : Type v} {a : Table α} {b : Table β}
    (same : ∀ key, a.contains key = b.contains key) : a.keys = b.keys := by
  have forgotten : a.mapValues (fun _ _ => ()) = b.mapValues (fun _ _ => ()) := by
    apply ext_get?
    intro key
    have same := same key
    simp only [contains] at same
    rw [get?_mapValues, get?_mapValues]
    revert same
    cases a.get? key <;> cases b.get? key <;> simp
  have listed := congrArg keys forgotten
  simpa [keys, mapValues, Function.comp_def] using listed

/-- Looking up the keys of some entries gives back their values. -/
theorem filterMap_get?_keys {table : Table α} {entries : List (String × α)}
    (sub : ∀ entry ∈ entries, entry ∈ table.entries) :
    (entries.map (·.1)).filterMap table.get? = entries.map (·.2) := by
  induction entries with
  | nil => rfl
  | cons first rest ih =>
      have found : table.get? first.1 = some first.2 :=
        get?_eq_some_iff.2 (sub first List.mem_cons_self)
      rw [List.map_cons, List.filterMap_cons_some found, List.map_cons,
        ih fun entry mem => sub entry (List.mem_cons_of_mem _ mem)]

/-! ## Sorting by key -/

section Sorting

variable {κ : Type v} [LE κ] [DecidableLE κ] [Std.IsLinearOrder κ] (key : α → κ)

theorem le_key_trans (a b c : α) : decide (key a ≤ key b) = true →
    decide (key b ≤ key c) = true → decide (key a ≤ key c) = true := by
  rw [decide_eq_true_eq, decide_eq_true_eq, decide_eq_true_eq]
  exact Std.le_trans

theorem le_key_total (a b : α) :
    (decide (key a ≤ key b) || decide (key b ≤ key a)) = true := by
  rw [Bool.or_eq_true, decide_eq_true_eq, decide_eq_true_eq]
  exact Std.le_total

theorem pairwise_mergeSort (items : List α) :
    (items.mergeSort (fun a b => key a ≤ key b)).Pairwise (fun a b => key a ≤ key b) :=
  (List.pairwise_mergeSort (le_key_trans key) (le_key_total key) items).imp of_decide_eq_true

/-- Items with distinct keys are in strictly ascending order after sorting. -/
theorem ascending_mergeSort [LT κ] [Std.LawfulOrderLT κ] {items : List α}
    (distinct : (items.map key).Nodup) :
    (items.mergeSort (fun a b => key a ≤ key b)).Pairwise (fun a b => key a < key b) := by
  have perm := List.mergeSort_perm items (fun a b => key a ≤ key b)
  have apart := (perm.map key).nodup_iff.2 distinct
  rw [List.nodup_iff_pairwise_ne, List.pairwise_map] at apart
  have both := (pairwise_mergeSort key items).and apart
  exact both.imp fun parts => Std.lt_of_le_of_ne parts.1 parts.2

end Sorting

end Table

/-! ## Sets of names -/

namespace NameSet

theorem contains_ofList (names : List String) (name : String) :
    (ofList names).contains name = true ↔ name ∈ names := by
  rw [ofList, contains_addAll]
  simp [Table.contains]

theorem contains_union (a b : NameSet) (name : String) :
    (union a b).contains name = true ↔ a.contains name = true ∨ b.contains name = true := by
  rw [union, contains_addAll, Bool.or_eq_true, decide_eq_true_eq, Table.mem_keys, or_comm]

theorem contains_filter (set : NameSet) (keep : String → Bool) (name : String) :
    (set.filter fun member _ => keep member).contains name = true ↔
      set.contains name = true ∧ keep name = true := by
  rw [Table.contains, Table.get?_filter, Table.contains]
  cases set.get? name with
  | none => simp
  | some value => cases keep name <;> simp

theorem mem_toList {set : NameSet} {name : String} :
    name ∈ set.toList ↔ set.contains name = true :=
  Table.mem_keys

end NameSet

/-! ## Tables of definitions -/

section Definitions

variable {δ : Type} [Definition δ]

/-- Every definition in a table made from a list is in the list, under its own name. -/
theorem mem_of_get?_tableOf {definitions : List δ} {name : String} {definition : δ}
    (found : (tableOf definitions).get? name = some definition) :
    definition ∈ definitions ∧ Definition.name definition = name := by
  obtain ⟨source, mem, eq⟩ := List.mem_map.1 (Table.mem_of_get?_ofList found)
  cases eq
  exact ⟨mem, rfl⟩

theorem owner?_eq_some {table : Table δ} {name file : String} :
    owner? table name = some file ↔
      ∃ definition, table.get? name = some definition ∧ Definition.file definition = file := by
  rw [owner?, Option.map_eq_some_iff]

end Definitions

end LiveCheck
