/-!
Finite tables keyed by text, with their entries in ascending key order.

A table is its list of entries together with the fact that the keys ascend
strictly, so two tables that answer every lookup alike are equal
(`Table.ext_get?`) and the order in which entries were inserted leaves no trace.
Keys are compared by code point, which is also the order of their UTF-8 bytes.
-/

namespace LiveCheck

/-- A finite map from text to `α`, listed in ascending key order. -/
structure Table (α : Type u) where
  entries : List (String × α)
  ascending : entries.Pairwise (fun a b => a.1 < b.1)

namespace Table

variable {α : Type u} {β : Type v}

/-- The table without entries. -/
def empty : Table α := ⟨[], .nil⟩

instance : Inhabited (Table α) := ⟨empty⟩

instance : EmptyCollection (Table α) := ⟨empty⟩

instance [BEq α] : BEq (Table α) := ⟨fun a b => a.entries == b.entries⟩

/-- The value stored under `key`. -/
def get? (table : Table α) (key : String) : Option α :=
  table.entries.lookup key

/-- Whether `key` has a value. -/
def contains (table : Table α) (key : String) : Bool :=
  (table.get? key).isSome

/-- The keys in ascending order. -/
def keys (table : Table α) : List String :=
  table.entries.map (·.1)

/-- The values in ascending order of their keys. -/
def values (table : Table α) : List α :=
  table.entries.map (·.2)

/-- The number of entries. -/
def size (table : Table α) : Nat :=
  table.entries.length

/-- Whether there is no entry. -/
def isEmpty (table : Table α) : Bool :=
  table.entries.isEmpty

/-! ## Insertion -/

/-- Put an entry at its place in an ascending list, replacing the entry that
has the same key. -/
def insertEntry (key : String) (value : α) : List (String × α) → List (String × α)
  | [] => [(key, value)]
  | entry :: rest =>
    if key < entry.1 then (key, value) :: entry :: rest
    else if key = entry.1 then (key, value) :: rest
    else entry :: insertEntry key value rest

theorem mem_insertEntry {key : String} {value : α} {entry : String × α}
    {entries : List (String × α)} (h : entry ∈ insertEntry key value entries) :
    entry = (key, value) ∨ entry ∈ entries := by
  induction entries with
  | nil => simpa [insertEntry] using h
  | cons first rest ih =>
    rw [insertEntry] at h
    split at h
    · simpa using h
    · split at h
      · rcases List.mem_cons.1 h with h | h
        · exact .inl h
        · exact .inr (List.mem_cons_of_mem _ h)
      · rcases List.mem_cons.1 h with h | h
        · exact .inr (h ▸ List.mem_cons_self)
        · exact (ih h).imp id (List.mem_cons_of_mem _)

theorem ascending_insertEntry (key : String) (value : α) {entries : List (String × α)}
    (h : entries.Pairwise (fun a b => a.1 < b.1)) :
    (insertEntry key value entries).Pairwise (fun a b => a.1 < b.1) := by
  induction entries with
  | nil => simp [insertEntry]
  | cons first rest ih =>
    have ⟨below, rest_ascending⟩ := List.pairwise_cons.1 h
    rw [insertEntry]
    split
    · next lt =>
      refine List.pairwise_cons.2 ⟨fun entry mem => ?_, h⟩
      rcases List.mem_cons.1 mem with rfl | mem
      · exact lt
      · exact String.lt_trans lt (below entry mem)
    · next not_lt =>
      split
      · next eq =>
        exact List.pairwise_cons.2 ⟨fun entry mem => eq ▸ below entry mem, rest_ascending⟩
      · next ne =>
        refine List.pairwise_cons.2 ⟨fun entry mem => ?_, ih rest_ascending⟩
        rcases mem_insertEntry mem with rfl | mem
        · exact Std.not_le.1 fun le => ne (String.le_antisymm le (String.not_lt.1 not_lt))
        · exact below entry mem

/-- Store `value` under `key`, replacing what was there. -/
def insert (table : Table α) (key : String) (value : α) : Table α :=
  ⟨insertEntry key value table.entries, ascending_insertEntry key value table.ascending⟩

/-- The table of a list of entries; of two entries with one key the later stays. -/
def ofList (entries : List (String × α)) : Table α :=
  entries.foldl (fun table entry => table.insert entry.1 entry.2) empty

/-! ## Removal -/

/-- Keep the entries that satisfy `keep`. -/
def filter (table : Table α) (keep : String → α → Bool) : Table α :=
  ⟨table.entries.filter (fun entry => keep entry.1 entry.2), table.ascending.filter _⟩

/-- Drop the entry of `key`. -/
def erase (table : Table α) (key : String) : Table α :=
  table.filter (fun other _ => other != key)

/-- Change every value, keeping the keys. -/
def mapValues (table : Table α) (change : String → α → β) : Table β :=
  ⟨table.entries.map (fun entry => (entry.1, change entry.1 entry.2)),
    table.ascending.map _ (fun _ _ lt => lt)⟩

/-! ## Lookup after each operation -/

@[simp]
theorem get?_empty (key : String) : (empty : Table α).get? key = none := rfl

theorem lookup_entry_cons {κ : Type w} [DecidableEq κ] (key : κ) (first : κ × α)
    (rest : List (κ × α)) :
    (first :: rest).lookup key = if key = first.1 then some first.2 else rest.lookup key := by
  rw [List.lookup_cons]
  by_cases h : key = first.1
  · simp [h]
  · rw [beq_eq_false_iff_ne.2 h, if_neg h]

theorem lookup_insertEntry (key other : String) (value : α) (entries : List (String × α)) :
    (insertEntry key value entries).lookup other =
      if other = key then some value else entries.lookup other := by
  induction entries with
  | nil => simp [insertEntry, lookup_entry_cons]
  | cons first rest ih =>
    rw [insertEntry]
    split
    · simp [lookup_entry_cons]
    · split
      · next eq =>
        simp only [lookup_entry_cons]
        by_cases h : other = key
        · simp [h]
        · simp [h, ← eq]
      · next ne =>
        simp only [lookup_entry_cons, ih]
        by_cases h : other = first.1
        · simp [h, Ne.symm ne]
        · simp [h]

theorem get?_insert (table : Table α) (key other : String) (value : α) :
    (table.insert key value).get? other = if other = key then some value else table.get? other :=
  lookup_insertEntry key other value table.entries

@[simp]
theorem get?_insert_self (table : Table α) (key : String) (value : α) :
    (table.insert key value).get? key = some value := by
  simp [get?_insert]

/-- Of entries with distinct keys every one is found. -/
theorem lookup_eq_some_iff {κ : Type w} [DecidableEq κ] {entries : List (κ × α)}
    (distinct : (entries.map (·.1)).Nodup) (key : κ) (value : α) :
    entries.lookup key = some value ↔ (key, value) ∈ entries := by
  induction entries with
  | nil => simp
  | cons first rest ih =>
    obtain ⟨firstKey, firstValue⟩ := first
    have ⟨other, rest_distinct⟩ := List.nodup_cons.1 distinct
    by_cases eq : key = firstKey
    · subst eq
      simp only [lookup_entry_cons, if_true, List.mem_cons, Prod.mk.injEq, true_and]
      constructor
      · intro same
        exact .inl (Option.some.inj same).symm
      · rintro (same | mem)
        · rw [same]
        · exact absurd (List.mem_map_of_mem mem) other
    · simp [lookup_entry_cons, eq, ih rest_distinct]

theorem nodup_of_ascending {entries : List (String × α)}
    (ascending : entries.Pairwise (fun a b => a.1 < b.1)) : (entries.map (·.1)).Nodup := by
  rw [List.nodup_iff_pairwise_ne, List.pairwise_map]
  refine ascending.imp ?_
  intro first second lt eq
  exact String.lt_irrefl _ (eq ▸ lt)

/-- Lookup finds exactly the entries. -/
theorem get?_eq_some_iff {table : Table α} {key : String} {value : α} :
    table.get? key = some value ↔ (key, value) ∈ table.entries :=
  lookup_eq_some_iff (nodup_of_ascending table.ascending) key value

theorem get?_filter (table : Table α) (keep : String → α → Bool) (key : String) :
    (table.filter keep).get? key = (table.get? key).filter (keep key) := by
  apply Option.ext
  intro value
  rw [get?_eq_some_iff, Option.filter_eq_some_iff, get?_eq_some_iff]
  simp [filter]

theorem get?_erase (table : Table α) (key other : String) :
    (table.erase key).get? other = if other = key then none else table.get? other := by
  rw [erase, get?_filter]
  by_cases h : other = key
  · simp [h]
  · have keeps : (other != key) = true := by simp [h]
    cases table.get? other <;> simp [h, keeps]

theorem mem_keys {table : Table α} {key : String} :
    key ∈ table.keys ↔ table.contains key = true := by
  simp only [keys, List.mem_map, contains, Option.isSome_iff_exists, get?_eq_some_iff]
  constructor
  · rintro ⟨⟨_, value⟩, mem, rfl⟩
    exact ⟨value, mem⟩
  · rintro ⟨value, mem⟩
    exact ⟨(key, value), mem, rfl⟩

theorem entries_eq_of_lookup_eq {a b : List (String × α)}
    (ha : a.Pairwise (fun x y => x.1 < y.1)) (hb : b.Pairwise (fun x y => x.1 < y.1))
    (h : ∀ key value, (key, value) ∈ a ↔ (key, value) ∈ b) : a = b := by
  induction a generalizing b with
  | nil =>
    cases b with
    | nil => rfl
    | cons first rest => exact absurd ((h first.1 first.2).2 List.mem_cons_self) (by simp)
  | cons x xs ih =>
    cases b with
    | nil => exact absurd ((h x.1 x.2).1 List.mem_cons_self) (by simp)
    | cons y ys =>
      have ⟨x_below, xs_ascending⟩ := List.pairwise_cons.1 ha
      have ⟨y_below, ys_ascending⟩ := List.pairwise_cons.1 hb
      have same : x = y := by
        rcases List.mem_cons.1 ((h x.1 x.2).1 List.mem_cons_self) with eq | x_mem
        · exact eq
        rcases List.mem_cons.1 ((h y.1 y.2).2 List.mem_cons_self) with eq | y_mem
        · exact eq.symm
        exact absurd (y_below x x_mem) (String.lt_asymm (x_below y y_mem))
      subst same
      congr 1
      refine ih xs_ascending ys_ascending fun key value => ⟨fun mem => ?_, fun mem => ?_⟩
      · rcases List.mem_cons.1 ((h key value).1 (List.mem_cons_of_mem _ mem)) with eq | mem'
        · exact absurd (x_below _ mem) (by rw [← eq]; exact String.lt_irrefl _)
        · exact mem'
      · rcases List.mem_cons.1 ((h key value).2 (List.mem_cons_of_mem _ mem)) with eq | mem'
        · exact absurd (y_below _ mem) (by rw [← eq]; exact String.lt_irrefl _)
        · exact mem'

/-- Tables with the same lookups are equal. -/
theorem ext_get? {a b : Table α} (h : ∀ key, a.get? key = b.get? key) : a = b := by
  obtain ⟨entries, ascending⟩ := a
  obtain ⟨entries', ascending'⟩ := b
  have : entries = entries' :=
    entries_eq_of_lookup_eq ascending ascending' fun key value => by
      rw [← lookup_eq_some_iff (nodup_of_ascending ascending),
        ← lookup_eq_some_iff (nodup_of_ascending ascending')]
      show get? ⟨entries, ascending⟩ key = _ ↔ get? ⟨entries', ascending'⟩ key = _
      rw [h key]
  subst this
  rfl

end Table

/-! ## Sets of names -/

/-- A finite set of texts, listed in ascending order. -/
abbrev NameSet := Table Unit

namespace NameSet

/-- Add one member. -/
def add (set : NameSet) (name : String) : NameSet :=
  set.insert name ()

/-- Add every member of a list. -/
def addAll (set : NameSet) (names : List String) : NameSet :=
  names.foldl add set

/-- The set of the texts in a list. -/
def ofList (names : List String) : NameSet :=
  addAll Table.empty names

/-- The members of either set. -/
def union (a b : NameSet) : NameSet :=
  addAll a b.keys

/-- The members in ascending order. -/
def toList (set : NameSet) : List String :=
  set.keys

theorem contains_add (set : NameSet) (name other : String) :
    (add set name).contains other = (decide (other = name) || set.contains other) := by
  rw [Table.contains, add, Table.get?_insert]
  split <;> simp_all [Table.contains]

theorem contains_addAll (set : NameSet) (names : List String) (other : String) :
    (addAll set names).contains other = (decide (other ∈ names) || set.contains other) := by
  induction names generalizing set with
  | nil => simp [addAll]
  | cons name rest ih =>
    have step : addAll set (name :: rest) = addAll (add set name) rest := rfl
    rw [step, ih, contains_add]
    by_cases h : other = name <;> by_cases h' : other ∈ rest <;> simp [h, h']

end NameSet

end LiveCheck
