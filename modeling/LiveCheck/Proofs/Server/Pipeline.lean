import LiveCheck.Proofs.Table
import LiveCheck.Server.Pipeline

/-!
The newest change of each document on its way.

A pipeline holds back, reorders and drops changes, but never the newest one of a document
before it is analyzed. Where that change is depends on how far it has come: whatever is
still in the inbox is newer than what is held back, which is newer than what is in the
queue. Each step of the pipeline moves the newest change of a document on and leaves it
the newest (`newest?_receive`, `newest?_fire`, `newest?_takeBatch`).
-/

namespace LiveCheck

/-- The last of some changes that is one of a document. -/
def newestOf (uri : String) (changes : List Change) : Option Change :=
  changes.reverse.find? (·.uri == uri)

section Newest

variable {uri : String} {change : Change} {changes : List Change}

theorem newestOf_nil : newestOf uri [] = none := rfl

theorem newestOf_append (earlier later : List Change) :
    newestOf uri (earlier ++ later) = (newestOf uri later).or (newestOf uri earlier) := by
  rw [newestOf, List.reverse_append, List.find?_append]
  rfl

theorem newestOf_singleton :
    newestOf uri [change] = if change.uri = uri then some change else none := by
  by_cases same : change.uri = uri <;> simp [newestOf, same]

theorem newestOf_cons : newestOf uri (change :: changes) =
    (newestOf uri changes).or (if change.uri = uri then some change else none) := by
  rw [← List.singleton_append, newestOf_append, newestOf_singleton]

theorem newestOf_eq_none : newestOf uri changes = none ↔ uri ∉ changes.map (·.uri) := by
  simp [newestOf]

theorem mem_of_newestOf (found : newestOf uri changes = some change) :
    change ∈ changes ∧ change.uri = uri :=
  ⟨List.mem_reverse.1 (List.mem_of_find?_eq_some found), by simpa using List.find?_some found⟩

/-- Among changes of distinct documents, the newest of a document is its only one. -/
theorem newestOf_eq_some_iff (distinct : (changes.map (·.uri)).Nodup) :
    newestOf uri changes = some change ↔ change ∈ changes ∧ change.uri = uri := by
  induction changes with
  | nil => simp [newestOf]
  | cons first rest ih =>
      obtain ⟨fresh, distinct⟩ := List.nodup_cons.1 distinct
      rw [newestOf_cons, List.mem_cons]
      by_cases same : first.uri = uri
      · rw [newestOf_eq_none.2 (same ▸ fresh), if_pos same, Option.none_or, Option.some_inj]
        constructor
        · rintro rfl
          exact ⟨Or.inl rfl, same⟩
        · rintro ⟨rfl | mem, other⟩
          · rfl
          · exact absurd (List.mem_map.2 ⟨change, mem, other.trans same.symm⟩) fresh
      · rw [if_neg same, Option.or_none, ih distinct]
        constructor
        · exact fun ⟨mem, other⟩ => ⟨Or.inr mem, other⟩
        · rintro ⟨rfl | mem, other⟩
          · exact absurd other same
          · exact ⟨mem, other⟩

end Newest

/-! ## Batches -/

namespace Workspace

theorem mem_uris_replaceOrAdd {change : Change} {batch : List Change} {uri : String} :
    uri ∈ (replaceOrAdd change batch).map (·.uri) ↔
      uri = change.uri ∨ uri ∈ batch.map (·.uri) := by
  induction batch with
  | nil => simp [replaceOrAdd]
  | cons first rest ih =>
      unfold replaceOrAdd
      split
      · next same => simp [same]
      · simp only [List.map_cons, List.mem_cons, ih]
        exact or_left_comm

theorem nodup_uris_replaceOrAdd {change : Change} {batch : List Change}
    (distinct : (batch.map (·.uri)).Nodup) : ((replaceOrAdd change batch).map (·.uri)).Nodup := by
  induction batch with
  | nil => simp [replaceOrAdd]
  | cons first rest ih =>
      obtain ⟨fresh, distinct'⟩ := List.nodup_cons.1 distinct
      unfold replaceOrAdd
      split
      · next same =>
        rw [List.map_cons, ← same]
        exact distinct
      · next other =>
        refine List.nodup_cons.2 ⟨?_, ih distinct'⟩
        rw [mem_uris_replaceOrAdd]
        exact not_or_intro other fresh

theorem newestOf_replaceOrAdd {change : Change} {batch : List Change}
    (distinct : (batch.map (·.uri)).Nodup) (uri : String) :
    newestOf uri (replaceOrAdd change batch) =
      if change.uri = uri then some change else newestOf uri batch := by
  induction batch with
  | nil => exact newestOf_singleton
  | cons first rest ih =>
      obtain ⟨fresh, distinct⟩ := List.nodup_cons.1 distinct
      unfold replaceOrAdd
      split
      · next same =>
        rw [newestOf_cons, newestOf_cons, same]
        split
        · next this => rw [newestOf_eq_none.2 (this ▸ same ▸ fresh), Option.none_or]
        · rfl
      · next other =>
        rw [newestOf_cons, newestOf_cons, ih distinct]
        split <;> rfl

/-- A batch has the newest change of each document in the queue. -/
theorem newestOf_latestChanges (queue : List Change) (uri : String) :
    newestOf uri (latestChanges queue) = newestOf uri queue := by
  have folded : ∀ batch : List Change, (batch.map (·.uri)).Nodup →
      newestOf uri (queue.foldl (fun batch change => replaceOrAdd change batch) batch) =
        (newestOf uri queue).or (newestOf uri batch) := by
    induction queue with
    | nil => exact fun _ _ => rfl
    | cons first rest ih =>
        intro batch distinct
        rw [List.foldl_cons, ih _ (nodup_uris_replaceOrAdd distinct),
          newestOf_replaceOrAdd distinct, newestOf_cons, Option.or_assoc]
        split <;> rfl
  rw [latestChanges, folded [] List.nodup_nil, newestOf_nil, Option.or_none]

end Workspace

/-! ## Changes held back -/

namespace Debouncer

/-- Every change is held back under its own document. -/
def Keyed (pending : Table Pending) : Prop :=
  ∀ uri held, pending.get? uri = some held → held.change.uri = uri

theorem keyed_filter {pending : Table Pending} (keyed : Keyed pending)
    (keep : String → Pending → Bool) : Keyed (pending.filter keep) := by
  intro uri held found
  rw [Table.get?_filter] at found
  exact keyed uri held (Option.eq_some_of_filter_eq_some found)

theorem keyed_push {debouncer : Debouncer} (keyed : Keyed debouncer.pending) (now : Nat)
    (change : Change) : Keyed (debouncer.push now change).pending := by
  intro uri held found
  simp only [push, Table.get?_insert] at found
  split at found
  · next same =>
    cases found
    exact same.symm
  · split at found
    · exact keyed uri held found
    · cases found

theorem uris_values {pending : Table Pending} (keyed : Keyed pending) :
    pending.values.map (·.change.uri) = pending.keys := by
  rw [Table.values, Table.keys, List.map_map]
  apply List.map_congr_left
  intro entry mem
  exact keyed entry.1 entry.2 (Table.get?_eq_some_iff.2 mem)

theorem inOrder_perm (pending : Table Pending) :
    (inOrder pending).Perm (pending.values.map (·.change)) :=
  (List.mergeSort_perm _ _).map _

theorem nodup_uris_inOrder {pending : Table Pending} (keyed : Keyed pending) :
    ((inOrder pending).map (·.uri)).Nodup := by
  rw [((inOrder_perm pending).map _).nodup_iff, List.map_map]
  exact uris_values keyed ▸ Table.nodup_keys pending

/-- The newest change of a document that is delivered is the one held back for it. -/
theorem newestOf_inOrder {pending : Table Pending} (keyed : Keyed pending) (uri : String) :
    newestOf uri (inOrder pending) = (pending.get? uri).map (·.change) := by
  ext change
  rw [newestOf_eq_some_iff (nodup_uris_inOrder keyed), (inOrder_perm pending).mem_iff,
    List.mem_map, Option.map_eq_some_iff]
  constructor
  · rintro ⟨⟨held, mem, rfl⟩, own⟩
    obtain ⟨key, found⟩ := Table.mem_values.1 mem
    exact ⟨held, own ▸ keyed key held found ▸ found, rfl⟩
  · rintro ⟨held, found, rfl⟩
    exact ⟨⟨held, Table.mem_values.2 ⟨uri, found⟩, rfl⟩, keyed uri held found⟩

end Debouncer

/-! ## The way through -/

namespace Pipeline

/-- The changes in the inbox. -/
def sent (inbox : List DebounceInput) : List Change :=
  inbox.filterMap fun
    | .change change => some change
    | .configure _ => none

/-- The newest change of a document that is on its way. -/
def newest? (pipeline : Pipeline) (uri : String) : Option Change :=
  (newestOf uri (sent pipeline.inbox)).or
    (((pipeline.debouncer.pending.get? uri).map (·.change)).or (newestOf uri pipeline.queue))

variable {pipeline : Pipeline} {uri : String}

theorem newest?_send (change : Change) :
    (pipeline.send (.change change)).newest? uri =
      if change.uri = uri then some change else pipeline.newest? uri := by
  have added : sent (pipeline.inbox ++ [.change change]) = sent pipeline.inbox ++ [change] := by
    rw [sent, List.filterMap_append]
    rfl
  rw [newest?, send, added, newestOf_append, newestOf_singleton]
  split <;> rfl

theorem keyed_receive (keyed : Debouncer.Keyed pipeline.debouncer.pending) (now : Nat) :
    Debouncer.Keyed (pipeline.receive now).debouncer.pending := by
  unfold receive
  split
  · exact keyed
  · next input rest _ =>
    cases input with
    | configure settings => exact keyed
    | change change => exact Debouncer.keyed_push keyed now change

theorem newest?_receive (perFile : pipeline.debouncer.settings.scope = .perFile) (now : Nat) :
    (pipeline.receive now).newest? uri = pipeline.newest? uri := by
  unfold receive
  cases received : pipeline.inbox with
  | nil => rw [newest?, received]
  | cons input rest =>
      rw [newest?, newest?, received]
      cases input with
      | configure settings => rfl
      | change change =>
          -- The rest of the inbox is newer than `change`, which replaces what is held back.
          show _ = (newestOf uri (change :: sent rest)).or _
          rw [newestOf_cons, Option.or_assoc]
          simp only [handle, Debouncer.push, perFile, Table.get?_insert]
          by_cases same : change.uri = uri
          · rw [if_pos same, if_pos same.symm]
            rfl
          · rw [if_neg same, if_neg (Ne.symm same)]
            rfl

theorem newest?_fire (keyed : Debouncer.Keyed pipeline.debouncer.pending) (now : Nat) :
    (pipeline.fire now).newest? uri = pipeline.newest? uri := by
  unfold fire newest? Debouncer.fire
  simp only [newestOf_append, Debouncer.newestOf_inOrder (Debouncer.keyed_filter keyed _),
    Table.get?_filter]
  congr 1
  -- The change held back is either delivered or stays; in both cases it is still the newest.
  cases pipeline.debouncer.pending.get? uri with
  | none => rfl
  | some held =>
      by_cases due : held.deadline ≤ now
      · simp [due, Option.filter, Nat.not_lt.2 due]
      · simp [due, Option.filter, Nat.lt_of_not_le due]

/-- What the analysis takes is what it would have found in the queue. -/
theorem newest?_takeBatch :
    pipeline.newest? uri =
      (pipeline.takeBatch.2.newest? uri).or (newestOf uri pipeline.takeBatch.1) := by
  rw [takeBatch, newest?, newest?, Workspace.newestOf_latestChanges, newestOf_nil, Option.or_none,
    Option.or_assoc]

end Pipeline

end LiveCheck
