import LiveCheck.Outline
import LiveCheck.Proofs.Store.Newest

/-!
What a store keeps true through every parse and every rebuild.

`Store.Coherent` ties the contributions, the global table and the clock together:
the global table answers with the newest contribution. A parse first takes the
contribution of its file out (`Coherent.withdraw`) and then adds the new one
(`Coherent.extend`); a rebuild adds one contribution after the other
(`Coherent.accept`). `Store.Reached` collects the stores that any sequence of these
leads to, and `Reached.newest_wins` says what such a store answers.
-/

namespace LiveCheck

namespace Store

variable {δ : Type} [Definition δ] {store : Store δ} {files : Table (Contribution δ)}
  {globals definitions : Table δ} {uri name : String}

/-- Every definition in the table belongs to the file `uri`. -/
def Filed (uri : String) (definitions : Table δ) : Prop :=
  ∀ name definition, definitions.get? name = some definition →
    Definition.file definition = uri

/-- The state a store is in between operations. -/
structure Coherent (store : Store δ) : Prop where
  filed : ∀ uri contribution, store.files.get? uri = some contribution →
    Filed uri contribution.definitions
  stamp_le : ∀ uri contribution, store.files.get? uri = some contribution →
    contribution.stamp ≤ store.clock
  apart : StampsApart store.files
  newest : ∀ name, store.globals.get? name = newest? store.files name
  known : ∀ uri contribution, store.files.get? uri = some contribution →
    store.known.contains uri = true

/-- A store without contributions is coherent, whatever its clock shows. -/
theorem coherent_of_empty (known : NameSet) (clock : Nat) :
    Coherent (⟨.empty, .empty, known, clock⟩ : Store δ) where
  filed _ _ entry := by cases entry
  stamp_le _ _ entry := by cases entry
  apart _ _ _ _ entry := by cases entry
  newest _ := rfl
  known _ _ entry := by cases entry

/-- The file a global name belongs to contributed its definition. -/
theorem Coherent.entry_of_globals (coherent : Coherent store) {definition : δ}
    (held : store.globals.get? name = some definition) :
    ∃ contribution, store.files.get? (Definition.file definition) = some contribution ∧
      contribution.definitions.get? name = some definition := by
  rw [coherent.newest, newest?_eq_some_iff coherent.apart] at held
  obtain ⟨uri, contribution, entry, defined, -⟩ := held
  rw [coherent.filed uri contribution entry name definition defined]
  exact ⟨contribution, entry, defined⟩

theorem Coherent.known_of_globals (coherent : Coherent store) {definition : δ}
    (held : store.globals.get? name = some definition) :
    store.known.contains (Definition.file definition) = true := by
  obtain ⟨contribution, entry, -⟩ := coherent.entry_of_globals held
  exact coherent.known _ contribution entry

/-! ## Withdrawing the names of a file -/

theorem get?_withdraw (files : Table (Contribution δ)) (uri : String) (globals : Table δ)
    (name other : String) :
    (withdraw files uri globals name).get? other =
      if other = name ∧ owner? globals other = some uri then newest? files other
      else globals.get? other := by
  unfold withdraw
  split
  · next owned =>
    by_cases h : other = name
    · subst h
      rw [if_pos ⟨rfl, owned⟩]
      cases newest? files other with
      | none => simp [Table.get?_erase]
      | some definition => simp
    · rw [if_neg fun both => h both.1]
      cases newest? files name with
      | none => simp [Table.get?_erase, h]
      | some definition => simp [Table.get?_insert, h]
  · next foreign =>
    rw [if_neg]
    rintro ⟨rfl, owned⟩
    exact foreign owned

/-- Withdrawing several names touches those that `uri` holds. -/
theorem get?_foldl_withdraw (files : Table (Contribution δ)) (uri : String)
    (names : List String) (globals : Table δ) (other : String) :
    (names.foldl (withdraw files uri) globals).get? other =
      if other ∈ names ∧ owner? globals other = some uri then newest? files other
      else globals.get? other := by
  induction names generalizing globals with
  | nil => simp
  | cons name rest ih =>
      have step := get?_withdraw files uri globals name other
      rw [List.foldl_cons, ih]
      by_cases h : other = name ∧ owner? globals other = some uri
      · -- Reinstated by the first step: a second step can only do the same again.
        rw [if_pos h] at step
        rw [step, ite_self, if_pos ⟨List.mem_cons.2 (Or.inl h.1), h.2⟩]
      · rw [if_neg h] at step
        have owner : owner? (withdraw files uri globals name) other = owner? globals other := by
          rw [owner?, owner?, step]
        rw [owner, step]
        by_cases mem : other ∈ rest
        · simp [mem]
        · have ne : owner? globals other = some uri → other ≠ name :=
            fun owned eq => h ⟨eq, owned⟩
          rw [if_neg fun both => mem both.1, if_neg]
          rintro ⟨mem', owned⟩
          rcases List.mem_cons.1 mem' with eq | mem'
          · exact ne owned eq
          · exact mem mem'

/-- Taking a file out and withdrawing its names leaves the newest definition of
every name among the other files. -/
theorem Coherent.withdraw (coherent : Coherent store) (uri : String) :
    Coherent { store with
      files := store.files.erase uri
      globals := ((store.fileDefinitions? uri).getD .empty).keys.foldl
        (Store.withdraw (store.files.erase uri) uri) store.globals } where
  filed other contribution entry :=
    coherent.filed other contribution (get?_of_get?_erase entry).2
  stamp_le other contribution entry :=
    coherent.stamp_le other contribution (get?_of_get?_erase entry).2
  apart := coherent.apart.erase uri
  known other contribution entry :=
    coherent.known other contribution (get?_of_get?_erase entry).2
  newest name := by
    rw [get?_foldl_withdraw]
    by_cases owned : owner? store.globals name = some uri
    · -- The holder of a name has it in its own contribution.
      obtain ⟨definition, held, rfl⟩ := owner?_eq_some.1 owned
      obtain ⟨contribution, entry, defined⟩ := coherent.entry_of_globals held
      have mem :
          name ∈ ((store.fileDefinitions? (Definition.file definition)).getD .empty).keys := by
        rw [fileDefinitions?, entry, Table.mem_keys]
        exact Table.contains_eq_true.2 ⟨definition, defined⟩
      rw [if_pos ⟨mem, owned⟩]
    · rw [if_neg fun both => owned both.2, coherent.newest]
      refine (newest?_erase coherent.apart ?_).symm
      intro contribution definition entry defined newest
      apply owned
      rw [owner?, coherent.newest, newest]
      exact congrArg some (coherent.filed uri contribution entry name definition defined)

/-! ## Adding the contribution of a file -/

omit [Definition δ] in
theorem get?_takeOver (globals definitions : Table δ) (name : String) :
    (takeOver globals definitions).get? name =
      (definitions.get? name).or (globals.get? name) :=
  Table.get?_insertAll definitions.ascending globals name

/-- A file that contributes nothing yet takes over the names it defines. -/
theorem Coherent.extend (coherent : Coherent store) (fresh : store.files.get? uri = none)
    (filed : Filed uri definitions) :
    Coherent {
      files := store.files.insert uri ⟨definitions, store.clock + 1⟩
      globals := takeOver store.globals definitions
      known := store.known.add uri
      clock := store.clock + 1 } := by
  have later : ∀ other contribution, store.files.get? other = some contribution →
      contribution.stamp < store.clock + 1 := by
    intro other contribution entry
    exact Nat.lt_succ_of_le (coherent.stamp_le other contribution entry)
  refine ⟨?_, ?_, coherent.apart.insert later, ?_, ?_⟩
  · intro other contribution entry
    rw [Table.get?_insert] at entry
    split at entry
    · next eq =>
      cases entry
      exact eq ▸ filed
    · exact coherent.filed other contribution entry
  · intro other contribution entry
    rw [Table.get?_insert] at entry
    split at entry
    · cases entry
      exact Nat.le_refl _
    · exact Nat.le_of_lt (later other contribution entry)
  · intro name
    rw [get?_takeOver, newest?_insert coherent.apart fresh later, coherent.newest]
  · intro other contribution entry
    rw [NameSet.contains_add, Bool.or_eq_true, decide_eq_true_eq]
    rw [Table.get?_insert] at entry
    split at entry
    · next eq => exact Or.inl eq
    · exact Or.inr (coherent.known other contribution entry)

/-- A parse keeps a store coherent. -/
theorem Coherent.record (coherent : Coherent store) (filed : Filed uri definitions) :
    Coherent (store.record uri definitions).2 := by
  have fresh : (store.files.erase uri).get? uri = none := by
    rw [Table.get?_erase, if_pos rfl]
  exact (coherent.withdraw uri).extend fresh filed

/-- The global table after a parse: the names of the file are its own, and every
other name belongs to the newest of the other files. -/
theorem Coherent.get?_record (coherent : Coherent store) (uri : String)
    (definitions : Table δ) (name : String) :
    (store.record uri definitions).2.globals.get? name =
      (definitions.get? name).or (newest? (store.files.erase uri) name) := by
  rw [← (coherent.withdraw uri).newest name]
  exact get?_takeOver _ definitions name

/-! ## Rebuilding -/

/-- What is left of a rebuild: the files still to be merged contribute nothing yet. -/
structure Rebuilding (store : Store δ) (rest : List (String × Table δ)) : Prop where
  coherent : Coherent store
  fresh : ∀ file ∈ rest, store.files.get? file.1 = none
  distinct : (rest.map (·.1)).Nodup
  filed : ∀ file ∈ rest, Filed file.1 file.2

theorem Rebuilding.accept {clashes : List NameClash} {file : String × Table δ}
    {rest : List (String × Table δ)} (rebuilding : Rebuilding store (file :: rest)) :
    Rebuilding (Store.accept (clashes, store) file).2 rest := by
  obtain ⟨coherent, fresh, distinct, filed⟩ := rebuilding
  obtain ⟨uri, definitions⟩ := file
  rw [List.map_cons, List.nodup_cons] at distinct
  have freshRest : ∀ file ∈ rest, store.files.get? file.1 = none :=
    fun file mem => fresh file (List.mem_cons_of_mem _ mem)
  have filedRest : ∀ file ∈ rest, Filed file.1 file.2 :=
    fun file mem => filed file (List.mem_cons_of_mem _ mem)
  unfold Store.accept
  dsimp only
  split
  · refine ⟨⟨coherent.filed, coherent.stamp_le, coherent.apart, coherent.newest, ?_⟩,
      freshRest, distinct.2, filedRest⟩
    intro other contribution entry
    rw [NameSet.contains_add, coherent.known other contribution entry, Bool.or_true]
  · refine ⟨coherent.extend (fresh _ List.mem_cons_self) (filed _ List.mem_cons_self),
      fun file mem => ?_, distinct.2, filedRest⟩
    have ne : file.1 ≠ uri := by
      intro eq
      exact distinct.1 (List.mem_map.2 ⟨file, mem, eq⟩)
    rw [Table.get?_insert, if_neg ne]
    exact freshRest file mem

theorem Rebuilding.foldl_accept {rest : List (String × Table δ)} {clashes : List NameClash}
    (rebuilding : Rebuilding store rest) :
    Coherent (rest.foldl Store.accept (clashes, store)).2 := by
  induction rest generalizing store clashes with
  | nil => exact rebuilding.coherent
  | cons file rest ih => exact ih rebuilding.accept

/-- A rebuild from files with distinct addresses leaves a coherent store. -/
theorem coherent_rebuild (store : Store δ) {sets : List (String × Table δ)}
    (distinct : (sets.map (·.1)).Nodup) (filed : ∀ file ∈ sets, Filed file.1 file.2) :
    Coherent (store.rebuild sets).2 := by
  have perm := List.mergeSort_perm sets (fun a b => a.1 ≤ b.1)
  refine Rebuilding.foldl_accept
    ⟨coherent_of_empty store.known store.clock, fun _ _ => rfl, ?_, ?_⟩
  · exact (perm.map (·.1)).nodup_iff.2 distinct
  · intro file mem
    exact filed file (perm.mem_iff.1 mem)

theorem contains_known_foldl_accept {rest : List (String × Table δ)} {clashes : List NameClash} :
    (rest.foldl Store.accept (clashes, store)).2.known.contains uri = true ↔
      uri ∈ rest.map (·.1) ∨ store.known.contains uri = true := by
  induction rest generalizing store clashes with
  | nil => simp
  | cons file rest ih =>
      have step : (Store.accept (clashes, store) file).2.known = store.known.add file.1 := by
        unfold Store.accept
        dsimp only
        split <;> rfl
      rw [List.foldl_cons, ih, step, NameSet.contains_add, Bool.or_eq_true, decide_eq_true_eq,
        List.map_cons, List.mem_cons, or_assoc]
      exact or_left_comm

/-- A rebuild makes every file it is given known, also one that it leaves out. -/
theorem contains_known_rebuild {sets : List (String × Table δ)} :
    (store.rebuild sets).2.known.contains uri = true ↔
      uri ∈ sets.map (·.1) ∨ store.known.contains uri = true := by
  rw [rebuild, contains_known_foldl_accept, ((List.mergeSort_perm sets _).map _).mem_iff]

theorem get?_files_accept {clashes : List NameClash} {file : String × Table δ}
    {contribution : Contribution δ}
    (entry : (Store.accept (clashes, store) file).2.files.get? uri = some contribution) :
    (uri, contribution.definitions) = file ∨ store.files.get? uri = some contribution := by
  unfold Store.accept at entry
  dsimp only at entry
  split at entry
  · exact Or.inr entry
  · rw [Table.get?_insert] at entry
    split at entry
    · next eq =>
      cases entry
      exact Or.inl (Prod.ext eq rfl)
    · exact Or.inr entry

theorem get?_files_foldl_accept {rest : List (String × Table δ)} {clashes : List NameClash}
    {contribution : Contribution δ}
    (entry : (rest.foldl Store.accept (clashes, store)).2.files.get? uri = some contribution) :
    (uri, contribution.definitions) ∈ rest ∨ store.files.get? uri = some contribution := by
  induction rest generalizing store clashes with
  | nil => exact Or.inr entry
  | cons file rest ih =>
      rcases ih entry with mem | entry
      · exact Or.inl (List.mem_cons_of_mem _ mem)
      · rcases get?_files_accept entry with eq | entry
        · exact Or.inl (eq ▸ List.mem_cons_self)
        · exact Or.inr entry

/-- What a file contributes after a rebuild was given for it. -/
theorem mem_of_get?_files_rebuild {sets : List (String × Table δ)}
    {contribution : Contribution δ}
    (entry : (store.rebuild sets).2.files.get? uri = some contribution) :
    (uri, contribution.definitions) ∈ sets := by
  rcases get?_files_foldl_accept entry with mem | none
  · exact (List.mergeSort_perm sets _).mem_iff.1 mem
  · cases none

/-! ## Every history -/

/-- The stores that parses and rebuilds lead to, each definition being recorded
under the file it belongs to. -/
inductive Reached : Store δ → Prop
  | empty : Reached .empty
  | record {store : Store δ} {uri : String} {definitions : Table δ} :
    Reached store → Filed uri definitions → Reached (store.record uri definitions).2
  | rebuild {store : Store δ} {sets : List (String × Table δ)} :
    Reached store → (sets.map (·.1)).Nodup → (∀ file ∈ sets, Filed file.1 file.2) →
    Reached (store.rebuild sets).2

theorem Reached.coherent (reached : Reached store) : Coherent store := by
  induction reached with
  | empty => exact coherent_of_empty .empty 0
  | record _ filed ih => exact ih.record filed
  | rebuild _ distinct filed _ => exact coherent_rebuild _ distinct filed

/-- The newest parse of a name wins. -/
structure NewestWins (store : Store δ) : Prop where
  /-- A global name has the definition that was parsed last. -/
  held_iff : ∀ name definition, store.globals.get? name = some definition ↔
    IsNewest store.files name definition
  /-- Only a name that no file defines is not global. -/
  absent_iff : ∀ name, store.globals.get? name = none ↔ IsAbsent store.files name
  stamp_ne : ∀ uri uri' contribution other, store.files.get? uri = some contribution →
    store.files.get? uri' = some other → uri ≠ uri' → contribution.stamp ≠ other.stamp
  stamp_le_clock : ∀ uri contribution, store.files.get? uri = some contribution →
    contribution.stamp ≤ store.clock
  /-- Going through the files in another order finds the same definition. -/
  any_order : ∀ (name : String) (order : List (Contribution δ)), order.Perm store.files.values →
    (order.foldl (newer name) none).map (·.2) = store.globals.get? name

/-- After every history of parses and rebuilds the newest parse of a name wins, and
a definition that lost its name is reinstated when the winner drops it. -/
theorem Reached.newest_wins (reached : Reached store) : NewestWins store := by
  have coherent := reached.coherent
  refine ⟨?_, ?_, ?_, coherent.stamp_le, ?_⟩
  · intro name definition
    rw [coherent.newest, newest?_eq_some_iff coherent.apart]
  · intro name
    rw [coherent.newest, newest?_eq_none_iff]
  · intro uri uri' contribution other entry entry' ne same
    exact ne (coherent.apart uri uri' contribution other entry entry' same)
  · intro name order perm
    apply Option.ext
    intro definition
    rw [foldl_newer_eq_some_iff coherent.apart perm, coherent.newest,
      newest?_eq_some_iff coherent.apart]

/-- One file takes a name over from another and drops it again. -/
theorem newest_wins_after_release :
    let item (file : String) : OutlineItem := ⟨"x", file, "", .empty 0, .empty 0, [], false⟩
    let taken := ((Store.empty.record "a" (tableOf [item "a"])).2.record "b"
      (tableOf [item "b"])).2
    let released := (taken.record "b" .empty).2
    taken.globals.get? "x" = some (item "b") ∧ released.globals.get? "x" = some (item "a") ∧
      Reached released ∧ NewestWins released := by
  intro item taken released
  have filed : ∀ file, Filed file (tableOf [item file]) := by
    intro file name definition found
    rw [List.mem_singleton.1 (mem_of_get?_tableOf found).1]
    rfl
  have reached : Reached released :=
    ((Reached.empty.record (filed "a")).record (filed "b")).record fun _ _ found => by cases found
  exact ⟨by decide, by decide, reached, reached.newest_wins⟩

end Store

end LiveCheck
