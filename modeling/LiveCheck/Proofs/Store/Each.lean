import LiveCheck.Proofs.Store.Record

/-!
What holds of every definition of a store.

A parse and a rebuild bring no definitions but those of the files, so what holds of these, and
of the names they stand under, holds of every definition that a file contributes and of every
global one (`Each.record`, `each_rebuild`).
-/

namespace LiveCheck

variable {δ : Type} {keeps : String → δ → Prop}

/-- Every definition of a table is one that the table keeps under its name. -/
def Table.Each (keeps : String → δ → Prop) (table : Table δ) : Prop :=
  ∀ name definition, table.get? name = some definition → keeps name definition

theorem Table.each_empty : (Table.empty : Table δ).Each keeps := by
  intro name definition found
  cases found

variable [Definition δ]

theorem each_tableOf {definitions : List δ}
    (each : ∀ definition ∈ definitions, keeps (Definition.name definition) definition) :
    (tableOf definitions).Each keeps := by
  intro name definition found
  obtain ⟨mem, rfl⟩ := mem_of_get?_tableOf found
  exact each definition mem

namespace Store

variable {store : Store δ} {definitions : Table δ} {uri : String}

/-- Every definition that a file contributes, and every global one. -/
structure Each (keeps : String → δ → Prop) (store : Store δ) : Prop where
  files : ∀ uri contribution, store.files.get? uri = some contribution →
    contribution.definitions.Each keeps
  globals : store.globals.Each keeps

omit [Definition δ] in
theorem each_empty : (Store.empty : Store δ).Each keeps where
  files _ _ entry := by cases entry
  globals := Table.each_empty

omit [Definition δ] in
theorem each_takeOver {globals : Table δ} (held : globals.Each keeps)
    (each : definitions.Each keeps) : (takeOver globals definitions).Each keeps := by
  intro name definition found
  rw [get?_takeOver, Option.or_eq_some_iff] at found
  rcases found with found | ⟨-, found⟩
  · exact each name definition found
  · exact held name definition found

theorem each_files_record
    (files : ∀ uri contribution, store.files.get? uri = some contribution →
      contribution.definitions.Each keeps)
    (each : definitions.Each keeps) {other : String} {contribution : Contribution δ}
    (entry : (store.record uri definitions).2.files.get? other = some contribution) :
    contribution.definitions.Each keeps := by
  rw [get?_record_files] at entry
  split at entry
  · cases entry
    exact each
  · exact files other contribution entry

/-- A parse leaves a name to the definition that it has in a file. -/
theorem Each.record (held : store.Each keeps) (uri : String) (each : definitions.Each keeps) :
    (store.record uri definitions).2.Each keeps where
  files _ _ := each_files_record held.files each
  globals := by
    intro name definition found
    rw [get?_record_globals, Option.or_eq_some_iff] at found
    rcases found with found | ⟨-, found⟩
    · exact each name definition found
    · split at found
      · obtain ⟨other, contribution, entry, defined⟩ := exists_of_newest? found
        exact held.files other contribution (get?_of_get?_erase entry).2 name definition defined
      · exact held.globals name definition found

theorem each_globals_foldl_accept {rest : List (String × Table δ)} {clashes : List NameClash}
    (held : store.globals.Each keeps) (each : ∀ file ∈ rest, file.2.Each keeps) :
    (rest.foldl Store.accept (clashes, store)).2.globals.Each keeps := by
  induction rest generalizing store clashes with
  | nil => exact held
  | cons file rest ih =>
      have accepted : (Store.accept (clashes, store) file).2.globals.Each keeps := by
        unfold Store.accept
        dsimp only
        split
        · exact held
        · exact each_takeOver held (each file List.mem_cons_self)
      exact ih accepted fun file mem => each file (List.mem_cons_of_mem _ mem)

theorem each_rebuild (store : Store δ) {sets : List (String × Table δ)}
    (each : ∀ file ∈ sets, file.2.Each keeps) : (store.rebuild sets).2.Each keeps where
  files uri contribution entry := each (uri, contribution.definitions)
    (mem_of_get?_files_rebuild entry)
  globals := by
    apply each_globals_foldl_accept
    · exact Table.each_empty
    · intro file mem
      exact each file ((List.mergeSort_perm sets _).mem_iff.1 mem)

end Store

end LiveCheck
