import LiveCheck.Proofs.Store.Record

/-!
Stores in which no two files define one name.

Then it does not matter when a file was parsed: the global table has exactly the
definitions of the files (`Coherent.get?_globals_of_disjoint`), so two stores with the same
contributions have the same global table, whatever their histories were
(`Coherent.globals_eq_of_disjoint`), and no definition is hidden (`Coherent.hidden_eq_nil`).
A rebuild without clashes takes every file in (`fileDefinitions?_rebuild`).
-/

namespace LiveCheck

namespace Store

variable {δ : Type} [Definition δ] {store store' : Store δ} {definitions : Table δ}
  {uri name : String}

/-- No two files define one name. -/
def Disjoint (store : Store δ) : Prop :=
  ∀ uri uri' definitions definitions' name, store.fileDefinitions? uri = some definitions →
    store.fileDefinitions? uri' = some definitions' → definitions.contains name = true →
    definitions'.contains name = true → uri = uri'

omit [Definition δ] in
theorem fileDefinitions?_eq_some :
    store.fileDefinitions? uri = some definitions ↔
      ∃ contribution, store.files.get? uri = some contribution ∧
        contribution.definitions = definitions :=
  Option.map_eq_some_iff

/-! ## The global table -/

/-- The global table has the definitions of all files. -/
theorem Coherent.get?_globals_of_disjoint (coherent : store.Coherent) (disjoint : store.Disjoint)
    {definition : δ} :
    store.globals.get? name = some definition ↔
      ∃ uri definitions, store.fileDefinitions? uri = some definitions ∧
        definitions.get? name = some definition := by
  constructor
  · intro held
    obtain ⟨contribution, entry, defined⟩ := coherent.entry_of_globals held
    exact ⟨_, contribution.definitions, fileDefinitions?_eq_some.2 ⟨contribution, entry, rfl⟩,
      defined⟩
  · intro parts
    obtain ⟨uri, definitions, contributed, defined⟩ := parts
    obtain ⟨contribution, entry, rfl⟩ := fileDefinitions?_eq_some.1 contributed
    cases held : store.globals.get? name with
    | none =>
        rw [coherent.newest, newest?_eq_none_iff] at held
        rw [held uri contribution entry] at defined
        cases defined
    | some other =>
        -- Whoever holds the name defines it, so it is the same file.
        obtain ⟨theirs, entry', defined'⟩ := coherent.entry_of_globals held
        have same : uri = Definition.file other :=
          disjoint uri _ contribution.definitions theirs.definitions name contributed
            (fileDefinitions?_eq_some.2 ⟨theirs, entry', rfl⟩)
            (Table.contains_eq_true.2 ⟨definition, defined⟩)
            (Table.contains_eq_true.2 ⟨other, defined'⟩)
        rw [same, entry'] at entry
        cases entry
        rw [← defined, ← defined']

/-- Two stores with the same contributions have the same global table. -/
theorem Coherent.globals_eq_of_disjoint (coherent : store.Coherent) (coherent' : store'.Coherent)
    (same : ∀ uri, store.fileDefinitions? uri = store'.fileDefinitions? uri)
    (disjoint : store.Disjoint) : store.globals = store'.globals := by
  have disjoint' : store'.Disjoint := by
    intro uri uri' definitions definitions' name contributed contributed'
    rw [← same] at contributed contributed'
    exact disjoint uri uri' definitions definitions' name contributed contributed'
  apply Table.ext_get?
  intro name
  apply Option.ext
  intro definition
  rw [coherent.get?_globals_of_disjoint disjoint, coherent'.get?_globals_of_disjoint disjoint']
  simp only [same]

/-- No definition is hidden by another file. -/
theorem Coherent.hidden_eq_nil (coherent : store.Coherent) (disjoint : store.Disjoint)
    (keyed : ∀ uri contribution, store.files.get? uri = some contribution →
      ∀ name definition, contribution.definitions.get? name = some definition →
        Definition.name definition = name) : store.hidden = [] := by
  rw [hidden, List.flatMap_eq_nil_iff]
  intro contribution mem
  rw [List.filterMap_eq_nil_iff]
  intro definition mem'
  obtain ⟨uri, entry⟩ := Table.mem_values.1 mem
  obtain ⟨name, defined⟩ := Table.mem_values.1 mem'
  have held : store.globals.get? name = some definition :=
    (coherent.get?_globals_of_disjoint disjoint).2 ⟨uri, contribution.definitions,
      fileDefinitions?_eq_some.2 ⟨contribution, entry, rfl⟩, defined⟩
  have owner : owner? store.globals (Definition.name definition) =
      some (Definition.file definition) := by
    rw [keyed uri contribution entry name definition defined]
    exact owner?_eq_some.2 ⟨definition, held, rfl⟩
  rw [owner]
  exact if_pos rfl

/-! ## Contributions after a parse and after a rebuild -/

theorem fileDefinitions?_record (other : String) :
    (store.record uri definitions).2.fileDefinitions? other =
      if other = uri then some definitions else store.fileDefinitions? other := by
  rw [fileDefinitions?, get?_record_files, fileDefinitions?]
  split <;> rfl

theorem fileDefinitions?_accept {clashes : List NameClash} {file : String × Table δ}
    (accepted : (Store.accept (clashes, store) file).1 = clashes) (other : String) :
    (Store.accept (clashes, store) file).2.fileDefinitions? other =
      if other = file.1 then some file.2 else store.fileDefinitions? other := by
  unfold Store.accept at accepted ⊢
  dsimp only at accepted ⊢
  split
  · next clash =>
    rw [clash] at accepted
    simp at accepted
  · rw [fileDefinitions?, Table.get?_insert, fileDefinitions?]
    split <;> rfl

/-- Clashes are only ever added. -/
theorem clashes_foldl_accept (rest : List (String × Table δ)) (clashes : List NameClash)
    (store : Store δ) : ∃ more, (rest.foldl Store.accept (clashes, store)).1 = clashes ++ more := by
  induction rest generalizing clashes store with
  | nil => exact ⟨[], (List.append_nil clashes).symm⟩
  | cons file rest ih =>
      have added : ∃ more, (Store.accept (clashes, store) file).1 = clashes ++ more := by
        unfold Store.accept
        dsimp only
        split
        · exact ⟨_, rfl⟩
        · exact ⟨[], (List.append_nil clashes).symm⟩
      obtain ⟨more, eq⟩ := added
      obtain ⟨later, eq'⟩ := ih (Store.accept (clashes, store) file).1
        (Store.accept (clashes, store) file).2
      refine ⟨more ++ later, ?_⟩
      rw [← List.append_assoc, ← eq]
      exact eq'

/-- Files merged without a clash contribute what they define, and the others what they
did before. -/
theorem fileDefinitions?_foldl_accept {rest : List (String × Table δ)}
    (distinct : (rest.map (·.1)).Nodup)
    (unclashed : (rest.foldl Store.accept ([], store)).1 = []) :
    (rest.foldl Store.accept ([], store)).2.fileDefinitions? uri = some definitions ↔
      (uri, definitions) ∈ rest ∨
        uri ∉ rest.map (·.1) ∧ store.fileDefinitions? uri = some definitions := by
  induction rest generalizing store with
  | nil => simp
  | cons file rest ih =>
      obtain ⟨fresh, distinct⟩ := List.nodup_cons.1 distinct
      rw [List.foldl_cons] at unclashed ⊢
      have accepted : (Store.accept ([], store) file).1 = [] := by
        obtain ⟨more, eq⟩ := clashes_foldl_accept rest (Store.accept ([], store) file).1
          (Store.accept ([], store) file).2
        exact (List.append_eq_nil_iff.1 (eq.symm.trans unclashed)).1
      have step : Store.accept ([], store) file = ([], (Store.accept ([], store) file).2) :=
        Prod.ext accepted rfl
      rw [step] at unclashed ⊢
      rw [ih distinct unclashed, fileDefinitions?_accept accepted, List.mem_cons, List.map_cons,
        List.mem_cons, not_or]
      by_cases same : uri = file.1
      · have absent : (file.1, definitions) ∉ rest := fun mem =>
          fresh (List.mem_map.2 ⟨_, mem, rfl⟩)
        have itself : (uri, definitions) = file ↔ file.2 = definitions := by
          constructor
          · intro eq
            rw [← eq]
          · intro eq
            exact Prod.ext same eq.symm
        rw [if_pos same, Option.some_inj, itself]
        simp [absent, same, fresh]
      · have other : (uri, definitions) ≠ file := fun eq => same (congrArg Prod.fst eq)
        simp [same, other]

/-- After a rebuild without clashes every file contributes what was given for it. -/
theorem fileDefinitions?_rebuild {sets : List (String × Table δ)}
    (distinct : (sets.map (·.1)).Nodup) (unclashed : (store.rebuild sets).1 = []) :
    (store.rebuild sets).2.fileDefinitions? uri = some definitions ↔
      (uri, definitions) ∈ sets := by
  have perm := List.mergeSort_perm sets (fun a b => a.1 ≤ b.1)
  refine (fileDefinitions?_foldl_accept ((perm.map _).nodup_iff.2 distinct) unclashed).trans ?_
  rw [perm.mem_iff]
  constructor
  · intro found
    rcases found with mem | ⟨-, none⟩
    · exact mem
    · cases none
  · exact Or.inl

end Store

end LiveCheck
