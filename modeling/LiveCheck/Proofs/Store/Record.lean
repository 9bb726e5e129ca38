import LiveCheck.Proofs.Store.Coherent

/-!
What one parse changes in the global table.

A name is touched if the file defines it now or defined it before. Every other
name keeps its definition (`get?_record_of_untouched`), and so does a name
that belongs to another file and is not taken over
(`Coherent.get?_record_of_foreign`).
-/

namespace LiveCheck

namespace Store

variable {δ : Type} [Definition δ] {store : Store δ} {definitions : Table δ}
  {uri name : String}

/-- The file `uri` defined `name` at its last parse. -/
def Defined (store : Store δ) (uri name : String) : Prop :=
  ∃ contribution, store.files.get? uri = some contribution ∧
    contribution.definitions.contains name = true

omit [Definition δ] in
theorem mem_keys_fileDefinitions? :
    name ∈ ((store.fileDefinitions? uri).getD .empty).keys ↔ store.Defined uri name := by
  rw [Table.mem_keys, fileDefinitions?]
  cases entry : store.files.get? uri with
  | none =>
      constructor
      · intro has
        cases has
      · intro parts
        obtain ⟨contribution, entry', -⟩ := parts
        rw [entry] at entry'
        cases entry'
  | some contribution =>
      constructor
      · intro has
        exact ⟨contribution, entry, has⟩
      · intro parts
        obtain ⟨other, entry', has⟩ := parts
        rw [entry] at entry'
        cases entry'
        exact has

theorem contains_record_removed :
    (store.record uri definitions).1.removed.contains name = true ↔
      store.Defined uri name ∧ definitions.get? name = none := by
  show (NameSet.ofList _).contains name = true ↔ _
  rw [NameSet.contains_ofList, List.mem_filter, mem_keys_fileDefinitions?,
    Bool.not_eq_true', Table.contains_eq_false]

/-- The touched names: those the file defines now or defined before. -/
theorem contains_record_names :
    (store.record uri definitions).1.names.contains name = true ↔
      definitions.contains name = true ∨ store.Defined uri name := by
  rw [Affected.names, NameSet.contains_union, contains_record_removed]
  show (NameSet.ofList _).contains name = true ∨ _ ↔ _
  rw [NameSet.contains_ofList, Table.mem_keys]
  by_cases has : definitions.contains name = true
  · simp [has]
  · simp [has, Table.not_contains.1 has]

theorem contains_record_known {other : String} :
    (store.record uri definitions).2.known.contains other = true ↔
      other = uri ∨ store.known.contains other = true := by
  show (store.known.add uri).contains other = true ↔ _
  rw [NameSet.contains_add, Bool.or_eq_true, decide_eq_true_eq]

theorem get?_record_files (other : String) :
    (store.record uri definitions).2.files.get? other =
      if other = uri then some ⟨definitions, store.clock + 1⟩ else store.files.get? other := by
  show ((store.files.erase uri).insert uri _).get? other = _
  rw [Table.get?_insert, Table.get?_erase]
  by_cases h : other = uri <;> simp [h]

/-! ## The global table -/

/-- The global table after a parse, whatever the store was like. -/
theorem get?_record_globals :
    (store.record uri definitions).2.globals.get? name = (definitions.get? name).or
      (if name ∈ ((store.fileDefinitions? uri).getD .empty).keys ∧
          owner? store.globals name = some uri
        then newest? (store.files.erase uri) name else store.globals.get? name) := by
  rw [← get?_foldl_withdraw]
  exact get?_takeOver _ definitions name

theorem Coherent.get?_record_of_defined (coherent : Coherent store) {definition : δ}
    (defined : definitions.get? name = some definition) :
    (store.record uri definitions).2.globals.get? name = some definition := by
  rw [coherent.get?_record, defined, Option.some_or]

/-- A name that another file holds and that is not taken over stays. -/
theorem Coherent.get?_record_of_foreign (coherent : Coherent store)
    (undefined : definitions.get? name = none)
    (foreign : owner? store.globals name ≠ some uri) :
    (store.record uri definitions).2.globals.get? name = store.globals.get? name := by
  rw [coherent.get?_record, undefined, Option.none_or, coherent.newest]
  apply newest?_erase coherent.apart
  intro contribution definition entry defined newest
  apply foreign
  rw [owner?, coherent.newest, newest]
  exact congrArg some (coherent.filed uri contribution entry name definition defined)

/-- A name that is not touched keeps its definition, whatever the store was like. -/
theorem get?_record_of_untouched
    (untouched : ¬ (store.record uri definitions).1.names.contains name = true) :
    (store.record uri definitions).2.globals.get? name = store.globals.get? name := by
  rw [contains_record_names, not_or] at untouched
  obtain ⟨undefined, unheld⟩ := untouched
  rw [get?_record_globals, Table.not_contains.1 undefined, Option.none_or, if_neg]
  exact fun both => unheld (mem_keys_fileDefinitions?.1 both.1)

/-! ## Definitions that mention a name -/

theorem mem_mentioning {names : NameSet} :
    name ∈ store.mentioning names uri ↔ ∃ definition,
      store.globals.get? name = some definition ∧ Definition.file definition ≠ uri ∧
        ∃ mentioned ∈ Definition.references definition, names.contains mentioned = true := by
  simp only [mentioning, List.mem_map, List.mem_filter, Bool.and_eq_true, bne_iff_ne,
    List.any_eq_true, Table.get?_eq_some_iff]
  constructor
  · intro parts
    obtain ⟨⟨_, definition⟩, ⟨mem, foreign, mentions⟩, rfl⟩ := parts
    exact ⟨definition, mem, foreign, mentions⟩
  · intro parts
    obtain ⟨definition, mem, foreign, mentions⟩ := parts
    exact ⟨(name, definition), ⟨mem, foreign, mentions⟩, rfl⟩

end Store

end LiveCheck
