import LiveCheck.Proofs.Store.Record

/-!
What a parse reports is what it changes.

The names of a file are withdrawn and given out again one by one, so a name may pass
through several hands within one parse. From the outside a parse is simple: the report
names exactly the definitions that came, went, or were taken over from another file, and
nothing outside it changes (`Reached.accounts_record`).
-/

namespace LiveCheck

namespace Store

variable {δ : Type} [Definition δ] {store : Store δ} {definitions : Table δ}
  {uri name : String}

/-- A file other than `uri` defined `name` at its last parse. -/
def DefinedElsewhere (store : Store δ) (uri name : String) : Prop :=
  ∃ other, other ≠ uri ∧ store.Defined other name

/-- Once the names of `uri` are withdrawn, a name belongs to another file exactly if
another file defines it. -/
theorem Coherent.owned_elsewhere_withdraw (coherent : Coherent store) :
    (∃ owner, owner? (((store.fileDefinitions? uri).getD .empty).keys.foldl
      (Store.withdraw (store.files.erase uri) uri) store.globals) name = some owner ∧
        owner ≠ uri) ↔ store.DefinedElsewhere uri name := by
  have newest := (coherent.withdraw uri).newest name
  dsimp only at newest
  constructor
  · intro parts
    obtain ⟨owner, owned, -⟩ := parts
    obtain ⟨definition, held, -⟩ := owner?_eq_some.1 owned
    rw [newest] at held
    obtain ⟨other, contribution, entry, defined⟩ := exists_of_newest? held
    obtain ⟨foreign, entry⟩ := get?_of_get?_erase entry
    exact ⟨other, foreign, contribution, entry, Table.contains_eq_true.2 ⟨definition, defined⟩⟩
  · intro parts
    obtain ⟨other, foreign, contribution, entry, defined⟩ := parts
    have erased : (store.files.erase uri).get? other = some contribution := by
      rw [Table.get?_erase, if_neg foreign]
      exact entry
    cases held : newest? (store.files.erase uri) name with
    | none =>
        have undefined := newest?_eq_none_iff.1 held other contribution erased
        exact absurd defined (Table.not_contains.2 undefined)
    | some definition =>
        -- Whoever it is now, it is one of the files that are left.
        obtain ⟨owner, theirs, entry', defined'⟩ := exists_of_newest? held
        obtain ⟨foreign', entry'⟩ := get?_of_get?_erase entry'
        have file := coherent.filed owner theirs entry' name definition defined'
        exact ⟨owner, owner?_eq_some.2 ⟨definition, newest.trans held, file⟩, foreign'⟩

theorem contains_record_added :
    (store.record uri definitions).1.added.contains name = true ↔
      definitions.contains name = true := by
  show (NameSet.ofList definitions.keys).contains name = true ↔ _
  rw [NameSet.contains_ofList, Table.mem_keys]

theorem Coherent.contains_record_overridden (coherent : Coherent store) :
    (store.record uri definitions).1.overridden.contains name = true ↔
      definitions.contains name = true ∧ store.DefinedElsewhere uri name := by
  show (NameSet.ofList (definitions.keys.filter _)).contains name = true ↔ _
  rw [NameSet.contains_ofList, List.mem_filter, Table.mem_keys,
    ← coherent.owned_elsewhere_withdraw, Option.any_eq_true]
  simp only [bne_iff_ne]

/-- A name that a file drops goes to another file or to none. -/
theorem Coherent.owner?_record_of_removed (coherent : Coherent store)
    (undefined : definitions.get? name = none) :
    owner? (store.record uri definitions).2.globals name ≠ some uri := by
  intro owned
  obtain ⟨definition, held, file⟩ := owner?_eq_some.1 owned
  rw [coherent.get?_record, undefined, Option.none_or] at held
  obtain ⟨other, contribution, entry, defined⟩ := exists_of_newest? held
  obtain ⟨foreign, entry⟩ := get?_of_get?_erase entry
  exact foreign ((coherent.filed other contribution entry name definition defined).symm.trans file)

/-- What a parse of `uri` into `definitions` reports and does: `affected` and `next` are
the report and the store after it. -/
structure Accounts (store : Store δ) (uri : String) (definitions : Table δ)
    (affected : Affected) (next : Store δ) : Prop where
  added : ∀ name, affected.added.contains name = true ↔ definitions.contains name = true
  removed : ∀ name, affected.removed.contains name = true ↔
    store.Defined uri name ∧ ¬ definitions.contains name = true
  overridden : ∀ name, affected.overridden.contains name = true ↔
    definitions.contains name = true ∧ store.DefinedElsewhere uri name
  /-- Any other name keeps its definition. -/
  kept : ∀ name, ¬ affected.added.contains name = true →
    ¬ affected.removed.contains name = true →
    next.globals.get? name = store.globals.get? name
  taken : ∀ name, affected.added.contains name = true → owner? next.globals name = some uri
  /-- A name that is removed goes to another file or to none. -/
  released : ∀ name, affected.removed.contains name = true →
    owner? next.globals name ≠ some uri
  others : ∀ other, other ≠ uri → next.files.get? other = store.files.get? other
  known : ∀ other, next.known.contains other = true ↔
    other = uri ∨ store.known.contains other = true

/-- After every history of parses and rebuilds, a parse reports exactly what it changes. -/
theorem Reached.accounts_record (reached : Reached store) (filed : Filed uri definitions) :
    Accounts store uri definitions (store.record uri definitions).1
      (store.record uri definitions).2 := by
  have coherent := reached.coherent
  have removed : ∀ name, (store.record uri definitions).1.removed.contains name = true ↔
      store.Defined uri name ∧ ¬ definitions.contains name = true := by
    intro name
    rw [contains_record_removed, Table.not_contains]
  refine ⟨fun _ => contains_record_added, removed, fun _ => coherent.contains_record_overridden,
    ?_, ?_, ?_, ?_, fun _ => contains_record_known⟩
  · intro name unadded unremoved
    rw [contains_record_added] at unadded
    rw [removed] at unremoved
    refine get?_record_of_untouched fun touched => ?_
    rcases contains_record_names.1 touched with defined | held
    · exact unadded defined
    · exact unremoved ⟨held, unadded⟩
  · intro name added
    rw [contains_record_added] at added
    obtain ⟨definition, defined⟩ := Table.contains_eq_true.1 added
    exact owner?_eq_some.2
      ⟨definition, coherent.get?_record_of_defined defined, filed name definition defined⟩
  · intro name gone
    rw [removed] at gone
    exact coherent.owner?_record_of_removed (Table.not_contains.1 gone.2)
  · intro other foreign
    rw [get?_record_files, if_neg foreign]

/-- A file that took `x` over drops it and takes `y` over: `x` goes back, both files
keep their entries. -/
theorem accounts_record_of_exchange :
    let item (name file : String) : OutlineItem :=
      ⟨name, file, "", .empty 0, .empty 0, [], false⟩
    let both := (Store.empty.record "a" (tableOf [item "x" "a", item "y" "a"])).2
    let taken := (both.record "b" (tableOf [item "x" "b"])).2
    let exchanged := taken.record "b" (tableOf [item "y" "b"])
    Reached taken ∧ Filed "b" (tableOf [item "y" "b"]) ∧
      exchanged.1.removed.toList = ["x"] ∧ exchanged.1.overridden.toList = ["y"] ∧
      owner? exchanged.2.globals "x" = some "a" ∧ owner? exchanged.2.globals "y" = some "b" ∧
      Accounts taken "b" (tableOf [item "y" "b"]) exchanged.1 exchanged.2 := by
  intro item both taken exchanged
  have filed : ∀ (file : String) (names : List String),
      Filed file (tableOf (names.map (item · file))) := by
    intro file names name definition found
    obtain ⟨_, -, rfl⟩ := List.mem_map.1 (mem_of_get?_tableOf found).1
    rfl
  have reached : Reached taken :=
    (Reached.empty.record (filed "a" ["x", "y"])).record (filed "b" ["x"])
  have fresh : Filed "b" (tableOf [item "y" "b"]) := filed "b" ["y"]
  exact ⟨reached, fresh, by decide, by decide, by decide, by decide, reached.accounts_record fresh⟩

end Store

end LiveCheck
