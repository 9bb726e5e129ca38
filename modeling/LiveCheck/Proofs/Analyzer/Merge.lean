import LiveCheck.Proofs.Table
import LiveCheck.Workspace.Analyzer

/-!
What storing the outcome of a check comes to, file by file and name by name.

If every record of a report is about a file that is covered, merging the report gives a
known file that is covered its records in the report, and leaves the records of every other
known file alone (`getD_mergeRecords`). A definition as checked replaces the
one before it, and survives as long as its file holds the name
(`get?_mergeChecked`).
-/

namespace LiveCheck

namespace Analyzer

variable {known covered : NameSet} {records : Table (List Record)} {report : List Record}

/-! ## Records -/

theorem get?_pushAt {α : Type} (table : Table (List α)) (key other : String) (value : α) :
    ((pushAt table key value).get? other).getD [] =
      (table.get? other).getD [] ++ if key = other then [value] else [] := by
  rw [pushAt, Table.get?_insert]
  by_cases h : other = key
  · subst h
    simp
  · simp [h, Ne.symm h]

theorem get?_foldl_clear (files : List String) (records : Table (List Record)) (file : String) :
    (files.foldl (fun records file => records.insert file []) records).get? file =
      if file ∈ files then some [] else records.get? file := by
  induction files generalizing records with
  | nil => simp
  | cons first rest ih =>
      rw [List.foldl_cons, ih, Table.get?_insert]
      by_cases mem : file ∈ rest
      · simp [mem]
      · by_cases eq : file = first <;> simp [mem, eq]

/-- Records of covered files are all stored if the file is known, in order. -/
theorem getD_foldl_addRecord
    (inside : ∀ record ∈ report, covered.contains record.file = true)
    (records : Table (List Record)) {file : String} (isKnown : known.contains file = true) :
    ((report.foldl (addRecord known covered) records).get? file).getD [] =
      (records.get? file).getD [] ++ report.filter (·.file == file) := by
  induction report generalizing records with
  | nil => simp
  | cons first rest ih =>
      have isCovered := inside first List.mem_cons_self
      rw [List.foldl_cons, ih fun record mem => inside record (List.mem_cons_of_mem _ mem)]
      by_cases stored : known.contains first.file = true
      · have pushed : addRecord known covered records first = pushAt records first.file first := by
          simp [addRecord, stored, isCovered]
        rw [pushed, get?_pushAt, List.append_assoc]
        by_cases h : first.file = file <;> simp [h]
      · have skipped : addRecord known covered records first = records := by
          simp [addRecord, stored]
        have elsewhere : ¬ first.file = file := fun own => stored (own ▸ isKnown)
        rw [skipped]
        simp [elsewhere]

/-- The records of a known file after a check. -/
theorem getD_mergeRecords
    (inside : ∀ record ∈ report, covered.contains record.file = true)
    (records : Table (List Record)) {file : String} (isKnown : known.contains file = true) :
    ((mergeRecords known covered records report).get? file).getD [] =
      if covered.contains file then report.filter (·.file == file)
      else (records.get? file).getD [] := by
  have kept : ∀ found : Option (List Record),
      found.filter (fun _ => known.contains file) = found := by
    intro found
    rw [isKnown]
    cases found <;> rfl
  rw [mergeRecords, Table.get?_filter, kept, getD_foldl_addRecord inside _ isKnown,
    get?_foldl_clear]
  split
  · next mem =>
    rw [if_pos (NameSet.mem_toList.1 mem)]
    rfl
  · next notMem =>
    have uncovered : ¬ covered.contains file = true :=
      fun has => notMem (NameSet.mem_toList.2 has)
    have none_about : report.filter (·.file == file) = [] := by
      rw [List.filter_eq_nil_iff]
      intro record mem about
      exact uncovered (beq_iff_eq.1 about ▸ inside record mem)
    rw [if_neg uncovered, none_about, List.append_nil]

/-- A file that is not known has no records after a check. -/
theorem get?_mergeRecords_of_unknown (records : Table (List Record)) {file : String}
    (unknown : ¬ known.contains file = true) :
    (mergeRecords known covered records report).get? file = none := by
  rw [mergeRecords, Table.get?_filter, Option.filter_eq_none_iff]
  exact fun _ _ => unknown

/-! ## Definitions -/

variable {δ : Type} [Definition δ]

/-- The definitions as checked after a check that gave `results`, a table of
definitions under their own names. -/
theorem get?_mergeChecked {globals checked results : Table δ}
    (named : ∀ name definition, results.get? name = some definition →
      Definition.name definition = name) (name : String) :
    (mergeChecked globals checked results.values).get? name =
      ((results.get? name).or (checked.get? name)).filter fun definition =>
        owner? globals name == some (Definition.file definition) := by
  have entries : results.values.map (fun definition => (Definition.name definition, definition)) =
      results.entries := by
    rw [Table.values, List.map_map]
    refine (List.map_congr_left ?_).trans (List.map_id _)
    rintro ⟨key, definition⟩ mem
    exact Prod.ext (named key definition (Table.get?_eq_some_iff.2 mem)) rfl
  have inserted : results.values.foldl
      (fun table definition => table.insert (Definition.name definition) definition) checked =
      checked.insertAll results.entries := by
    rw [← entries, Table.insertAll, List.foldl_map]
  rw [mergeChecked, Table.get?_filter, inserted, Table.get?_insertAll results.ascending]
  rfl

end Analyzer

end LiveCheck
