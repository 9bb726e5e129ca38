import LiveCheck.Proofs.Table
import LiveCheck.Workspace.Diagnostic

/-!
Diagnostics by file are records by file.

`diagnosticsByFile` goes through a report once and appends each record to the list of
its file. What comes out is a table of exactly the known files, where the list of a file
holds the records about it in the order of the report (`get?_diagnosticsByFile`). So a report
is taken apart file by file, and of its order only the order inside each file counts
(`diagnosticsByFile_groups`).
-/

namespace LiveCheck

theorem get?_appendAt {α : Type} (table : Table (List α)) (key other : String) (value : α) :
    (appendAt table key value).get? other =
      (table.get? other).map (· ++ if key = other then [value] else []) := by
  unfold appendAt
  cases found : table.get? key with
  | none =>
      by_cases same : key = other
      · rw [← same, found]
        rfl
      · simp [same]
  | some values =>
      rw [Table.get?_insert]
      by_cases same : other = key
      · subst same
        simp [found]
      · simp [same, Ne.symm same]

theorem get?_foldl_appendAt (resolve : String → Nat → Position) (records : List Record)
    (table : Table (List Diagnostic)) (file : String) :
    (records.foldl (fun table record => appendAt table record.file (record.resolve resolve))
      table).get? file =
      (table.get? file).map
        (· ++ (records.filter (·.file == file)).map (Record.resolve resolve)) := by
  induction records generalizing table with
  | nil => simp
  | cons first rest ih =>
      rw [List.foldl_cons, ih, get?_appendAt, Option.map_map]
      congr 1
      funext diagnostics
      by_cases about : first.file = file <;> simp [about]

/-- A known file has the records about it, in the order of the report; no other file has
an entry. -/
theorem get?_diagnosticsByFile (records : List Record) (known : NameSet)
    (resolve : String → Nat → Position) (file : String) :
    (diagnosticsByFile records known resolve).get? file =
      if known.contains file then
        some ((records.filter (·.file == file)).map (Record.resolve resolve))
      else none := by
  rw [diagnosticsByFile, get?_foldl_appendAt, Table.get?_mapValues, Table.contains]
  cases known.get? file <;> simp

theorem keys_diagnosticsByFile (records : List Record) (known : NameSet)
    (resolve : String → Nat → Position) :
    (diagnosticsByFile records known resolve).keys = known.toList := by
  apply Table.keys_congr
  intro file
  rw [Table.contains, get?_diagnosticsByFile]
  cases known.contains file <;> rfl

/-! ## Reports one after the other -/

/-- The lists of two tables joined, file by file. -/
def joinLists {α : Type} (first second : Table (List α)) : Table (List α) :=
  first.mapValues fun file values => values ++ (second.get? file).getD []

theorem diagnosticsByFile_append (first second : List Record) (known : NameSet)
    (resolve : String → Nat → Position) :
    diagnosticsByFile (first ++ second) known resolve =
      joinLists (diagnosticsByFile first known resolve)
        (diagnosticsByFile second known resolve) := by
  apply Table.ext_get?
  intro file
  rw [joinLists, Table.get?_mapValues]
  simp only [get?_diagnosticsByFile]
  cases known.contains file with
  | false => rfl
  | true => simp

/-! ## Records in another order -/

/-- A report in another order, in which only records of different files have changed places. -/
inductive Reordered : List Record → List Record → Prop where
  | refl (records : List Record) : Reordered records records
  | swap {first second : Record} (apart : first.file ≠ second.file) (before after : List Record) :
      Reordered (before ++ first :: second :: after) (before ++ second :: first :: after)
  | trans {records middle others : List Record} (first : Reordered records middle)
      (second : Reordered middle others) : Reordered records others

namespace Reordered

variable {records others : List Record}

theorem cons (record : Record) (reordered : Reordered records others) :
    Reordered (record :: records) (record :: others) := by
  induction reordered with
  | refl records => exact .refl _
  | swap apart before after => exact .swap apart (record :: before) after
  | trans first second ihFirst ihSecond => exact ihFirst.trans ihSecond

/-- A record goes past records of other files. -/
theorem past {record : Record} {before : List Record}
    (others : ∀ other ∈ before, other.file ≠ record.file) (after : List Record) :
    Reordered (record :: (before ++ after)) (before ++ record :: after) := by
  induction before with
  | nil => exact .refl _
  | cons first rest ih =>
      have ⟨apart, others⟩ := List.forall_mem_cons.1 others
      exact .trans (.swap apart.symm [] (rest ++ after)) ((ih others).cons first)

theorem filter_eq (reordered : Reordered records others) (file : String) :
    records.filter (·.file == file) = others.filter (·.file == file) := by
  induction reordered with
  | refl records => rfl
  | @swap first second apart before after =>
      rw [List.filter_append, List.filter_append]
      congr 1
      by_cases about : first.file = file
      · have other : second.file ≠ file := about ▸ apart.symm
        simp [about, other]
      · simp [List.filter_cons, about]
  | trans first second ihFirst ihSecond => exact ihFirst.trans ihSecond

/-- Reports with the same records about each file, in the same order, differ by changes of
places only. -/
theorem of_filter_eq
    (same : ∀ file, records.filter (·.file == file) = others.filter (·.file == file)) :
    Reordered records others := by
  induction records generalizing others with
  | nil =>
      have none : ∀ record, record ∉ others := by
        intro record mem
        have kept : record ∈ others.filter (·.file == record.file) :=
          List.mem_filter.2 ⟨mem, beq_self_eq_true record.file⟩
        rw [← same record.file] at kept
        cases kept
      rw [List.eq_nil_iff_forall_not_mem.2 none]
      exact .refl _
  | cons first rest ih =>
      -- The first record about the file of `first` is `first` itself in either report.
      have head := same first.file
      rw [List.filter_cons, if_pos (beq_self_eq_true first.file)] at head
      obtain ⟨before, after, rfl, apart, -, -⟩ := List.filter_eq_cons_iff.1 head.symm
      have apart : ∀ other ∈ before, other.file ≠ first.file := by simpa using apart
      refine .trans (.cons first (ih fun file => ?_)) (past apart after)
      have moved := (same file).trans ((past apart after).filter_eq file).symm
      rw [List.filter_cons, List.filter_cons] at moved
      split at moved
      · exact (List.cons.inj moved).2
      · exact moved

end Reordered

/-- The record about `file` that is shown as a diagnostic if an offset is a column of the first
line. -/
def Diagnostic.toRecord (file : String) (diagnostic : Diagnostic) : Record :=
  ⟨file, diagnostic.severity,
    ⟨diagnostic.range.start.character, diagnostic.range.stop.character⟩, diagnostic.message⟩

/-- Offsets that are shown as they are keep all of a record but its file. -/
theorem map_toRecord_map_resolve {file : String} {records : List Record}
    (about : ∀ record ∈ records, record.file = file) :
    (records.map (Record.resolve fun _ offset => ⟨0, offset⟩)).map (Diagnostic.toRecord file) =
      records := by
  rw [List.map_map]
  refine (List.map_congr_left fun record mem => ?_).trans (List.map_id records)
  cases about record mem
  rfl

/-- Reports have the same diagnostics, whatever files are known and wherever offsets lie, if
and only if they differ in the order of records of different files. -/
theorem reordered_iff {records others : List Record} :
    Reordered records others ↔ ∀ known resolve,
      diagnosticsByFile others known resolve = diagnosticsByFile records known resolve := by
  constructor
  · intro reordered known resolve
    apply Table.ext_get?
    intro file
    rw [get?_diagnosticsByFile, get?_diagnosticsByFile, reordered.filter_eq file]
  · intro same
    refine .of_filter_eq fun file => ?_
    have known : (NameSet.ofList [file]).contains file = true :=
      (NameSet.contains_ofList _ _).2 (List.mem_singleton_self file)
    have listed := congrArg (·.get? file)
      (same (NameSet.ofList [file]) fun _ offset => ⟨0, offset⟩)
    simp only [get?_diagnosticsByFile, known, if_true, Option.some_inj] at listed
    have about : ∀ report : List Record, ∀ record ∈ report.filter (·.file == file),
        record.file = file := fun report record mem => by simpa using (List.mem_filter.1 mem).2
    rw [← map_toRecord_map_resolve (about records), ← listed,
      map_toRecord_map_resolve (about others)]

/-- The diagnostics of a report are its records file by file: the known files are the keys,
and each has the records about it, in the order of the report and placed by `resolve`. A
report that goes on adds to each file's list, and of the order of a report only the order
inside each file counts. -/
theorem diagnosticsByFile_groups (records : List Record) :
    (∀ known resolve,
      (diagnosticsByFile records known resolve).keys = known.toList ∧
        (∀ file, (diagnosticsByFile records known resolve).get? file =
          if known.contains file then
            some ((records.filter (·.file == file)).map fun record =>
              ⟨⟨resolve file record.span.start, resolve file record.span.stop⟩,
                record.severity, record.message⟩)
          else none) ∧
        ∀ more, diagnosticsByFile (records ++ more) known resolve =
          joinLists (diagnosticsByFile records known resolve)
            (diagnosticsByFile more known resolve)) ∧
      ∀ others, Reordered records others ↔ ∀ known resolve,
        diagnosticsByFile others known resolve = diagnosticsByFile records known resolve := by
  refine ⟨fun known resolve => ⟨keys_diagnosticsByFile _ _ _, fun file => ?_,
    fun more => diagnosticsByFile_append _ _ _ _⟩, fun others => reordered_iff⟩
  have placed : ∀ record ∈ records.filter (·.file == file), record.resolve resolve =
      ⟨⟨resolve file record.span.start, resolve file record.span.stop⟩, record.severity,
        record.message⟩ := by
    intro record mem
    have about : record.file = file := by simpa using (List.mem_filter.1 mem).2
    rw [Record.resolve, about]
  rw [get?_diagnosticsByFile, List.map_congr_left placed]

end LiveCheck
