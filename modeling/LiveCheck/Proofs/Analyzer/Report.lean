import LiveCheck.Proofs.Analyzer.Merge
import LiveCheck.Proofs.Diagnostic
import LiveCheck.Proofs.Engine.Local
import LiveCheck.Proofs.Store.Record

/-!
What a report says of each file.

An analyzer keeps records in four tables, and each of them has a record only under the
file that the record is about (`Labelled`). A report on some files is therefore sorted
by file: the records in it about one of them are the current records of that file
(`filter_report`). A pass that runs a job to its end reports on every file that the
analyzer then keeps track of (`reportsTracked_finish`).
-/

namespace LiveCheck

namespace Analyzer

variable {δ : Type} [Definition δ] {engine : Engine δ} {analyzer : Analyzer δ}

/-! ## Records under their own file -/

/-- Every record in the lists of a table is about the file it is listed under. -/
def ListsOwn (table : Table (List Record)) : Prop :=
  ∀ file, ∀ record ∈ (table.get? file).getD [], record.file = file

/-- Every record in a table is about the file it is stored under. -/
def HoldsOwn (table : Table Record) : Prop :=
  ∀ file record, table.get? file = some record → record.file = file

theorem listsOwn_empty : ListsOwn .empty := by
  intro file record mem
  cases mem

theorem holdsOwn_empty : HoldsOwn .empty := by
  intro file record found
  cases found

theorem ListsOwn.pushAt {table : Table (List Record)} (own : ListsOwn table) (record : Record) :
    ListsOwn (pushAt table record.file record) := by
  intro file other mem
  rw [get?_pushAt, List.mem_append] at mem
  rcases mem with mem | mem
  · exact own file other mem
  · split at mem
    · next same =>
      rw [List.mem_singleton.1 mem]
      exact same
    · cases mem

theorem ListsOwn.filter {table : Table (List Record)} (own : ListsOwn table)
    (keep : String → List Record → Bool) : ListsOwn (table.filter keep) := by
  intro file record mem
  rw [Table.get?_filter] at mem
  cases found : table.get? file with
  | none =>
      rw [found] at mem
      cases mem
  | some records =>
      apply own file
      rw [found] at mem ⊢
      rw [Option.filter_some] at mem
      split at mem
      · exact mem
      · cases mem

theorem ListsOwn.foldl_clear {table : Table (List Record)} (own : ListsOwn table)
    (files : List String) :
    ListsOwn (files.foldl (fun records file => records.insert file []) table) := by
  intro file record mem
  rw [get?_foldl_clear] at mem
  split at mem
  · cases mem
  · exact own file record mem

/-- Storing a report keeps every record under the file it is about, whatever files the
report is about. -/
theorem ListsOwn.mergeRecords {table : Table (List Record)} (own : ListsOwn table)
    (known covered : NameSet) (report : List Record) :
    ListsOwn (mergeRecords known covered table report) := by
  have stored : ∀ records, ListsOwn records →
      ListsOwn (report.foldl (addRecord known covered) records) := by
    induction report with
    | nil => exact fun _ own => own
    | cons first rest ih =>
        intro records own
        apply ih
        unfold addRecord
        split
        · exact own.pushAt first
        · exact own
  exact (stored _ (own.foldl_clear covered.toList)).filter _

theorem listsOwn_hiddenRecords (store : Store δ) : ListsOwn (hiddenRecords store) := by
  unfold hiddenRecords
  refine List.foldlRecOn store.hidden _ listsOwn_empty ?_
  intro table own entry _
  exact own.pushAt (alreadyDefined (Definition.file entry.1) (Definition.origin entry.1)
    (Definition.name entry.1) entry.2)

theorem HoldsOwn.insert {table : Table Record} (own : HoldsOwn table) (record : Record) :
    HoldsOwn (table.insert record.file record) := by
  intro file other found
  rw [Table.get?_insert] at found
  split at found
  · next same =>
    cases found
    exact same.symm
  · exact own file other found

theorem HoldsOwn.erase {table : Table Record} (own : HoldsOwn table) (uri : String) :
    HoldsOwn (table.erase uri) := by
  intro file record found
  rw [Table.get?_erase] at found
  split at found
  · cases found
  · exact own file record found

theorem holdsOwn_ofList {entries : List (String × Record)}
    (own : ∀ entry ∈ entries, entry.2.file = entry.1) : HoldsOwn (.ofList entries) := by
  intro file record found
  exact own (file, record) (Table.mem_of_get?_ofList found)

/-- Every record that an analyzer keeps is under the file it is about. -/
structure Labelled (analyzer : Analyzer δ) : Prop where
  records : ListsOwn analyzer.records
  failures : HoldsOwn analyzer.failures
  clashes : HoldsOwn analyzer.clashes
  hidden : ListsOwn analyzer.hidden

omit [Definition δ] in
theorem labelled_empty : (Analyzer.empty : Analyzer δ).Labelled :=
  ⟨listsOwn_empty, holdsOwn_empty, holdsOwn_empty, listsOwn_empty⟩

theorem Labelled.planParsed (labelled : analyzer.Labelled) (uri : String)
    (definitions : Table δ) : (analyzer.planParsed uri definitions).2.Labelled where
  records := labelled.records
  failures := labelled.failures.erase uri
  clashes := labelled.clashes.erase uri
  hidden := listsOwn_hiddenRecords _

theorem mem_failedFiles {files : List (String × String)} {entry : String × Record}
    (mem : entry ∈ failedFiles engine files) :
    (∃ text, (entry.1, text) ∈ files) ∧ entry.2.file = entry.1 := by
  obtain ⟨⟨uri, text⟩, given, found⟩ := List.mem_filterMap.1 mem
  unfold parseFile at found
  cases parsed : engine.parse uri text with
  | parsed definitions =>
      simp only [parsed] at found
      cases found
  | failed failure =>
      simp only [parsed] at found
      cases found
      exact ⟨⟨text, given⟩, rfl⟩
  | crashed error =>
      simp only [parsed] at found
      cases found
      exact ⟨⟨text, given⟩, rfl⟩

theorem labelled_planAll (engine : Engine δ) (analyzer : Analyzer δ)
    (files : List (String × String)) : (analyzer.planAll engine files).2.Labelled where
  records := listsOwn_empty
  failures := holdsOwn_ofList fun _ mem => (mem_failedFiles mem).2
  clashes := by
    apply holdsOwn_ofList
    intro entry mem
    obtain ⟨clash, -, rfl⟩ := List.mem_map.1 mem
    rfl
  hidden := listsOwn_hiddenRecords _

/-! ## Reports -/

omit [Definition δ] in
theorem Labelled.file_of_mem_diagnostics (labelled : analyzer.Labelled) {file : String}
    {record : Record} (mem : record ∈ analyzer.diagnostics file) : record.file = file := by
  unfold diagnostics at mem
  cases failed : analyzer.failures.get? file with
  | some failure =>
      rw [failed] at mem
      rw [List.mem_singleton.1 mem]
      exact labelled.failures file failure failed
  | none =>
      rw [failed] at mem
      simp only [List.mem_append, Option.mem_toList] at mem
      rcases mem with (mem | clash) | mem
      · exact labelled.records file record mem
      · exact labelled.clashes file record clash
      · exact labelled.hidden file record mem

omit [Definition δ] in
/-- In a report, the records about one of its files are the current records of that
file. -/
theorem Labelled.filter_report (labelled : analyzer.Labelled) {files : NameSet} {file : String}
    (reported : files.contains file = true) :
    (analyzer.report files).records.filter (·.file == file) = analyzer.diagnostics file := by
  have distinct : files.toList.Nodup := Table.nodup_keys files
  have mem : file ∈ files.toList := NameSet.mem_toList.2 reported
  obtain ⟨before, after, split⟩ := List.append_of_mem mem
  have elsewhere : ∀ others : List String, file ∉ others →
      (others.flatMap analyzer.diagnostics).filter (·.file == file) = [] := by
    intro others absent
    rw [List.filter_eq_nil_iff]
    intro record recordMem about
    obtain ⟨other, otherMem, recordMem⟩ := List.mem_flatMap.1 recordMem
    have own : record.file = other := labelled.file_of_mem_diagnostics recordMem
    exact absent (beq_iff_eq.1 about ▸ own ▸ otherMem)
  have all : (analyzer.diagnostics file).filter (·.file == file) = analyzer.diagnostics file := by
    rw [List.filter_eq_self]
    intro record recordMem
    exact beq_iff_eq.2 (labelled.file_of_mem_diagnostics recordMem)
  rw [split, List.nodup_append, List.nodup_cons] at distinct
  obtain ⟨-, ⟨notAfter, -⟩, apart⟩ := distinct
  have notBefore : file ∉ before := fun mem => apart file mem file List.mem_cons_self rfl
  show (files.toList.flatMap analyzer.diagnostics).filter (·.file == file) = _
  rw [split, List.flatMap_append, List.flatMap_cons, List.filter_append, List.filter_append,
    elsewhere before notBefore, elsewhere after notAfter, all, List.nil_append, List.append_nil]

/-! ## Passes -/

/-- The analyzer keeps track of a file: it was parsed once, or its text does not parse. -/
def Tracks (analyzer : Analyzer δ) (file : String) : Prop :=
  analyzer.store.known.contains file = true ∨ analyzer.failures.contains file = true

/-- A pass that ended with a report on exactly the files the analyzer keeps track of. -/
def ReportsTracked (pass : Except EngineFailure Report × Analyzer δ) : Prop :=
  ∃ files, pass.1 = .ok (pass.2.report files) ∧
    ∀ file, files.contains file = true ↔ pass.2.Tracks file

omit [Definition δ] in
/-- The files a report is on once a job is stored. -/
theorem contains_reported {known announced : NameSet} {failures : Table Record} {file : String} :
    ((known.addAll failures.keys).union announced).contains file = true ↔
      known.contains file = true ∨ failures.contains file = true ∨
        announced.contains file = true := by
  rw [NameSet.contains_union, NameSet.contains_addAll, Bool.or_eq_true, decide_eq_true_eq,
    Table.mem_keys, or_assoc]
  exact or_left_comm

section Finish

variable {job : Job δ}

@[simp]
theorem finish_store : (analyzer.finish engine job).2.store = analyzer.store := by
  unfold finish commit
  cases job.run engine <;> rfl

@[simp]
theorem finish_failures : (analyzer.finish engine job).2.failures = analyzer.failures := by
  unfold finish commit
  cases job.run engine <;> rfl

@[simp]
theorem finish_clashes : (analyzer.finish engine job).2.clashes = analyzer.clashes := by
  unfold finish commit
  cases job.run engine <;> rfl

@[simp]
theorem finish_hidden : (analyzer.finish engine job).2.hidden = analyzer.hidden := by
  unfold finish commit
  cases job.run engine <;> rfl

theorem tracks_finish {file : String} :
    (analyzer.finish engine job).2.Tracks file ↔ analyzer.Tracks file := by
  rw [Tracks, Tracks, finish_store, finish_failures]

theorem Labelled.finish (labelled : analyzer.Labelled) :
    (analyzer.finish engine job).2.Labelled := by
  unfold Analyzer.finish commit
  cases job.run engine with
  | error failure => exact labelled
  | ok result =>
      exact ⟨labelled.records.mergeRecords _ _ _, labelled.failures, labelled.clashes,
        labelled.hidden⟩

theorem reportsTracked_finish (reliable : engine.Reliable)
    (announced : ∀ file, job.announced.contains file = true → analyzer.Tracks file) :
    ReportsTracked (analyzer.finish engine job) := by
  obtain ⟨result, ran⟩ := reliable.check_ok job.roots job.globals
  have ran : job.run engine = .ok result := ran
  unfold finish commit
  rw [ran]
  refine ⟨_, rfl, ?_⟩
  intro file
  refine contains_reported.trans ?_
  constructor
  · rintro (known | failed | isAnnounced)
    · exact Or.inl known
    · exact Or.inr failed
    · exact announced file isAnnounced
  · rintro (known | failed)
    · exact Or.inl known
    · exact Or.inr (Or.inl failed)

end Finish

section Change

variable {uri text : String}

theorem analyze_of_parsed {definitions : List δ}
    (parsed : engine.parse uri text = .parsed definitions) :
    analyzer.analyze engine uri text =
      (analyzer.planParsed uri (tableOf definitions)).2.finish engine
        (analyzer.planParsed uri (tableOf definitions)).1 := by
  unfold analyze plan
  rw [parsed]

/-- A text that does not parse ends the pass with a report on its file alone. -/
theorem analyze_of_failed {failure : Rejection}
    (parsed : engine.parse uri text = .failed failure) :
    let next := { analyzer with failures := analyzer.failures.insert uri (failure.record uri) }
    analyzer.analyze engine uri text = (.ok (next.report (.ofList [uri])), next) := by
  intro next
  have failed : next.diagnostics uri = [failure.record uri] := by
    simp only [diagnostics, next, Table.get?_insert_self]
  have reported : next.report (.ofList [uri]) = ⟨.ofList [uri], [failure.record uri]⟩ := by
    show (⟨_, next.diagnostics uri ++ []⟩ : Report) = _
    rw [failed]
    rfl
  unfold analyze plan
  rw [parsed, reported]

/-- An engine that fails to parse leaves everything as it was. -/
theorem analyze_of_crashed {error : EngineFailure}
    (parsed : engine.parse uri text = .crashed error) :
    analyzer.analyze engine uri text = (.error error, analyzer) := by
  unfold analyze plan
  rw [parsed]

theorem tracks_planParsed {definitions : Table δ} {file : String} :
    (analyzer.planParsed uri definitions).2.Tracks file ↔ file = uri ∨ analyzer.Tracks file := by
  show (analyzer.store.record uri definitions).2.known.contains file = true ∨
    (analyzer.failures.erase uri).contains file = true ↔ _
  rw [Store.contains_record_known, Table.contains_erase, Tracks]
  by_cases same : file = uri <;> simp [same]

end Change

/-- Every file parses or does not. -/
theorem mem_parsedFiles_or_failedFiles (engine : Engine δ) {files : List (String × String)}
    {file : String} :
    file ∈ (parsedFiles engine files).map (·.1) ∨ file ∈ (failedFiles engine files).map (·.1) ↔
      file ∈ files.map (·.1) := by
  induction files with
  | nil => simp [parsedFiles, failedFiles]
  | cons first rest ih =>
      rw [List.map_cons, List.mem_cons, ← ih]
      cases parsed : parseFile engine first.1 first.2 with
      | ok definitions =>
          simp [parsedFiles, failedFiles, parsed, Except.toOption, or_assoc]
      | error record =>
          simp [parsedFiles, failedFiles, parsed, Except.toOption, or_left_comm]

/-- A first pass keeps track of every file it is given. -/
theorem tracks_planAll {files : List (String × String)} {file : String} :
    (analyzer.planAll engine files).2.Tracks file ↔
      file ∈ files.map (·.1) ∨ analyzer.store.known.contains file = true := by
  show (analyzer.store.rebuild (parsedFiles engine files)).2.known.contains file = true ∨
    (Table.ofList (failedFiles engine files)).contains file = true ↔ _
  rw [Store.contains_known_rebuild, Table.contains_ofList,
    ← mem_parsedFiles_or_failedFiles engine, or_right_comm]

end Analyzer

end LiveCheck
