import LiveCheck.Proofs.Analyzer.Failures
import LiveCheck.Proofs.Documents
import LiveCheck.Server.Workspace
import Mathlib.Data.List.Basic

/-!
What publishing a report shows.

The publications of a report are the files of the report with their diagnostics, provided
that every file has an address (`publications_eq_map`). What is remembered of them is the
last publication for each document (`get?_remember`), and for a file of the report it
shows the current records of that file (`shown_publish`).
-/

namespace LiveCheck

/-- What is shown of a record apart from its place. -/
def Record.shown (record : Record) : Severity × String := (record.severity, record.message)

/-- What is shown of a diagnostic apart from its place. -/
def Diagnostic.shown (diagnostic : Diagnostic) : Severity × String :=
  (diagnostic.severity, diagnostic.message)

/-- What the pass for a change reads: the file and its text. -/
def Change.fileText (change : Change) : String × String := (change.uri, change.text)

/-- The text is an address in normal form. -/
def IsAddress (uri : String) : Prop := (Url.ofText? uri).map Url.text = some uri

namespace Workspace

variable {δ : Type} [Definition δ] {workspace : Workspace δ}

/-! ## Publishing a report -/

/-- The last of some publications for a document. -/
def lastSent (sent : List Publication) (uri : String) : Option Publication :=
  sent.reverse.find? (·.url == uri)

theorem remember_append (published : Table (List Diagnostic)) (sent more : List Publication) :
    remember published (sent ++ more) = remember (remember published sent) more :=
  List.foldl_append

/-- What is remembered of a document is the last publication for it. -/
theorem get?_remember (published : Table (List Diagnostic)) (sent : List Publication)
    (uri : String) :
    (remember published sent).get? uri =
      ((lastSent sent uri).map (·.diagnostics)).or (published.get? uri) := by
  induction sent generalizing published with
  | nil => rfl
  | cons first rest ih =>
      show (remember (published.insert first.url first.diagnostics) rest).get? uri = _
      rw [ih, Table.get?_insert, lastSent, lastSent, List.reverse_cons, List.find?_append,
        Option.map_or, Option.or_assoc]
      by_cases same : first.url = uri
      · simp [same]
      · simp [same, Ne.symm same]

/-- If every file of a report has an address, all of them are published. -/
theorem publications_eq_map {documents : Documents} {analyzed : Option Change} {report : Report}
    (addresses : ∀ uri, report.files.contains uri = true → IsAddress uri) :
    publications documents analyzed report =
      (report.byFile (resolve documents analyzed)).entries.map fun (uri, diagnostics) =>
        ⟨uri, publishedVersion documents analyzed uri, diagnostics⟩ := by
  have valid : ∀ entry ∈ (report.byFile (resolve documents analyzed)).entries,
      IsAddress entry.1 := by
    intro entry mem
    apply addresses
    have listed : entry.1 ∈ (report.byFile (resolve documents analyzed)).keys :=
      List.mem_map_of_mem mem
    rw [Report.byFile, keys_diagnosticsByFile] at listed
    exact NameSet.mem_toList.1 listed
  unfold publications
  rw [← List.filterMap_eq_map]
  apply List.filterMap_congr
  intro entry mem
  obtain ⟨url, read, text⟩ := Option.map_eq_some_iff.1 (valid entry mem)
  simp [read, text]

theorem map_url_publications {documents : Documents} {analyzed : Option Change} {report : Report}
    (addresses : ∀ uri, report.files.contains uri = true → IsAddress uri) :
    (publications documents analyzed report).map (·.url) = report.files.toList := by
  rw [publications_eq_map addresses, List.map_map]
  exact keys_diagnosticsByFile report.records report.files (resolve documents analyzed)

theorem remember_publications {documents : Documents} {analyzed : Option Change}
    {report : Report} (addresses : ∀ uri, report.files.contains uri = true → IsAddress uri)
    (published : Table (List Diagnostic)) :
    remember published (publications documents analyzed report) =
      published.insertAll (report.byFile (resolve documents analyzed)).entries := by
  rw [publications_eq_map addresses, remember, List.foldl_map]
  rfl

omit [Definition δ] in
/-- Publishing a report shows the current records of its files, and leaves what is shown
of others. -/
theorem shown_publish (labelled : workspace.analyzer.Labelled) {files : NameSet}
    (addresses : ∀ uri, files.contains uri = true → IsAddress uri) (analyzed : Option Change)
    (uri : String) :
    ((workspace.publish analyzed (.ok (workspace.analyzer.report files))).2.published.get?
      uri).map (·.map Diagnostic.shown) =
      if files.contains uri then some ((workspace.analyzer.diagnostics uri).map Record.shown)
      else (workspace.published.get? uri).map (·.map Diagnostic.shown) := by
  let report := workspace.analyzer.report files
  have grouped : ((report.byFile (resolve workspace.documents analyzed)).entries.lookup uri) = _ :=
    get?_diagnosticsByFile report.records files (resolve workspace.documents analyzed) uri
  show ((remember workspace.published (publications workspace.documents analyzed
    report)).get? uri).map _ = _
  rw [remember_publications addresses, Table.get?_insertAll (Table.ascending _), grouped]
  split
  · next reported =>
    rw [labelled.filter_report reported, Option.some_or, Option.map_some, List.map_map]
    rfl
  · rw [Option.none_or]

/-! ## What a pass does to the rest of a workspace -/

omit [Definition δ] in
@[simp]
theorem publish_documents (analyzed : Option Change) (outcome : Except EngineFailure Report) :
    (workspace.publish analyzed outcome).2.documents = workspace.documents := by
  cases outcome <;> rfl

omit [Definition δ] in
theorem publish_analyzer (analyzed : Option Change) (outcome : Except EngineFailure Report) :
    (workspace.publish analyzed outcome).2.analyzer = workspace.analyzer := by
  cases outcome <;> rfl

omit [Definition δ] in
theorem publish_published (analyzed : Option Change) (outcome : Except EngineFailure Report) :
    (workspace.publish analyzed outcome).2.published =
      remember workspace.published (workspace.publish analyzed outcome).1 := by
  cases outcome <;> rfl

section Changes

variable {engine : Engine δ}

/-- Loading files opens no document. -/
theorem isOpen_startup (access : FileAccess) (roots : List FilePath) (uri : String) :
    (workspace.startup engine access roots).2.documents.isOpen uri =
      workspace.documents.isOpen uri := by
  unfold startup
  cases scan access roots with
  | none => rfl
  | some found =>
      show ((Workspace.publish _ _ _).2.documents).isOpen uri = _
      rw [publish_documents]
      exact Documents.isOpen_foldl_load found.entries

theorem change_documents (change : Change) :
    (workspace.change engine change).2.documents = workspace.documents :=
  publish_documents _ _

theorem changes_documents (batch : List Change) :
    (workspace.changes engine batch).2.documents = workspace.documents := by
  unfold Workspace.changes
  refine List.foldlRecOn (motive := fun result : List Publication × Workspace δ =>
    result.2.documents = workspace.documents) batch _ rfl ?_
  intro result kept next _
  exact (change_documents next).trans kept

theorem change_analyzer (change : Change) :
    (workspace.change engine change).2.analyzer =
      (workspace.analyzer.analyze engine change.uri change.text).2 :=
  publish_analyzer _ _

/-- A batch is analyzed change by change. -/
theorem changes_analyzer (batch : List Change) :
    (workspace.changes engine batch).2.analyzer =
      workspace.analyzer.analyzeAll engine (batch.map Change.fileText) := by
  rw [Analyzer.analyzeAll, List.foldl_map]
  refine (List.foldl_hom (fun result : List Publication × Workspace δ => result.2.analyzer) ?_).symm
  intro result next
  exact (change_analyzer next).symm

end Changes

end Workspace

end LiveCheck
