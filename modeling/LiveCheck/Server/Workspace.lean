import LiveCheck.Files.Access
import LiveCheck.Url.Read
import LiveCheck.Workspace.Analyzer
import LiveCheck.Workspace.Debouncer
import LiveCheck.Workspace.Documents

/-!
A workspace at work: its analysis, its documents, and what the editor was last told.

A pass analyzes a change or, at startup, all files, and publishes the diagnostics of
every file in its report. The file that was analyzed is positioned against the text
that was analyzed, even if the editor has moved on; other files are positioned
against their current text. A pass in which the engine fails publishes nothing.
-/

namespace LiveCheck

/-- The diagnostics of a document, for one of its versions if it is open. -/
structure Publication where
  url : String
  version : Option Int
  diagnostics : List Diagnostic
deriving DecidableEq, Repr, Inhabited

/-- The analysis, the documents, and the diagnostics last published by address. -/
structure Workspace (δ : Type) where
  analyzer : Analyzer δ
  documents : Documents
  published : Table (List Diagnostic)

namespace Workspace

variable {δ : Type} [Definition δ]

/-- Nothing is known. -/
def empty : Workspace δ := ⟨.empty, .empty, .empty⟩

/-! ## Publishing -/

/-- The position of an offset, where the file of `analyzed` has the text analyzed. -/
def resolve (documents : Documents) (analyzed : Option Change) (uri : String) (offset : Nat) :
    Position :=
  match analyzed.filter (·.uri == uri) with
  | some change => positionAt change.text offset
  | none => (documents.position? uri offset).getD ⟨0, 0⟩

/-- The version to publish for. Only open documents have one. -/
def publishedVersion (documents : Documents) (analyzed : Option Change) (uri : String) :
    Option Int :=
  match analyzed.filter (·.uri == uri) with
  | some change => if documents.isOpen uri then some change.version else none
  | none => documents.version? uri

/-- The publications of a report. A file whose name is no address is passed over. -/
def publications (documents : Documents) (analyzed : Option Change) (report : Report) :
    List Publication :=
  (report.byFile (resolve documents analyzed)).entries.filterMap fun (uri, diagnostics) =>
    (Url.ofText? uri).map fun url =>
      ⟨url.text, publishedVersion documents analyzed uri, diagnostics⟩

/-- Remember what is published. -/
def remember (published : Table (List Diagnostic)) (publications : List Publication) :
    Table (List Diagnostic) :=
  publications.foldl (fun published publication =>
    published.insert publication.url publication.diagnostics) published

/-- Publish the outcome of a pass, unless the engine failed. -/
def publish (workspace : Workspace δ) (analyzed : Option Change)
    (outcome : Except EngineFailure Report) : List Publication × Workspace δ :=
  match outcome with
  | .error _ => ([], workspace)
  | .ok report =>
    let sent := publications workspace.documents analyzed report
    (sent, { workspace with published := remember workspace.published sent })

/-! ## Passes -/

/-- Analyze one change. The documents stay as they are. -/
def change (engine : Engine δ) (workspace : Workspace δ) (change : Change) :
    List Publication × Workspace δ :=
  let (outcome, analyzer) := workspace.analyzer.analyze engine change.uri change.text
  { workspace with analyzer }.publish (some change) outcome

/-- The files below one root, by address, added to those found before. A root that
cannot be listed is passed over, and so is a file that has no address or cannot be
read. There is no result if the listing breaks down. -/
def scanRoot (access : FileAccess) (found : Table String) (root : FilePath) :
    Option (Table String) :=
  match access.list root with
  | .crashed => none
  | .failed => some found
  | .files paths =>
    some (paths.foldl (fun found path =>
      match Url.ofFilePath? path, access.read path with
      | some url, .ok text => found.insert url.text text
      | _, _ => found) found)

/-- The files below some roots, by address. -/
def scan (access : FileAccess) (roots : List FilePath) : Option (Table String) :=
  roots.foldlM (scanRoot access) .empty

/-- Load the files below some roots and analyze all documents. -/
def startup (engine : Engine δ) (access : FileAccess) (workspace : Workspace δ)
    (roots : List FilePath) : List Publication × Workspace δ :=
  match scan access roots with
  | none => ([], workspace)
  | some found =>
    let documents := found.entries.foldl (fun documents (uri, text) => documents.load uri text)
      workspace.documents
    let (outcome, analyzer) := workspace.analyzer.startup engine documents.texts
    { workspace with analyzer, documents }.publish none outcome

/-! ## Queues -/

/-- Add a change to a batch, in place of an earlier one of the same document. -/
def replaceOrAdd (change : Change) : List Change → List Change
  | [] => [change]
  | first :: rest =>
    if first.uri = change.uri then change :: rest else first :: replaceOrAdd change rest

/-- The latest change of each document in a queue, at the place of its first one. -/
def latestChanges (queue : List Change) : List Change :=
  queue.foldl (fun batch change => replaceOrAdd change batch) []

/-- Analyze a batch of changes in order. -/
def changes (engine : Engine δ) (workspace : Workspace δ) (batch : List Change) :
    List Publication × Workspace δ :=
  batch.foldl (fun (sent, workspace) next =>
    let (more, workspace) := workspace.change engine next
    (sent ++ more, workspace)) ([], workspace)

/-- Work off startups, which come first, and then the queued changes. -/
def run (engine : Engine δ) (access : FileAccess) (workspace : Workspace δ)
    (startups : List (List FilePath)) (queue : List Change) : List Publication × Workspace δ :=
  let (sent, workspace) := startups.foldl (fun (sent, workspace) roots =>
    let (more, workspace) := workspace.startup engine access roots
    (sent ++ more, workspace)) (([] : List Publication), workspace)
  let (more, workspace) := workspace.changes engine (latestChanges queue)
  (sent ++ more, workspace)

end Workspace

end LiveCheck
