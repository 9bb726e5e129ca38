import LiveCheck.Text.Word
import LiveCheck.Workspace.Engine
import LiveCheck.Workspace.Store

/-!
Incremental analysis of a workspace.

A pass over a changed file has three steps. `Analyzer.plan` parses the file and
records its definitions; a text that does not parse ends the pass there. `Job.run`
checks every definition the change may affect. `Analyzer.commit` stores what came
out and reports on all known files. The middle step sees only the job, so that
other steps may happen while it runs.
-/

namespace LiveCheck

/-- What the editor is told after a pass. -/
structure Report where
  /-- The files reported on. -/
  files : NameSet
  /-- The current records of these files. -/
  records : List Record

/-- The diagnostics of every file reported on. -/
def Report.byFile (report : Report) (resolve : String → Nat → Position) :
    Table (List Diagnostic) :=
  LiveCheck.diagnosticsByFile report.records report.files resolve

/-- A check to be run: what to check, against what, and which files it covers. -/
structure Job (δ : Type) where
  roots : List String
  /-- The files whose records are computed anew. -/
  covered : NameSet
  /-- The files to report on besides the known ones. -/
  announced : NameSet
  globals : Table δ

/-- Run a check. -/
def Job.run (job : Job δ) (engine : Engine δ) : Except EngineFailure (CheckResult δ) :=
  engine.check job.roots job.globals

/-- What is left of a pass after its first step. -/
inductive Plan (δ : Type) where
  | done (report : Report)
  | todo (job : Job δ)

/-- Everything known about a workspace. -/
structure Analyzer (δ : Type) where
  store : Store δ
  /-- The definitions as last checked. -/
  checked : Table δ
  /-- The records of the last check, by file. -/
  records : Table (List Record)
  /-- The files whose current text does not parse. -/
  failures : Table Record
  /-- The files left out of the last rebuild. -/
  clashes : Table Record
  /-- The warnings on hidden definitions, by file. -/
  hidden : Table (List Record)

/-- The record of a text that does not parse. -/
def Rejection.record (uri : String) (failure : Rejection) : Record :=
  .error uri (.empty failure.offset) failure.message

/-- The warning on a definition of `name` that the one in `owner` overrides. -/
def alreadyDefined (file : String) (origin : Span) (name owner : String) : Record :=
  ⟨file, .warning, origin, "`" ++ name ++ "` is already defined in " ++ owner ++ "\n"⟩

/-- Append a value to the list stored under a key, which is empty if there is none. -/
def pushAt (table : Table (List α)) (key : String) (value : α) : Table (List α) :=
  table.insert key ((table.get? key).getD [] ++ [value])

namespace Analyzer

variable {δ : Type} [Definition δ]

/-- Nothing is known. -/
def empty : Analyzer δ :=
  ⟨.empty, .empty, .empty, .empty, .empty, .empty⟩

/-- The current records of a file. A text that does not parse has just that record. -/
def diagnostics (analyzer : Analyzer δ) (uri : String) : List Record :=
  match analyzer.failures.get? uri with
  | some failure => [failure]
  | none =>
    (analyzer.records.get? uri).getD [] ++ (analyzer.clashes.get? uri).toList ++
      (analyzer.hidden.get? uri).getD []

/-- The report on the given files. -/
def report (analyzer : Analyzer δ) (files : NameSet) : Report :=
  ⟨files, files.toList.flatMap analyzer.diagnostics⟩

/-- The warnings on the hidden definitions of a store, by file. -/
def hiddenRecords (store : Store δ) : Table (List Record) :=
  store.hidden.foldl (fun table (definition, owner) =>
    let file := Definition.file definition
    let record :=
      alreadyDefined file (Definition.origin definition) (Definition.name definition) owner
    pushAt table file record) .empty

/-! ## Starting up -/

/-- Parse a file, where a failing engine counts as a text that does not parse. -/
def parseFile (engine : Engine δ) (uri text : String) : Except Record (Table δ) :=
  match engine.parse uri text with
  | .parsed definitions => .ok (tableOf definitions)
  | .failed failure => .error (failure.record uri)
  | .crashed error => .error (Rejection.record uri ⟨0, error.message⟩)

/-- The files that parse, with their definitions. -/
def parsedFiles (engine : Engine δ) (files : List (String × String)) : List (String × Table δ) :=
  files.filterMap fun (uri, text) => (parseFile engine uri text).toOption.map (uri, ·)

/-- The records of the files that do not parse. -/
def failedFiles (engine : Engine δ) (files : List (String × String)) : List (String × Record) :=
  files.filterMap fun (uri, text) =>
    match parseFile engine uri text with
    | .ok _ => none
    | .error record => some (uri, record)

/-- The warning on a file left out of a rebuild, at the name that is taken. -/
def clashRecord (sets : Table (Table δ)) (clash : NameClash) : Record :=
  let origin := ((sets.get? clash.file).bind (·.get? clash.name)).map Definition.origin
  alreadyDefined clash.file (origin.getD (.empty 0)) clash.name clash.owner

/-- Parse every file, rebuild the global table from them and prepare to check all
of it. -/
def planAll (engine : Engine δ) (analyzer : Analyzer δ) (files : List (String × String)) :
    Job δ × Analyzer δ :=
  let sets := parsedFiles engine files
  let (clashes, store) := analyzer.store.rebuild sets
  let clashRecords := clashes.map fun clash =>
    (clash.file, clashRecord (.ofList sets) clash)
  ({ roots := store.globals.keys
     covered := store.known
     announced := .ofList (files.map (·.1))
     globals := store.globals },
   { store
     checked := .empty
     records := .empty
     failures := .ofList (failedFiles engine files)
     clashes := .ofList clashRecords
     hidden := hiddenRecords store })

/-! ## One change -/

/-- The files that hold one of `names`. -/
def owners (globals : Table δ) (names : List String) : List String :=
  names.filterMap (owner? globals)

/-- Record the definitions of a file that parsed and prepare to check every file
that they may affect: the file itself, those that lose one of its names, those that
get a name back, and those that mention a name that came or went. -/
def planParsed (analyzer : Analyzer δ) (uri : String) (definitions : Table δ) :
    Job δ × Analyzer δ :=
  let losing := owners analyzer.store.globals definitions.keys
  let (affected, store) := analyzer.store.record uri definitions
  let touched := affected.names
  let regaining := owners store.globals (affected.removed.toList ++ store.mentioning touched uri)
  let covered := NameSet.ofList (losing ++ uri :: regaining)
  ({ roots := store.namesIn covered
     covered
     announced := .empty
     globals := store.globals },
   { store
     checked := analyzer.checked.filter fun name _ => !touched.contains name
     records := analyzer.records
     failures := analyzer.failures.erase uri
     clashes := analyzer.clashes.erase uri
     hidden := hiddenRecords store })

/-- Parse the new text of a file and prepare the pass it calls for. If the text
does not parse, the definitions stay and only that is reported. -/
def plan (engine : Engine δ) (analyzer : Analyzer δ) (uri text : String) :
    Except EngineFailure (Plan δ × Analyzer δ) :=
  match engine.parse uri text with
  | .crashed error => .error error
  | .failed failure =>
    let record := failure.record uri
    .ok (.done ⟨.ofList [uri], [record]⟩,
      { analyzer with failures := analyzer.failures.insert uri record })
  | .parsed definitions =>
    let (job, analyzer) := analyzer.planParsed uri (tableOf definitions)
    .ok (.todo job, analyzer)

/-! ## Storing the outcome -/

/-- Store a record of a known file. In a file that the job does not cover, a record
that is there already is not repeated. -/
def addRecord (known covered : NameSet) (records : Table (List Record)) (record : Record) :
    Table (List Record) :=
  if known.contains record.file &&
      (covered.contains record.file || !((records.get? record.file).getD []).contains record) then
    pushAt records record.file record
  else records

/-- The definitions as checked now. One whose name its file has lost is dropped. -/
def mergeChecked (globals checked : Table δ) (definitions : List δ) : Table δ :=
  (definitions.foldl (fun table definition => table.insert (Definition.name definition) definition)
    checked).filter fun name definition =>
      owner? globals name == some (Definition.file definition)

/-- The records after a check: those of covered files are replaced. -/
def mergeRecords (known covered : NameSet) (records : Table (List Record))
    (report : List Record) : Table (List Record) :=
  let cleared := covered.toList.foldl (fun records file => records.insert file []) records
  (report.foldl (addRecord known covered) cleared).filter fun file _ => known.contains file

/-- Store what a job came to and report on every known file. If the engine failed,
nothing changes. -/
def commit (analyzer : Analyzer δ) (job : Job δ) (outcome : Except EngineFailure (CheckResult δ)) :
    Except EngineFailure (Report × Analyzer δ) :=
  match outcome with
  | .error error => .error error
  | .ok result =>
    let known := analyzer.store.known
    let analyzer := { analyzer with
      checked :=
        mergeChecked analyzer.store.globals analyzer.checked result.definitions
      records := mergeRecords known job.covered analyzer.records result.report }
    let files := (known.addAll analyzer.failures.keys).union job.announced
    .ok (analyzer.report files, analyzer)

/-! ## Whole passes -/

/-- Run a job and store what it comes to. If the engine fails, the state stays. -/
def finish (engine : Engine δ) (analyzer : Analyzer δ) (job : Job δ) :
    Except EngineFailure Report × Analyzer δ :=
  match analyzer.commit job (job.run engine) with
  | .error error => (.error error, analyzer)
  | .ok (report, analyzer) => (.ok report, analyzer)

/-- The whole pass for a change of a file. -/
def analyze (engine : Engine δ) (analyzer : Analyzer δ) (uri text : String) :
    Except EngineFailure Report × Analyzer δ :=
  match analyzer.plan engine uri text with
  | .error error => (.error error, analyzer)
  | .ok (.done report, analyzer) => (.ok report, analyzer)
  | .ok (.todo job, analyzer) => analyzer.finish engine job

/-- The whole first pass over the given files. -/
def startup (engine : Engine δ) (analyzer : Analyzer δ) (files : List (String × String)) :
    Except EngineFailure Report × Analyzer δ :=
  let (job, analyzer) := analyzer.planAll engine files
  analyzer.finish engine job

/-! ## Queries -/

/-- The definition of a name, as checked if it has been. -/
def lookup (analyzer : Analyzer δ) (name : String) : Option δ :=
  (analyzer.checked.get? name).or (analyzer.store.globals.get? name)

/-- The line to show for the word at `offset` in `text`, the current text of `uri`:
a global definition, or else a name bound inside the definition at that place. -/
def hover (analyzer : Analyzer δ) (uri text : String) (offset : Nat) : Option String := do
  let word ← Word.at? text offset
  match word.candidates.findSome? analyzer.lookup with
  | some definition => return Definition.signature definition
  | none =>
    let definitions ← analyzer.store.fileDefinitions? uri
    let around := definitions.values.filter fun definition =>
      (Definition.extent definition).touches offset
    around.findSome? fun definition => word.candidates.findSome? (Definition.binder? definition)

/-- The global definition that the word at `offset` in `text` names. -/
def definition (analyzer : Analyzer δ) (text : String) (offset : Nat) : Option δ := do
  let word ← Word.at? text offset
  word.candidates.findSome? analyzer.store.globals.get?

/-- Every global definition, in ascending order of the names. -/
def completions (analyzer : Analyzer δ) : List δ :=
  analyzer.store.globals.keys.filterMap analyzer.lookup

end Analyzer

end LiveCheck
