import LiveCheck.Proofs.Analyzer.Interleaving
import LiveCheck.Proofs.Analyzer.Report

/-!
Reports are complete, whatever engine is at work and in whatever order passes are planned
and stored.

The known files are those that ever parsed (`contains_known_run`), since no plan forgets one,
and every record is kept under the file it is about (`labelled_run`), although an engine may
report on any file. A job that is stored is reported on with all known files, all files
that do not parse and the files its pass was started with, and grouping that report by file
gives each of them exactly its current records (`report_complete`).
-/

namespace LiveCheck

variable {δ : Type} [Definition δ]

/-- The texts that an event has parsed, with their files. -/
def AnalysisEvent.texts : AnalysisEvent δ → List (String × String)
  | .planAll files => files
  | .plan uri text => [(uri, text)]
  | .commit _ _ => []

/-- One of some texts is a text of `file` that parses. -/
def Engine.Parses (engine : Engine δ) (texts : List (String × String)) (file : String) : Prop :=
  ∃ text definitions, (file, text) ∈ texts ∧ engine.parse file text = .parsed definitions

omit [Definition δ] in
theorem Engine.not_parses_nil {engine : Engine δ} {file : String} : ¬ engine.Parses [] file := by
  intro parses
  obtain ⟨text, definitions, mem, -⟩ := parses
  cases mem

omit [Definition δ] in
theorem Engine.parses_singleton {engine : Engine δ} {uri text file : String} :
    engine.Parses [(uri, text)] file ↔
      file = uri ∧ ∃ definitions, engine.parse uri text = .parsed definitions := by
  constructor
  · intro parses
    obtain ⟨_, definitions, mem, parsed⟩ := parses
    cases List.mem_singleton.1 mem
    exact ⟨rfl, definitions, parsed⟩
  · intro parts
    obtain ⟨rfl, definitions, parsed⟩ := parts
    exact ⟨text, definitions, List.mem_singleton.2 rfl, parsed⟩

omit [Definition δ] in
theorem Engine.parses_append {engine : Engine δ} {first second : List (String × String)}
    {file : String} :
    engine.Parses (first ++ second) file ↔
      engine.Parses first file ∨ engine.Parses second file := by
  simp only [Engine.Parses, List.mem_append, or_and_right, exists_or]

namespace Analyzer

variable {engine : Engine δ} {analyzer : Analyzer δ} {file : String}

/-! ## Known files -/

/-- An event makes the files known that parse. -/
theorem contains_known_step (event : AnalysisEvent δ) :
    (analyzer.step engine event).store.known.contains file = true ↔
      engine.Parses event.texts file ∨ analyzer.store.known.contains file = true := by
  cases event with
  | planAll files =>
      show (analyzer.store.rebuild (parsedFiles engine files)).2.known.contains file = true ↔ _
      rw [Store.contains_known_rebuild, mem_map_parsedFiles]
      rfl
  | plan uri text =>
      rw [step_plan, AnalysisEvent.texts, Engine.parses_singleton]
      cases engine.parse uri text with
      | parsed definitions =>
          refine Store.contains_record_known.trans (or_congr_left ?_)
          exact (and_iff_left ⟨definitions, rfl⟩).symm
      | failed failure => simp
      | crashed error => simp
  | commit job outcome =>
      rw [AnalysisEvent.texts]
      cases outcome with
      | error failure => simp [step, commit, Engine.not_parses_nil]
      | ok result => simp [step, commit, Engine.not_parses_nil]

theorem contains_known_foldl (events : List (AnalysisEvent δ)) :
    (events.foldl (step engine) analyzer).store.known.contains file = true ↔
      engine.Parses (events.flatMap AnalysisEvent.texts) file ∨
        analyzer.store.known.contains file = true := by
  induction events generalizing analyzer with
  | nil => simp [Engine.not_parses_nil]
  | cons event rest ih =>
      rw [List.foldl_cons, ih, contains_known_step, List.flatMap_cons, Engine.parses_append,
        or_left_comm, or_assoc]

/-- The known files are those that ever parsed. -/
theorem contains_known_run (events : List (AnalysisEvent δ)) :
    (run engine events).store.known.contains file = true ↔
      engine.Parses (events.flatMap AnalysisEvent.texts) file := by
  have unknown : ¬ (Analyzer.empty : Analyzer δ).store.known.contains file = true := by
    intro known
    cases known
  rw [run, contains_known_foldl]
  exact or_iff_left unknown

/-! ## Records under their own file -/

theorem Labelled.step (labelled : analyzer.Labelled) (engine : Engine δ)
    (event : AnalysisEvent δ) : (analyzer.step engine event).Labelled := by
  cases event with
  | planAll files => exact labelled_planAll engine analyzer files
  | plan uri text =>
      rw [step_plan]
      split
      · exact labelled.planParsed uri _
      · next failure _ =>
        exact ⟨labelled.records, labelled.failures.insert (failure.record uri), labelled.clashes,
          labelled.hidden⟩
      · exact labelled
  | commit job outcome =>
      cases outcome with
      | error failure => exact labelled
      | ok result =>
          exact ⟨labelled.records.mergeRecords _ _ _, labelled.failures, labelled.clashes,
            labelled.hidden⟩

theorem labelled_run (engine : Engine δ) (events : List (AnalysisEvent δ)) :
    (run engine events).Labelled :=
  List.foldlRecOn events _ labelled_empty fun _ labelled event _ => labelled.step engine event

/-! ## Reports -/

omit [Definition δ] in
/-- Grouping a report by file gives each of its files its current records. -/
theorem Labelled.get?_byFile_report (labelled : analyzer.Labelled) (files : NameSet)
    (resolve : String → Nat → Position) (file : String) :
    ((analyzer.report files).byFile resolve).get? file =
      if files.contains file then
        some ((analyzer.diagnostics file).map (Record.resolve resolve)) else none := by
  rw [Report.byFile, get?_diagnosticsByFile]
  show (if files.contains file = true then _ else _) = _
  split
  · next reported => rw [labelled.filter_report reported]
  · rfl

omit [Definition δ] in
theorem Labelled.contains_of_mem_report (labelled : analyzer.Labelled) {files : NameSet}
    {record : Record} (mem : record ∈ (analyzer.report files).records) :
    files.contains record.file = true := by
  obtain ⟨file, reported, mem⟩ := List.mem_flatMap.1 mem
  rw [labelled.file_of_mem_diagnostics mem]
  exact NameSet.mem_toList.1 reported

/-- A job was planned in the course of some events, by a pass that was started with the
files `given`. The pass for a change is started with none. -/
inductive Issued (engine : Engine δ) :
    List (AnalysisEvent δ) → Job δ → (given : List String) → Prop
  | planAll (before after : List (AnalysisEvent δ)) (files : List (String × String)) :
    Issued engine (before ++ .planAll files :: after) ((run engine before).planAll engine files).1
      (files.map (·.1))
  | plan (before after : List (AnalysisEvent δ)) {uri text : String} {job : Job δ}
    {next : Analyzer δ} : (run engine before).plan engine uri text = .ok (.todo job, next) →
    Issued engine (before ++ .plan uri text :: after) job []

theorem Issued.contains_announced {events : List (AnalysisEvent δ)} {job : Job δ}
    {given : List String} (issued : Issued engine events job given) :
    job.announced.contains file = true ↔ file ∈ given := by
  cases issued with
  | planAll before after files => exact NameSet.contains_ofList _ _
  | @plan before after uri text _ next planned =>
      unfold Analyzer.plan at planned
      cases parsed : engine.parse uri text with
      | parsed definitions =>
          rw [parsed] at planned
          cases planned
          constructor
          · intro announced
            cases announced
          · intro mem
            cases mem
      | failed failure =>
          rw [parsed] at planned
          cases planned
      | crashed error =>
          rw [parsed] at planned
          cases planned

/-- Storing an outcome of a job reports on exactly the files that ever parsed, those that do
not parse and those that its pass was started with. Grouping the report by file gives each
of them its current records, and no record is about any other file. -/
theorem report_complete {events : List (AnalysisEvent δ)} {job : Job δ} {given : List String}
    (issued : Issued engine events job given) (result : CheckResult δ)
    (resolve : String → Nat → Position) :
    ∃ report next, (run engine events).commit job (.ok result) = .ok (report, next) ∧
      (∀ file, report.files.contains file = true ↔
        engine.Parses (events.flatMap AnalysisEvent.texts) file ∨
          next.failures.contains file = true ∨ file ∈ given) ∧
      (∀ file, (report.byFile resolve).get? file =
        if report.files.contains file then
          some ((next.diagnostics file).map (Record.resolve resolve)) else none) ∧
      ∀ record ∈ report.records, report.files.contains record.file = true := by
  have labelled := (labelled_run engine events).step engine (.commit job (.ok result))
  refine ⟨_, _, rfl, ?_, ?_, ?_⟩
  · intro file
    refine contains_reported.trans ?_
    rw [contains_known_run, issued.contains_announced]
  · exact labelled.get?_byFile_report _ resolve
  · exact fun record => labelled.contains_of_mem_report

/-- A pass over two files is planned, and a change of a third before it is stored. -/
def overtaken : List (AnalysisEvent OutlineItem) :=
  [.planAll [("a", "x: y"), ("b", "!")], .plan "c" "y"]

/-- The report is on all three files, and a record about a fourth is not part of it. -/
theorem report_complete_of_overtaken :
    let job := (Analyzer.empty.planAll Outline.engine [("a", "x: y"), ("b", "!")]).1
    let undefined : Record := .error "a" ⟨3, 4⟩ "Undefined reference: y\n"
    let stray : Record := .error "z" ⟨0, 1⟩ "stray"
    let resolve : String → Nat → Position := fun _ offset => ⟨0, offset⟩
    Issued Outline.engine overtaken job ["a", "b"] ∧
      ∃ report next,
        (run Outline.engine overtaken).commit job (.ok ⟨[], [stray, undefined]⟩) =
          .ok (report, next) ∧
        (∀ file ∈ ["a", "b", "c"], report.files.contains file = true) ∧
        (report.byFile resolve).get? "a" = some [undefined.resolve resolve] ∧
        (report.byFile resolve).get? "z" = none := by
  intro job undefined stray resolve
  have issued : Issued Outline.engine overtaken job ["a", "b"] :=
    .planAll [] [.plan "c" "y"] [("a", "x: y"), ("b", "!")]
  obtain ⟨report, next, stored, files, grouped, -⟩ :=
    report_complete issued ⟨[], [stray, undefined]⟩ resolve
  refine ⟨issued, report, next, stored, ?_, ?_, ?_⟩
  · cases stored
    decide +kernel
  · rw [grouped, (files "a").2 (Or.inr (Or.inr List.mem_cons_self))]
    cases stored
    decide +kernel
  · rw [grouped]
    cases stored
    decide +kernel

end Analyzer

end LiveCheck
