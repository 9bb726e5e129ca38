import LiveCheck.Proofs.Analyzer.Merge
import LiveCheck.Proofs.Engine.Local
import LiveCheck.Proofs.Store.Record
import Mathlib.Data.List.Basic

/-!
Analyzers that are up to date, and jobs that bring them there.

An analyzer is `UpToDate` when the records of every known file and the definitions as
checked are those of a check of the whole global table. A job is `Planned` when it
covers every file that is not; running it with an engine that works definition by
definition (`Engine.Local`) leaves nothing out of date (`Planned.finish`).
-/

namespace LiveCheck

variable {δ : Type} [Definition δ]

/-- The part of a table that belongs to `file`. -/
def heldBy (globals : Table δ) (file : String) : Table δ :=
  globals.filter fun _ definition => Definition.file definition == file

/-- The records of a file as a check of the whole table gives them: those of each
definition the file holds, in ascending order of the names. -/
def recordsInFull (diag : δ → Table δ → List Record) (globals : Table δ) (file : String) :
    List Record :=
  (heldBy globals file).values.flatMap (diag · globals)

theorem get?_heldBy {globals : Table δ} {file name : String} {definition : δ} :
    (heldBy globals file).get? name = some definition ↔
      globals.get? name = some definition ∧ Definition.file definition = file := by
  rw [heldBy, Table.get?_filter, Option.filter_eq_some_iff, beq_iff_eq]

/-- Every contribution has its definitions under their own names. -/
def Store.Keyed (store : Store δ) : Prop :=
  ∀ uri contribution, store.files.get? uri = some contribution →
    ∀ name definition, contribution.definitions.get? name = some definition →
      Definition.name definition = name

theorem Store.Keyed.globals {store : Store δ} (keyed : store.Keyed) (coherent : store.Coherent)
    {name : String} {definition : δ} (held : store.globals.get? name = some definition) :
    Definition.name definition = name := by
  obtain ⟨contribution, entry, defined⟩ := coherent.entry_of_globals held
  exact keyed _ contribution entry name definition defined

namespace Analyzer

variable {engine : Engine δ} {diag : δ → Table δ → List Record} {out : δ → Table δ → δ}
  {analyzer : Analyzer δ} {job : Job δ}

/-- What an analyzer has is what a check of the whole global table would give. -/
structure UpToDate (diag : δ → Table δ → List Record) (out : δ → Table δ → δ)
    (analyzer : Analyzer δ) : Prop where
  coherent : analyzer.store.Coherent
  keyed : analyzer.store.Keyed
  records : ∀ file, analyzer.store.known.contains file = true →
    (analyzer.records.get? file).getD [] = recordsInFull diag analyzer.store.globals file
  checked : ∀ name, analyzer.checked.get? name =
    (analyzer.store.globals.get? name).map (out · analyzer.store.globals)

/-- A job that covers every file that is not up to date. -/
structure Planned (diag : δ → Table δ → List Record) (out : δ → Table δ → δ)
    (analyzer : Analyzer δ) (job : Job δ) : Prop where
  coherent : analyzer.store.Coherent
  keyed : analyzer.store.Keyed
  globals_eq : job.globals = analyzer.store.globals
  roots_eq : job.roots = analyzer.store.namesIn job.covered
  records : ∀ file, analyzer.store.known.contains file = true →
    ¬ job.covered.contains file = true →
    (analyzer.records.get? file).getD [] = recordsInFull diag analyzer.store.globals file
  checked : ∀ name definition, analyzer.store.globals.get? name = some definition →
    ¬ job.covered.contains (Definition.file definition) = true →
    analyzer.checked.get? name = some (out definition analyzer.store.globals)

/-! ## Running a job -/

/-- The definitions that a job checks. -/
def coveredPart (globals : Table δ) (covered : NameSet) : Table δ :=
  globals.filter fun _ definition => covered.contains (Definition.file definition)

theorem get?_coveredPart {globals : Table δ} {covered : NameSet} {name : String}
    {definition : δ} :
    (coveredPart globals covered).get? name = some definition ↔
      globals.get? name = some definition ∧
        covered.contains (Definition.file definition) = true := by
  rw [coveredPart, Table.get?_filter, Option.filter_eq_some_iff]

theorem get?_coveredPart_of_uncovered {globals : Table δ} {covered : NameSet} {name : String}
    {definition : δ} (held : globals.get? name = some definition)
    (uncovered : ¬ covered.contains (Definition.file definition) = true) :
    (coveredPart globals covered).get? name = none := by
  rw [Option.eq_none_iff_forall_ne_some]
  intro other found
  obtain ⟨held', isCovered⟩ := get?_coveredPart.1 found
  rw [held] at held'
  cases held'
  exact uncovered isCovered

theorem filterMap_namesIn (store : Store δ) (covered : NameSet) :
    (store.namesIn covered).filterMap store.globals.get? =
      (coveredPart store.globals covered).values := by
  rw [Store.namesIn, Table.filterMap_get?_keys fun entry mem => (List.mem_filter.1 mem).1]
  rfl

/-- The records of one definition are all about its own file. -/
theorem filter_diag (reports : engine.Reports diag) (definition : δ) (globals : Table δ)
    (file : String) :
    (diag definition globals).filter (·.file == file) =
      if Definition.file definition = file then diag definition globals else [] := by
  split
  · next eq =>
    rw [List.filter_eq_self]
    intro record mem
    rw [reports.diag_file definition globals record mem, eq, beq_self_eq_true]
  · next ne =>
    rw [List.filter_eq_nil_iff]
    intro record mem about
    exact ne (reports.diag_file definition globals record mem ▸ beq_iff_eq.1 about)

/-- Among the records of the covered definitions, those of a covered file are the
records of the definitions it holds. -/
theorem filter_records_coveredPart (reports : engine.Reports diag) (globals : Table δ)
    {covered : NameSet} {file : String} (isCovered : covered.contains file = true) :
    ((coveredPart globals covered).values.flatMap (diag · globals)).filter (·.file == file) =
      recordsInFull diag globals file := by
  rw [recordsInFull, heldBy, coveredPart, Table.values_filter globals fun definition =>
    covered.contains (Definition.file definition), Table.values_filter globals fun definition =>
    Definition.file definition == file]
  induction globals.values with
  | nil => rfl
  | cons first rest ih =>
      by_cases eq : Definition.file first = file
      · simp only [List.filter_cons, eq, isCovered, beq_self_eq_true, if_true,
          List.flatMap_cons, List.filter_append, filter_diag reports, ih]
      · have skipped : (Definition.file first == file) = false := beq_eq_false_iff_ne.2 eq
        by_cases other : covered.contains (Definition.file first) = true
        · simp only [List.filter_cons, other, skipped, if_true, List.flatMap_cons,
            List.filter_append, filter_diag reports, if_neg eq, List.nil_append, ih,
            Bool.false_eq_true, if_false]
        · simp only [List.filter_cons, other, skipped, ih, Bool.false_eq_true, if_false]

/-- The records of the covered definitions are about covered files. -/
theorem inside_coveredPart (reports : engine.Reports diag) {globals : Table δ}
    (covered : NameSet) :
    ∀ record ∈ (coveredPart globals covered).values.flatMap (diag · globals),
      covered.contains record.file = true := by
  intro record mem
  obtain ⟨definition, mem, about⟩ := List.mem_flatMap.1 mem
  obtain ⟨name, found⟩ := Table.mem_values.1 mem
  rw [reports.diag_file definition globals record about]
  exact (get?_coveredPart.1 found).2

/-- Storing the outcome of a job gives every known file that it covers the records of a
check of the whole table, and leaves the others alone. -/
theorem getD_records_of_run (reports : engine.Reports diag)
    (globals_eq : job.globals = analyzer.store.globals)
    (roots_eq : job.roots = analyzer.store.namesIn job.covered) {result : CheckResult δ}
    (ran : job.run engine = .ok result) {file : String}
    (isKnown : analyzer.store.known.contains file = true) :
    ((mergeRecords analyzer.store.known job.covered analyzer.records result.report).get?
      file).getD [] =
      if job.covered.contains file then recordsInFull diag analyzer.store.globals file
      else (analyzer.records.get? file).getD [] := by
  have report : result.report = (coveredPart analyzer.store.globals job.covered).values.flatMap
      (diag · analyzer.store.globals) := by
    rw [reports.check_report _ _ _ ran, globals_eq, roots_eq, filterMap_namesIn]
  rw [report, getD_mergeRecords (inside_coveredPart reports job.covered) _ isKnown]
  split
  · next isCovered => exact filter_records_coveredPart reports _ isCovered
  · rfl

/-- What a job makes of the definitions it checks. -/
def checkedPart (out : δ → Table δ → δ) (globals : Table δ) (covered : NameSet) : Table δ :=
  (coveredPart globals covered).mapValues fun _ definition => out definition globals

theorem get?_checkedPart (out : δ → Table δ → δ) (globals : Table δ) (covered : NameSet)
    (name : String) :
    (checkedPart out globals covered).get? name =
      ((coveredPart globals covered).get? name).map (out · globals) :=
  Table.get?_mapValues _ _ name

theorem named_checkedPart (piecewise : engine.Piecewise diag out) {globals : Table δ}
    (named : ∀ name definition, globals.get? name = some definition →
      Definition.name definition = name) (covered : NameSet) :
    ∀ name definition, (checkedPart out globals covered).get? name = some definition →
      Definition.name definition = name := by
  intro name definition found
  rw [get?_checkedPart, Option.map_eq_some_iff] at found
  obtain ⟨source, found, rfl⟩ := found
  rw [piecewise.out_name]
  exact named name source (get?_coveredPart.1 found).1

theorem run_eq (piecewise : engine.Piecewise diag out)
    (globals_eq : job.globals = analyzer.store.globals)
    (roots_eq : job.roots = analyzer.store.namesIn job.covered) :
    job.run engine = .ok ⟨(checkedPart out analyzer.store.globals job.covered).values,
      (coveredPart analyzer.store.globals job.covered).values.flatMap
        (diag · analyzer.store.globals)⟩ := by
  have values : (checkedPart out analyzer.store.globals job.covered).values =
      (coveredPart analyzer.store.globals job.covered).values.map
        (out · analyzer.store.globals) := by
    simp only [checkedPart, Table.values, Table.mapValues, List.map_map, Function.comp_def]
  rw [Job.run, piecewise.check_eq, globals_eq, roots_eq, filterMap_namesIn, values]

section Finish

variable (piecewise : engine.Piecewise diag out)
  (globals_eq : job.globals = analyzer.store.globals)
  (roots_eq : job.roots = analyzer.store.namesIn job.covered)

include piecewise globals_eq roots_eq

theorem getD_records_finish {file : String}
    (isKnown : analyzer.store.known.contains file = true) :
    ((analyzer.finish engine job).2.records.get? file).getD [] =
      if job.covered.contains file then recordsInFull diag analyzer.store.globals file
      else (analyzer.records.get? file).getD [] := by
  have ran := run_eq piecewise globals_eq roots_eq
  rw [finish, ran]
  exact getD_records_of_run piecewise.reports globals_eq roots_eq ran isKnown

/-- After a job, what it checked stands as it was checked. Any other definition that was
stored stays if its file holds the name. -/
theorem get?_checked_finish (named : ∀ name definition,
      analyzer.store.globals.get? name = some definition → Definition.name definition = name)
    (name : String) :
    (analyzer.finish engine job).2.checked.get? name =
      match analyzer.store.globals.get? name with
      | none => none
      | some definition =>
        if job.covered.contains (Definition.file definition) then
          some (out definition analyzer.store.globals)
        else (analyzer.checked.get? name).filter fun checked =>
          some (Definition.file definition) == some (Definition.file checked) := by
  have stored : (analyzer.finish engine job).2.checked = mergeChecked analyzer.store.globals
      analyzer.checked (checkedPart out analyzer.store.globals job.covered).values := by
    rw [finish, run_eq piecewise globals_eq roots_eq]
    rfl
  rw [stored, get?_mergeChecked (named_checkedPart piecewise named job.covered),
    get?_checkedPart, owner?]
  cases held : analyzer.store.globals.get? name with
  | none =>
      rw [Option.map_none, Option.filter_eq_none_iff]
      intro definition _ owned
      cases owned
  | some definition =>
      rw [Option.map_some]
      by_cases isCovered : job.covered.contains (Definition.file definition) = true
      · rw [get?_coveredPart.2 ⟨held, isCovered⟩, Option.map_some, Option.some_or,
          Option.filter_some, piecewise.out_file, if_pos (beq_self_eq_true _)]
        exact (if_pos isCovered).symm
      · rw [get?_coveredPart_of_uncovered held isCovered, Option.map_none, Option.none_or]
        exact (if_neg isCovered).symm

end Finish

/-- Running a job that covers all that is not up to date brings the analyzer up to
date. -/
theorem Planned.finish (engineLocal : engine.Local diag out)
    (planned : Planned diag out analyzer job) :
    UpToDate diag out (analyzer.finish engine job).2 := by
  obtain ⟨coherent, keyed, globals_eq, roots_eq, records, checked⟩ := planned
  have piecewise := engineLocal.piecewise
  have store : (analyzer.finish engine job).2.store = analyzer.store := by
    rw [Analyzer.finish, run_eq piecewise globals_eq roots_eq]
    rfl
  refine ⟨store ▸ coherent, store ▸ keyed, ?_, ?_⟩
  · intro file isKnown
    rw [store] at isKnown ⊢
    rw [getD_records_finish piecewise globals_eq roots_eq isKnown]
    split
    · rfl
    · next uncovered => exact records file isKnown uncovered
  · intro name
    rw [store, get?_checked_finish piecewise globals_eq roots_eq
      (fun _ _ held => keyed.globals coherent held)]
    cases held : analyzer.store.globals.get? name with
    | none => rfl
    | some definition =>
        dsimp only
        split
        · rfl
        · next uncovered =>
          rw [checked name definition held uncovered, Option.filter_some, engineLocal.out_file,
            if_pos (beq_self_eq_true _)]
          rfl

end Analyzer

end LiveCheck
