import LiveCheck.Proofs.Analyzer.Incremental

/-!
Passes that fail, and what they leave behind.

A pass records the parse of its file before it checks anything. If the check then
fails, the files it was to cover keep their old records against the new global table:
they are due. A file stays due until a pass that covers it is stored
(`dueAfter`). Every other known file has the records of a check of the whole table
after every history of passes (`Settled`); a file that is due need not have them,
although later passes were stored.
-/

namespace LiveCheck

namespace Analyzer

variable {δ : Type} [Definition δ] {engine : Engine δ} {diag : δ → Table δ → List Record}
  {analyzer : Analyzer δ} {job : Job δ} {due : NameSet}

/-! ## Files that are due -/

omit [Definition δ] in
/-- The files that are due after a job: if it fails, all that it covers and those that
were due before; if it is stored, those that were due before and are not covered. -/
def dueAfter (engine : Engine δ) (due : NameSet) (job : Job δ) : NameSet :=
  match job.run engine with
  | .error _ => due.union job.covered
  | .ok _ => due.filter fun file _ => !job.covered.contains file

/-- The files that are due after the pass for a change. A pass that ends with its parse
runs no job. -/
def dueAfterChange (engine : Engine δ) (analyzer : Analyzer δ) (due : NameSet)
    (uri text : String) : NameSet :=
  match analyzer.plan engine uri text with
  | .ok (.todo job, _) => dueAfter engine due job
  | _ => due

/-- Every known file that is not due has the records of a check of the whole table. -/
structure Settled (diag : δ → Table δ → List Record) (due : NameSet) (analyzer : Analyzer δ) :
    Prop where
  coherent : analyzer.store.Coherent
  keyed : analyzer.store.Keyed
  records : ∀ file, analyzer.store.known.contains file = true → ¬ due.contains file = true →
    (analyzer.records.get? file).getD [] = recordsInFull diag analyzer.store.globals file

/-! ## One pass -/

/-- Running a job settles what it covers if it is stored, and changes nothing if it
fails. -/
theorem Settled.finish (fallible : engine.Fallible diag)
    (settled : Settled diag (due.union job.covered) analyzer)
    (globals_eq : job.globals = analyzer.store.globals)
    (roots_eq : job.roots = analyzer.store.namesIn job.covered) :
    Settled diag (dueAfter engine due job) (analyzer.finish engine job).2 := by
  obtain ⟨coherent, keyed, records⟩ := settled
  unfold dueAfter Analyzer.finish commit
  cases ran : job.run engine with
  | error failure => exact ⟨coherent, keyed, records⟩
  | ok result =>
      refine ⟨coherent, keyed, ?_⟩
      intro file isKnown notDue
      refine (getD_records_of_run fallible.reports globals_eq roots_eq ran isKnown).trans ?_
      split
      · rfl
      · next uncovered =>
        apply records file isKnown
        rw [NameSet.contains_union, not_or]
        refine ⟨?_, uncovered⟩
        intro wasDue
        apply notDue
        have left : (!job.covered.contains file) = true := by simpa using uncovered
        exact (NameSet.contains_filter due _ file).2 ⟨wasDue, left⟩

/-- The plan for a change leaves nothing due but what it covers. -/
theorem Settled.planParsed (fallible : engine.Fallible diag) (settled : Settled diag due analyzer)
    {uri : String} {definitions : Table δ} (filed : Store.Filed uri definitions)
    (named : ∀ name definition, definitions.get? name = some definition →
      Definition.name definition = name) :
    Settled diag (due.union (analyzer.planParsed uri definitions).1.covered)
      (analyzer.planParsed uri definitions).2 := by
  obtain ⟨coherent, keyed, records⟩ := settled
  refine ⟨coherent.record filed, keyed_record keyed uri named, ?_⟩
  intro file isKnown notDue
  rw [NameSet.contains_union, not_or] at notDue
  obtain ⟨notDue, uncovered⟩ := notDue
  rw [planParsed_store] at isKnown ⊢
  rw [planParsed_records, records file (known_of_uncovered isKnown uncovered) notDue,
    recordsInFull_of_uncovered fallible filed coherent keyed named uncovered]

theorem Settled.analyze (fallible : engine.Fallible diag) (settled : Settled diag due analyzer)
    (uri text : String) :
    Settled diag (dueAfterChange engine analyzer due uri text)
      (analyzer.analyze engine uri text).2 := by
  unfold dueAfterChange Analyzer.analyze plan
  cases parsed : engine.parse uri text with
  | crashed error => exact settled
  | failed failure => exact ⟨settled.coherent, settled.keyed, settled.records⟩
  | parsed definitions =>
      exact (settled.planParsed fallible (filed_tableOf fallible.filed parsed)
        fun _ _ found => (mem_of_get?_tableOf found).2).finish fallible rfl rfl

/-- A first pass covers every known file, so nothing else can be due after it. -/
theorem settled_startup (fallible : engine.Fallible diag) (analyzer : Analyzer δ) (due : NameSet)
    {files : List (String × String)} (distinct : (files.map (·.1)).Nodup) :
    Settled diag (dueAfter engine due (analyzer.planAll engine files).1)
      (analyzer.startup engine files).2 := by
  have coherent := coherent_planAll fallible.filed analyzer distinct
  refine Settled.finish fallible ⟨coherent, keyed_planAll engine analyzer files, ?_⟩ rfl
    (namesIn_known coherent).symm
  intro file isKnown notDue
  rw [NameSet.contains_union, not_or] at notDue
  exact absurd isKnown notDue.2

/-! ## Every history -/

/-- The analyzers that passes lead to, any of which may fail, with the files that are
due. -/
inductive Attempted (engine : Engine δ) : Analyzer δ → NameSet → Prop
  | empty : Attempted engine .empty .empty
  | startup {analyzer : Analyzer δ} {due : NameSet} {files : List (String × String)} :
    Attempted engine analyzer due → (files.map (·.1)).Nodup →
    Attempted engine (analyzer.startup engine files).2
      (dueAfter engine due (analyzer.planAll engine files).1)
  | analyze {analyzer : Analyzer δ} {due : NameSet} (uri text : String) :
    Attempted engine analyzer due →
    Attempted engine (analyzer.analyze engine uri text).2
      (dueAfterChange engine analyzer due uri text)

theorem Attempted.settled (fallible : engine.Fallible diag)
    (attempted : Attempted engine analyzer due) : Settled diag due analyzer := by
  induction attempted with
  | empty =>
      refine ⟨Store.coherent_of_empty .empty 0, ?_, ?_⟩
      · intro uri contribution entry
        cases entry
      · intro file isKnown
        cases isKnown
  | startup _ distinct _ => exact settled_startup fallible _ _ distinct
  | analyze uri text _ ih => exact ih.analyze fallible uri text

/-- Whichever passes failed, a known file has the records of a check of the whole global
table unless it is due. -/
theorem Attempted.records_eq_unless_due (fallible : engine.Fallible diag)
    (attempted : Attempted engine analyzer due) (file : String)
    (isKnown : analyzer.store.known.contains file = true) (notDue : ¬ due.contains file = true) :
    (analyzer.records.get? file).getD [] = recordsInFull diag analyzer.store.globals file :=
  (attempted.settled fallible).records file isKnown notDue

/-- A file that mentions a name of another, whose new text drops the name and makes the
check fail. -/
def afterFailure : Analyzer OutlineItem :=
  let first := (Analyzer.empty.analyze Outline.engine "a" "x: y").2
  let second := (first.analyze Outline.engine "b" "y").2
  (second.analyze Outline.engine "b" "panic").2

theorem attempted_afterFailure :
    Attempted Outline.engine afterFailure (.ofList ["a", "b"]) :=
  ((Attempted.empty.analyze "a" "x: y").analyze "b" "y").analyze "b" "panic"

/-- Analyzing the due file again settles it, while the other stays due. -/
theorem records_eq_once_covered :
    let undefined : Record := .error "a" ⟨3, 4⟩ "Undefined reference: y\n"
    let again := afterFailure.analyze Outline.engine "a" "x: y"
    again.1.isOk = true ∧ again.2.records.get? "a" = some [undefined] ∧
      Attempted Outline.engine again.2 (.ofList ["b"]) ∧
      (again.2.records.get? "a").getD [] =
        recordsInFull (fun item globals => Outline.undefinedRecords globals item)
          again.2.store.globals "a" := by
  intro undefined again
  have attempted : Attempted Outline.engine again.2 (.ofList ["b"]) :=
    attempted_afterFailure.analyze "a" "x: y"
  exact ⟨by decide, by decide, attempted,
    attempted.records_eq_unless_due Outline.engine_fallible "a" (by decide) (by decide)⟩

/-- A pass for a third file is stored, and the due file still has no record of the name
that is gone. -/
theorem due_file_stays_stale :
    let undefined : Record := .error "a" ⟨3, 4⟩ "Undefined reference: y\n"
    let stored := afterFailure.analyze Outline.engine "c" "z"
    Outline.engine.Fallible (fun item globals => Outline.undefinedRecords globals item) ∧
      Attempted Outline.engine stored.2 (.ofList ["a", "b"]) ∧
      stored.1.isOk = true ∧ stored.2.store.known.contains "a" = true ∧
      (stored.2.records.get? "a").getD [] = [] ∧
      recordsInFull (fun item globals => Outline.undefinedRecords globals item)
        stored.2.store.globals "a" = [undefined] := by
  intro undefined stored
  exact ⟨Outline.engine_fallible, attempted_afterFailure.analyze "c" "z", by decide, by decide,
    by decide, by decide⟩

end Analyzer

end LiveCheck
