import LiveCheck.Proofs.Analyzer.Report

/-!
Passes for texts that do not parse.

Such a pass leaves only a record behind, that of its file in the table of failures. Nothing
but the diagnostics of the file is read from there, and the next text of the file that parses
takes it away. So two runs that differ in passes of one file that do not parse keep states
that are the same but for this record (`SameBut`), and a pass that parses makes them equal
(`failures_leave_no_trace`). Until then the record is all that is reported of the file.
-/

namespace LiveCheck

namespace Analyzer

variable {δ : Type} [Definition δ] {engine : Engine δ} {analyzer other : Analyzer δ}
  {uri text : String}

/-- The passes for some texts, each with its file, one after the other. -/
def analyzeAll (engine : Engine δ) (analyzer : Analyzer δ) (changes : List (String × String)) :
    Analyzer δ :=
  changes.foldl (fun analyzer change => (analyzer.analyze engine change.1 change.2).2) analyzer

theorem analyzeAll_cons (change : String × String) (rest : List (String × String)) :
    analyzer.analyzeAll engine (change :: rest) =
      (analyzer.analyze engine change.1 change.2).2.analyzeAll engine rest := rfl

theorem analyzeAll_append (earlier later : List (String × String)) :
    analyzer.analyzeAll engine (earlier ++ later) =
      (analyzer.analyzeAll engine earlier).analyzeAll engine later :=
  List.foldl_append

/-! ## States that differ in one failure -/

/-- Two states that are the same but for the record of a text of `uri` that does not parse. -/
def SameBut (uri : String) (analyzer other : Analyzer δ) : Prop :=
  ∃ failures, other = { analyzer with failures } ∧
    ∀ file, file ≠ uri → failures.get? file = analyzer.failures.get? file

omit [Definition δ] in
theorem SameBut.refl (uri : String) (analyzer : Analyzer δ) : SameBut uri analyzer analyzer :=
  ⟨analyzer.failures, rfl, fun _ _ => rfl⟩

omit [Definition δ] in
/-- Nothing but the diagnostics of the one file is different. -/
theorem SameBut.diagnostics_eq (same : SameBut uri analyzer other) {file : String}
    (elsewhere : file ≠ uri) : other.diagnostics file = analyzer.diagnostics file := by
  obtain ⟨failures, rfl, agree⟩ := same
  simp only [diagnostics, agree file elsewhere]

theorem SameBut.planParsed (same : SameBut uri analyzer other) (file : String)
    (definitions : Table δ) :
    (other.planParsed file definitions).1 = (analyzer.planParsed file definitions).1 ∧
      SameBut uri (analyzer.planParsed file definitions).2
        (other.planParsed file definitions).2 := by
  obtain ⟨failures, rfl, agree⟩ := same
  refine ⟨rfl, failures.erase file, rfl, fun key elsewhere => ?_⟩
  show (failures.erase file).get? key = (analyzer.failures.erase file).get? key
  rw [Table.get?_erase, Table.get?_erase, agree key elsewhere]

/-- A text of the file itself that parses takes the record away. -/
theorem SameBut.planParsed_eq (same : SameBut uri analyzer other) (definitions : Table δ) :
    other.planParsed uri definitions = analyzer.planParsed uri definitions := by
  obtain ⟨failures, rfl, agree⟩ := same
  have erased : failures.erase uri = analyzer.failures.erase uri := by
    apply Table.ext_get?
    intro key
    rw [Table.get?_erase, Table.get?_erase]
    split
    · rfl
    · next elsewhere => exact agree key elsewhere
  unfold Analyzer.planParsed
  dsimp only
  rw [erased]

/-- What a job comes to does not depend on the failures. -/
theorem SameBut.finish (same : SameBut uri analyzer other) (job : Job δ) :
    SameBut uri (analyzer.finish engine job).2 (other.finish engine job).2 := by
  obtain ⟨failures, rfl, agree⟩ := same
  refine ⟨failures, ?_, ?_⟩
  · unfold Analyzer.finish commit
    cases job.run engine <;> rfl
  · rw [finish_failures]
    exact agree

/-- The same pass keeps two states the same but for one record. -/
theorem SameBut.analyze (same : SameBut uri analyzer other) (engine : Engine δ)
    (file text : String) :
    SameBut uri (analyzer.analyze engine file text).2 (other.analyze engine file text).2 := by
  cases parsed : engine.parse file text with
  | parsed definitions =>
      obtain ⟨jobs, planned⟩ := same.planParsed file (tableOf definitions)
      rw [analyze_of_parsed parsed, analyze_of_parsed parsed, jobs]
      exact planned.finish _
  | failed failure =>
      obtain ⟨failures, rfl, agree⟩ := same
      rw [analyze_of_failed parsed, analyze_of_failed parsed]
      refine ⟨failures.insert file (failure.record file), rfl, fun key elsewhere => ?_⟩
      dsimp only
      rw [Table.get?_insert, Table.get?_insert, agree key elsewhere]
  | crashed error =>
      rw [analyze_of_crashed parsed, analyze_of_crashed parsed]
      exact same

/-- A pass that does not parse changes only the record. -/
theorem SameBut.analyze_unparsed (same : SameBut uri analyzer other)
    (unparsed : ∀ definitions, engine.parse uri text ≠ .parsed definitions) :
    SameBut uri analyzer (other.analyze engine uri text).2 := by
  cases parsed : engine.parse uri text with
  | parsed definitions => exact absurd parsed (unparsed definitions)
  | failed failure =>
      obtain ⟨failures, rfl, agree⟩ := same
      rw [analyze_of_failed parsed]
      refine ⟨failures.insert uri (failure.record uri), rfl, fun key elsewhere => ?_⟩
      rw [Table.get?_insert, if_neg elsewhere, agree key elsewhere]
  | crashed error =>
      rw [analyze_of_crashed parsed]
      exact same

/-- A pass that parses comes to the same, with the same report. -/
theorem SameBut.analyze_eq (same : SameBut uri analyzer other) {definitions : List δ}
    (parsed : engine.parse uri text = .parsed definitions) :
    other.analyze engine uri text = analyzer.analyze engine uri text := by
  rw [analyze_of_parsed parsed, analyze_of_parsed parsed, same.planParsed_eq]

/-! ## Runs with passes that do not parse -/

/-- Texts among which others were put, all of the file `uri` and none of which parses. -/
inductive Padded (engine : Engine δ) (uri : String) :
    List (String × String) → List (String × String) → Prop where
  | nil : Padded engine uri [] []
  | keep {plain padded : List (String × String)} (change : String × String)
      (rest : Padded engine uri plain padded) :
      Padded engine uri (change :: plain) (change :: padded)
  | insert {plain padded : List (String × String)} {text : String}
      (unparsed : ∀ definitions, engine.parse uri text ≠ .parsed definitions)
      (rest : Padded engine uri plain padded) : Padded engine uri plain ((uri, text) :: padded)

variable {plain padded : List (String × String)}

omit [Definition δ] in
theorem Padded.exists_prefix (inserted : Padded engine uri plain padded)
    {seen : List (String × String)} (first : seen <+: padded) :
    ∃ kept, kept <+: plain ∧ Padded engine uri kept seen := by
  induction inserted generalizing seen with
  | nil =>
      rw [List.prefix_nil.1 first]
      exact ⟨[], List.prefix_rfl, .nil⟩
  | keep change rest ih =>
      rcases List.prefix_cons_iff.1 first with rfl | ⟨seen, rfl, shorter⟩
      · exact ⟨[], List.nil_prefix, .nil⟩
      · obtain ⟨kept, isPrefix, inserted⟩ := ih shorter
        exact ⟨change :: kept, List.cons_prefix_cons.2 ⟨rfl, isPrefix⟩, .keep change inserted⟩
  | insert unparsed rest ih =>
      rcases List.prefix_cons_iff.1 first with rfl | ⟨seen, rfl, shorter⟩
      · exact ⟨[], List.nil_prefix, .nil⟩
      · obtain ⟨kept, isPrefix, inserted⟩ := ih shorter
        exact ⟨kept, isPrefix, .insert unparsed inserted⟩

/-- The passes that do not parse leave no trace but in one record. -/
theorem SameBut.analyzeAll (inserted : Padded engine uri plain padded)
    (same : SameBut uri analyzer other) :
    SameBut uri (analyzer.analyzeAll engine plain) (other.analyzeAll engine padded) := by
  induction inserted generalizing analyzer other with
  | nil => exact same
  | keep change rest ih => exact ih (same.analyze engine change.1 change.2)
  | insert unparsed rest ih => exact ih (same.analyze_unparsed unparsed)

/-! ## From a failure to the next text that parses -/

/-- No text of `uri` among `changes` parses or fails to parse: at most, the parser crashes. -/
def Undecided (engine : Engine δ) (uri : String) (changes : List (String × String)) : Prop :=
  ∀ change ∈ changes, change.1 = uri → ∃ error, engine.parse uri change.2 = .crashed error

theorem failures_analyze_of_other (other text : String) (elsewhere : uri ≠ other) :
    (analyzer.analyze engine other text).2.failures.get? uri = analyzer.failures.get? uri := by
  cases parsed : engine.parse other text with
  | parsed definitions =>
      rw [analyze_of_parsed parsed, finish_failures]
      show (analyzer.failures.erase other).get? uri = _
      rw [Table.get?_erase, if_neg elsewhere]
  | failed failure =>
      rw [analyze_of_failed parsed]
      show (analyzer.failures.insert other _).get? uri = _
      rw [Table.get?_insert, if_neg elsewhere]
  | crashed error => rw [analyze_of_crashed parsed]

theorem failures_analyzeAll_of_undecided {changes : List (String × String)}
    (undecided : Undecided engine uri changes) :
    (analyzer.analyzeAll engine changes).failures.get? uri = analyzer.failures.get? uri := by
  induction changes generalizing analyzer with
  | nil => rfl
  | cons change rest ih =>
      obtain ⟨first, undecided⟩ := List.forall_mem_cons.1 undecided
      rw [analyzeAll_cons, ih undecided]
      by_cases own : change.1 = uri
      · obtain ⟨error, crashed⟩ := first own
        rw [own, analyze_of_crashed crashed]
      · exact failures_analyze_of_other change.1 change.2 (Ne.symm own)

/-- Whatever passes there are for other files, the last failure of a file is all that is
reported of it. -/
theorem diagnostics_analyzeAll_of_failed {failure : Rejection}
    (failed : engine.parse uri text = .failed failure) {later : List (String × String)}
    (undecided : Undecided engine uri later) (earlier : List (String × String)) :
    (analyzer.analyzeAll engine (earlier ++ (uri, text) :: later)).diagnostics uri =
      [failure.record uri] := by
  have stored : ((analyzer.analyzeAll engine earlier).analyze engine uri text).2.failures.get? uri =
      some (failure.record uri) := by
    rw [analyze_of_failed failed]
    exact Table.get?_insert_self _ _ _
  have stands : (analyzer.analyzeAll engine (earlier ++ (uri, text) :: later)).failures.get? uri =
      some (failure.record uri) := by
    rw [analyzeAll_append]
    exact (failures_analyzeAll_of_undecided undecided).trans stored
  rw [diagnostics, stands]

/-- Texts of one file that do not parse are put anywhere among other texts. At every point of
the run the store, the definitions as checked and the diagnostics of all other files are those
of the run without them; a text of the file that parses brings about the same state with the
same report; and from a failure to the next text of the file that parses, the record of the
last failure is all that is reported of the file. -/
theorem failures_leave_no_trace (inserted : Padded engine uri plain padded)
    (analyzer : Analyzer δ) :
    (∀ seen, seen <+: padded → ∃ kept, kept <+: plain ∧ Padded engine uri kept seen ∧
      (analyzer.analyzeAll engine seen).store = (analyzer.analyzeAll engine kept).store ∧
      (analyzer.analyzeAll engine seen).checked = (analyzer.analyzeAll engine kept).checked ∧
      ∀ file, file ≠ uri → (analyzer.analyzeAll engine seen).diagnostics file =
        (analyzer.analyzeAll engine kept).diagnostics file) ∧
    (∀ text definitions, engine.parse uri text = .parsed definitions →
      (analyzer.analyzeAll engine padded).analyze engine uri text =
        (analyzer.analyzeAll engine plain).analyze engine uri text) ∧
    ∀ earlier text later failure, padded = earlier ++ (uri, text) :: later →
      engine.parse uri text = .failed failure → Undecided engine uri later →
      (analyzer.analyzeAll engine padded).diagnostics uri = [failure.record uri] := by
  refine ⟨?_, ?_, ?_⟩
  · intro seen first
    obtain ⟨kept, isPrefix, inserted⟩ := inserted.exists_prefix first
    have same := SameBut.analyzeAll inserted (.refl uri analyzer)
    refine ⟨kept, isPrefix, inserted, ?_, ?_, fun file elsewhere => same.diagnostics_eq elsewhere⟩
    · obtain ⟨failures, eq, -⟩ := same
      rw [eq]
    · obtain ⟨failures, eq, -⟩ := same
      rw [eq]
  · intro text definitions parsed
    exact (SameBut.analyzeAll inserted (.refl uri analyzer)).analyze_eq parsed
  · rintro earlier text later failure rfl failed undecided
    exact diagnostics_analyzeAll_of_failed failed undecided earlier

/-- A file that mentions a name fails to parse before and after another file defines the
name. The record of the name that is not defined has gone by the time the file parses again. -/
theorem failures_leave_no_trace_outline :
    let plain := [("a", "x: y"), ("b", "y")]
    let padded := [("a", "x: y"), ("a", "!"), ("b", "y"), ("a", "\n!")]
    let run := fun changes => (Analyzer.empty.analyzeAll Outline.engine changes)
    let failure : Record := .error "a" (.empty 1) "unexpected `!`"
    Padded Outline.engine "a" plain padded ∧
      (run [("a", "x: y")]).diagnostics "a" = [.error "a" ⟨3, 4⟩ "Undefined reference: y\n"] ∧
      (run plain).diagnostics "a" = [] ∧ (run padded).diagnostics "a" = [failure] ∧
      (run padded).analyze Outline.engine "a" "x: y" =
        (run plain).analyze Outline.engine "a" "x: y" ∧
      ((run padded).analyze Outline.engine "a" "x: y").2.diagnostics "a" = [] := by
  intro plain padded run failure
  have early : Outline.engine.parse "a" "!" = .failed ⟨0, "unexpected `!`"⟩ := rfl
  have late : Outline.engine.parse "a" "\n!" = .failed ⟨1, "unexpected `!`"⟩ := rfl
  have parses : ∃ definitions, Outline.engine.parse "a" "x: y" = .parsed definitions := ⟨_, rfl⟩
  obtain ⟨definitions, parsed⟩ := parses
  have inserted : Padded Outline.engine "a" plain padded :=
    .keep _ (.insert (by simp [early]) (.keep _ (.insert (by simp [late]) .nil)))
  obtain ⟨-, recovers, reported⟩ := failures_leave_no_trace inserted (.empty : Analyzer OutlineItem)
  have undecided : Undecided Outline.engine "a" [] := fun _ mem => absurd mem List.not_mem_nil
  exact ⟨inserted, by decide, by decide,
    reported [("a", "x: y"), ("a", "!"), ("b", "y")] "\n!" [] _ rfl late undecided,
    recovers "x: y" definitions parsed, by decide⟩

end Analyzer

end LiveCheck
