import LiveCheck.Language.Engine
import LiveCheck.Proofs.Analyzer.Interleaving
import LiveCheck.Proofs.Analyzer.Report
import LiveCheck.Proofs.Language.Recognition
import LiveCheck.Proofs.Store.Disjoint
import Mathlib

/-!
A file that is analyzed again.

The second pass for a text finds the names of the file in place. It takes nothing over and
drops nothing, so it covers no file that the first did not (`covered_again`). Those it covers
had the records of a check of the whole global table already, and the others keep what they
have (`Settles`, `parsedPass_unchanged`). Nothing of this depends on how little of the global
table a check reads, so it holds of the Formality engine (`analyze_again`).
-/

namespace LiveCheck

variable {δ : Type} [Definition δ]

/-! ## The store -/

namespace Store

variable {store : Store δ} {uri : String} {definitions : Table δ}

/-- A file contributes some definitions, they hold their names, and the file is known. -/
structure InPlace (store : Store δ) (uri : String) (definitions : Table δ) : Prop where
  contributed : store.fileDefinitions? uri = some definitions
  held : ∀ name definition, definitions.get? name = some definition →
    store.globals.get? name = some definition
  known : store.known.contains uri = true

theorem inPlace_record (store : Store δ) (uri : String) (definitions : Table δ) :
    (store.record uri definitions).2.InPlace uri definitions := by
  refine ⟨?_, ?_, contains_record_known.2 (Or.inl rfl)⟩
  · rw [fileDefinitions?_record, if_pos rfl]
  · intro name definition defined
    rw [get?_record_globals, defined, Option.some_or]

omit [Definition δ] in
theorem InPlace.defined_iff (inPlace : store.InPlace uri definitions) {name : String} :
    store.Defined uri name ↔ definitions.contains name = true := by
  rw [← mem_keys_fileDefinitions?, inPlace.contributed, Option.getD_some, Table.mem_keys]

/-- Definitions that are in place touch no names but their own. -/
theorem InPlace.touched_iff (inPlace : store.InPlace uri definitions) {name : String} :
    (store.record uri definitions).1.names.contains name = true ↔
      definitions.contains name = true := by
  rw [contains_record_names, inPlace.defined_iff, or_self]

theorem InPlace.not_removed (inPlace : store.InPlace uri definitions) {name : String} :
    ¬ (store.record uri definitions).1.removed.contains name = true := by
  rw [contains_record_removed, inPlace.defined_iff]
  exact fun both => Table.not_contains.2 both.2 both.1

/-- Recording them again leaves the global table as it is. -/
theorem InPlace.globals_record (inPlace : store.InPlace uri definitions) :
    (store.record uri definitions).2.globals = store.globals := by
  apply Table.ext_get?
  intro name
  cases defined : definitions.get? name with
  | some definition =>
      rw [get?_record_globals, defined, inPlace.held name definition defined, Option.some_or]
  | none =>
      apply get?_record_of_untouched
      rw [inPlace.touched_iff, Table.not_contains]
      exact defined

theorem InPlace.known_record (inPlace : store.InPlace uri definitions) :
    (store.record uri definitions).2.known = store.known := by
  show store.known.insert uri () = store.known
  apply Table.ext_get?
  intro other
  obtain ⟨_, known⟩ := Table.contains_eq_true.1 inPlace.known
  rw [Table.get?_insert]
  split
  · next same => rw [same, known]
  · rfl

/-- The definitions of one file that other files hide. -/
def hiddenIn (globals definitions : Table δ) : List (δ × String) :=
  definitions.values.filterMap fun definition =>
    match owner? globals (Definition.name definition) with
    | some owner => if owner = Definition.file definition then none else some (definition, owner)
    | none => none

/-- What is hidden depends on what the files contribute, and not on when they were parsed. -/
theorem hidden_congr {store' : Store δ}
    (files : ∀ uri, store'.fileDefinitions? uri = store.fileDefinitions? uri)
    (globals : store'.globals = store.globals) : store'.hidden = store.hidden := by
  have listed : ∀ store : Store δ, store.hidden =
      (store.files.mapValues fun _ entry => entry.definitions).values.flatMap
        (hiddenIn store.globals) := by
    intro store
    simp only [Table.values, Table.mapValues, List.map_map, List.flatMap_map, hidden]
    rfl
  have contributed : (store'.files.mapValues fun _ entry => entry.definitions) =
      store.files.mapValues fun _ entry => entry.definitions := by
    apply Table.ext_get?
    intro uri
    rw [Table.get?_mapValues, Table.get?_mapValues]
    exact files uri
  rw [listed, listed, contributed, globals]

theorem InPlace.hidden_record (inPlace : store.InPlace uri definitions) :
    (store.record uri definitions).2.hidden = store.hidden := by
  refine hidden_congr (fun other => ?_) inPlace.globals_record
  rw [fileDefinitions?_record]
  split
  · next same => rw [same, inPlace.contributed]
  · rfl

end Store

namespace Analyzer

variable {engine : Engine δ} {diag : δ → Table δ → List Record} {out : δ → Table δ → δ}
  {analyzer again : Analyzer δ} {job : Job δ} {uri text : String} {definitions : Table δ}

/-! ## What the second pass covers -/

/-- Once its definitions are in place, a file takes nothing from other files and drops
nothing. What it covers besides itself mentions one of its names. -/
theorem contains_covered_of_inPlace (filed : Store.Filed uri definitions)
    (inPlace : analyzer.store.InPlace uri definitions) {file : String} :
    (analyzer.planParsed uri definitions).1.covered.contains file = true → file = uri ∨
      ∃ name definition, analyzer.store.globals.get? name = some definition ∧
        Definition.file definition = file ∧
        ∃ mentioned ∈ Definition.references definition, definitions.contains mentioned = true := by
  rw [contains_covered, inPlace.globals_record]
  rintro (⟨name, defined, owned⟩ | own | ⟨name, removed | mentions, owned⟩)
  · obtain ⟨definition, defined⟩ := Table.contains_eq_true.1 defined
    rw [owner?, inPlace.held name definition defined] at owned
    cases owned
    exact Or.inl (filed name definition defined)
  · exact Or.inl own
  · exact absurd removed inPlace.not_removed
  · obtain ⟨definition, held, -, mentioned, mem, touched⟩ := Store.mem_mentioning.1 mentions
    rw [inPlace.globals_record] at held
    rw [inPlace.touched_iff] at touched
    rw [owner?, held] at owned
    exact Or.inr ⟨name, definition, held, Option.some.inj owned, mentioned, mem, touched⟩

/-- The first pass for the same definitions covered it too. -/
theorem covered_again (filed : Store.Filed uri definitions)
    (recorded : again.store = (analyzer.store.record uri definitions).2) {file : String}
    (isCovered : (again.planParsed uri definitions).1.covered.contains file = true) :
    (analyzer.planParsed uri definitions).1.covered.contains file = true := by
  have inPlace := Store.inPlace_record analyzer.store uri definitions
  rw [← recorded] at inPlace
  rw [contains_covered]
  by_cases own : file = uri
  · exact Or.inr (Or.inl own)
  · obtain ⟨name, definition, held, rfl, mentioned, mem, defined⟩ :=
      (contains_covered_of_inPlace filed inPlace isCovered).resolve_left own
    rw [recorded] at held
    have touched : (analyzer.store.record uri definitions).1.names.contains mentioned = true :=
      Store.contains_record_names.2 (Or.inl defined)
    exact Or.inr (Or.inr ⟨name, Or.inr (Store.mem_mentioning.2
      ⟨definition, held, own, mentioned, mem, touched⟩), owner?_eq_some.2 ⟨definition, held, rfl⟩⟩)

/-! ## What a job settles -/

/-- The files in `covered` have what a check of the whole global table gives, and nothing is
kept of files that are not known. -/
structure Settles (diag : δ → Table δ → List Record) (out : δ → Table δ → δ) (covered : NameSet)
    (analyzer : Analyzer δ) : Prop where
  records : ∀ file, analyzer.store.known.contains file = true → covered.contains file = true →
    (analyzer.records.get? file).getD [] = recordsInFull diag analyzer.store.globals file
  checked : ∀ name definition, analyzer.store.globals.get? name = some definition →
    covered.contains (Definition.file definition) = true →
    analyzer.checked.get? name = some (out definition analyzer.store.globals)
  unknown : ∀ file, ¬ analyzer.store.known.contains file = true → analyzer.records.get? file = none

theorem get?_records_finish_of_unknown (piecewise : engine.Piecewise diag out)
    (globals_eq : job.globals = analyzer.store.globals)
    (roots_eq : job.roots = analyzer.store.namesIn job.covered) {file : String}
    (unknown : ¬ analyzer.store.known.contains file = true) :
    (analyzer.finish engine job).2.records.get? file = none := by
  rw [finish, run_eq piecewise globals_eq roots_eq]
  exact get?_mergeRecords_of_unknown _ unknown

/-- A job settles the files that it covers. -/
theorem settles_finish (piecewise : engine.Piecewise diag out)
    (globals_eq : job.globals = analyzer.store.globals)
    (roots_eq : job.roots = analyzer.store.namesIn job.covered)
    (named : Named analyzer.store.globals) :
    Settles diag out job.covered (analyzer.finish engine job).2 := by
  refine ⟨?_, ?_, ?_⟩
  · intro file isKnown isCovered
    rw [finish_store] at isKnown ⊢
    rw [getD_records_finish piecewise globals_eq roots_eq isKnown, if_pos isCovered]
  · intro name definition held isCovered
    rw [finish_store] at held ⊢
    rw [get?_checked_finish piecewise globals_eq roots_eq named, held]
    exact if_pos isCovered
  · intro file unknown
    rw [finish_store] at unknown
    exact get?_records_finish_of_unknown piecewise globals_eq roots_eq unknown

theorem Owned.finish (owned : analyzer.Owned) (engine : Engine δ) (job : Job δ) :
    (analyzer.finish engine job).2.Owned := by
  have stored := owned.step engine (.commit job (job.run engine))
  unfold Analyzer.finish
  unfold Analyzer.step at stored
  dsimp only at stored
  cases committed : analyzer.commit job (job.run engine) with
  | error failure => exact owned
  | ok outcome =>
      rw [committed] at stored
      exact stored

/-! ## The second pass -/

/-- The pass for a text that parses. -/
def parsedPass (engine : Engine δ) (analyzer : Analyzer δ) (uri : String) (definitions : Table δ) :
    Except EngineFailure Report × Analyzer δ :=
  (analyzer.planParsed uri definitions).2.finish engine (analyzer.planParsed uri definitions).1

@[simp]
theorem parsedPass_store : (analyzer.parsedPass engine uri definitions).2.store =
    (analyzer.store.record uri definitions).2 := finish_store

@[simp]
theorem parsedPass_failures : (analyzer.parsedPass engine uri definitions).2.failures =
    analyzer.failures.erase uri := finish_failures

@[simp]
theorem parsedPass_clashes : (analyzer.parsedPass engine uri definitions).2.clashes =
    analyzer.clashes.erase uri := finish_clashes

@[simp]
theorem parsedPass_hidden : (analyzer.parsedPass engine uri definitions).2.hidden =
    hiddenRecords (analyzer.store.record uri definitions).2 := finish_hidden

theorem finish_report (piecewise : engine.Piecewise diag out)
    (globals_eq : job.globals = analyzer.store.globals)
    (roots_eq : job.roots = analyzer.store.namesIn job.covered) :
    let next := (analyzer.finish engine job).2
    (analyzer.finish engine job).1 = .ok (next.report
      ((next.store.known.addAll next.failures.keys).union job.announced)) := by
  unfold finish commit
  rw [run_eq piecewise globals_eq roots_eq]

/-- A pass for a text that parses reports on the known files and on those that do not parse. -/
theorem parsedPass_report (piecewise : engine.Piecewise diag out) :
    let next := (analyzer.parsedPass engine uri definitions).2
    (analyzer.parsedPass engine uri definitions).1 =
      .ok (next.report ((next.store.known.addAll next.failures.keys).union .empty)) :=
  finish_report piecewise rfl rfl

section Again

variable {covered : NameSet}

/-- A pass for definitions that are in place, where every file that it covers is settled,
changes no records. -/
theorem Settles.getD_records_again (piecewise : engine.Piecewise diag out)
    (settles : Settles diag out covered analyzer)
    (inPlace : analyzer.store.InPlace uri definitions)
    (fewer : ∀ file, (analyzer.planParsed uri definitions).1.covered.contains file = true →
      covered.contains file = true) (file : String) :
    ((analyzer.parsedPass engine uri definitions).2.records.get? file).getD [] =
      (analyzer.records.get? file).getD [] := by
  have globals := inPlace.globals_record
  rw [← planParsed_store] at globals
  have known := inPlace.known_record
  rw [← planParsed_store] at known
  rw [parsedPass]
  by_cases isKnown : analyzer.store.known.contains file = true
  · rw [getD_records_finish piecewise rfl rfl (by rw [known]; exact isKnown), globals]
    split
    · next isCovered => exact (settles.records file isKnown (fewer file isCovered)).symm
    · rfl
  · rw [get?_records_finish_of_unknown piecewise rfl rfl (by rw [known]; exact isKnown),
      settles.unknown file isKnown]

/-- Nor does it change the definitions as checked. -/
theorem Settles.checked_again (piecewise : engine.Piecewise diag out)
    (settles : Settles diag out covered analyzer) (owned : analyzer.Owned)
    (filed : Store.Filed uri definitions) (inPlace : analyzer.store.InPlace uri definitions)
    (fewer : ∀ file, (analyzer.planParsed uri definitions).1.covered.contains file = true →
      covered.contains file = true) :
    (analyzer.parsedPass engine uri definitions).2.checked = analyzer.checked := by
  have globals := inPlace.globals_record
  rw [← planParsed_store] at globals
  apply Table.ext_get?
  intro name
  rw [parsedPass, get?_checked_finish piecewise rfl rfl (by rw [globals]; exact owned.globals),
    globals]
  cases held : analyzer.store.globals.get? name with
  | none =>
      symm
      rw [Option.eq_none_iff_forall_ne_some]
      intro definition checked
      have owner := owned.owner name definition checked
      rw [owner?, held] at owner
      cases owner
  | some definition =>
      dsimp only
      split
      · next isCovered => exact (settles.checked name definition held (fewer _ isCovered)).symm
      · next uncovered =>
        -- The name is not among those of the file, which is covered.
        have untouched : (analyzer.store.record uri definitions).1.names.contains name = false := by
          rw [Bool.eq_false_iff]
          intro touched
          obtain ⟨own, defined⟩ := Table.contains_eq_true.1 (inPlace.touched_iff.1 touched)
          rw [inPlace.held name own defined] at held
          cases held
          exact uncovered (contains_covered.2 (Or.inr (Or.inl (filed name definition defined))))
        rw [planParsed_checked, Table.get?_filter, untouched]
        cases checked : analyzer.checked.get? name with
        | none => rfl
        | some other =>
            have owner := owned.owner name other checked
            rw [owner?, held, Option.map_some] at owner
            simp [owner]

end Again

/-- Nothing that can be asked of an analyzer is different. -/
structure Unchanged (analyzer again : Analyzer δ) : Prop where
  globals : again.store.globals = analyzer.store.globals
  known : again.store.known = analyzer.store.known
  diagnostics : ∀ file, again.diagnostics file = analyzer.diagnostics file
  lookup : ∀ name, again.lookup name = analyzer.lookup name

omit [Definition δ] in
theorem Unchanged.refl (analyzer : Analyzer δ) : Unchanged analyzer analyzer :=
  ⟨rfl, rfl, fun _ => rfl, fun _ => rfl⟩

omit [Definition δ] in
theorem Unchanged.report_eq (unchanged : Unchanged analyzer again) (files : NameSet) :
    again.report files = analyzer.report files := by
  rw [report, report, funext unchanged.diagnostics]

/-- A second pass for the definitions of a file changes nothing. -/
theorem parsedPass_unchanged (piecewise : engine.Piecewise diag out) (owned : analyzer.Owned)
    (named : Named definitions) (filed : Store.Filed uri definitions) :
    let next := (analyzer.parsedPass engine uri definitions).2
    Unchanged next (next.parsedPass engine uri definitions).2 := by
  intro next
  have recorded : next.store = (analyzer.store.record uri definitions).2 := parsedPass_store
  have inPlace := Store.inPlace_record analyzer.store uri definitions
  rw [← recorded] at inPlace
  have planned := owned.planParsed uri named
  have settles : Settles diag out (analyzer.planParsed uri definitions).1.covered next :=
    settles_finish piecewise rfl rfl planned.globals
  have fewer : ∀ file, (next.planParsed uri definitions).1.covered.contains file = true →
      (analyzer.planParsed uri definitions).1.covered.contains file = true :=
    fun _ => covered_again filed recorded
  have records := settles.getD_records_again piecewise inPlace fewer
  have checked := settles.checked_again piecewise (planned.finish engine _) filed inPlace fewer
  have hidden : hiddenRecords (next.store.record uri definitions).2 = next.hidden := by
    rw [hiddenRecords, inPlace.hidden_record, recorded, parsedPass_hidden, hiddenRecords]
  refine ⟨?_, ?_, ?_, ?_⟩
  · rw [parsedPass_store, inPlace.globals_record]
  · rw [parsedPass_store, inPlace.known_record]
  · intro file
    rw [diagnostics, diagnostics, records file, parsedPass_failures, parsedPass_clashes,
      parsedPass_hidden, hidden, parsedPass_failures, parsedPass_clashes, Table.erase_erase,
      Table.erase_erase]
  · intro name
    rw [lookup, lookup, checked, parsedPass_store, inPlace.globals_record]

/-- It comes to the same report. -/
theorem parsedPass_report_again (piecewise : engine.Piecewise diag out) (owned : analyzer.Owned)
    (named : Named definitions) (filed : Store.Filed uri definitions) :
    ((analyzer.parsedPass engine uri definitions).2.parsedPass engine uri definitions).1 =
      (analyzer.parsedPass engine uri definitions).1 := by
  have unchanged := parsedPass_unchanged piecewise owned named filed
  rw [parsedPass_report piecewise, parsedPass_report piecewise, unchanged.report_eq,
    unchanged.known, parsedPass_failures, parsedPass_failures, Table.erase_erase]

/-- A second pass for a text, after one that came to a report, comes to the same report and
changes nothing. -/
theorem Owned.report_again (owned : analyzer.Owned) (piecewise : engine.Piecewise diag out)
    {report : Report} {next : Analyzer δ}
    (first : analyzer.analyze engine uri text = (.ok report, next)) :
    (next.analyze engine uri text).1 = .ok report ∧
      Unchanged next (next.analyze engine uri text).2 := by
  cases parses : engine.parse uri text with
  | parsed parsed =>
      have filed : Store.Filed uri (tableOf parsed) := fun name definition found =>
        piecewise.parse_file uri text parsed parses definition (mem_of_get?_tableOf found).1
      have pass : ∀ analyzer : Analyzer δ, analyzer.analyze engine uri text =
          analyzer.parsedPass engine uri (tableOf parsed) := fun _ => analyze_of_parsed parses
      have reported := parsedPass_report_again piecewise owned (named_tableOf parsed) filed
      have unchanged := parsedPass_unchanged piecewise owned (named_tableOf parsed) filed
      rw [pass] at first ⊢
      simp only [first] at reported unchanged
      exact ⟨reported, unchanged⟩
  | failed failure =>
      have same : next.analyze engine uri text = (.ok report, next) := by
        rw [analyze_of_failed parses] at first ⊢
        cases first
        simp only [Table.insert_insert]
      rw [same]
      exact ⟨rfl, .refl next⟩
  | crashed error =>
      rw [analyze_of_crashed parses] at first
      cases first

theorem store_analyze {uri text : String} {definitions : List δ}
    (parsed : engine.parse uri text = .parsed definitions) :
    (analyzer.analyze engine uri text).2.store =
      (analyzer.store.record uri (tableOf definitions)).2 := by
  rw [analyze_of_parsed parsed, finish_store, planParsed_store]

/-! ## Every history -/

/-- The analyzers that passes lead to, also first passes that are given a file twice. -/
inductive Obtained (engine : Engine δ) : Analyzer δ → Prop
  | empty : Obtained engine .empty
  | startup {analyzer : Analyzer δ} (files : List (String × String)) :
    Obtained engine analyzer → Obtained engine (analyzer.startup engine files).2
  | analyze {analyzer : Analyzer δ} (uri text : String) :
    Obtained engine analyzer → Obtained engine (analyzer.analyze engine uri text).2

theorem Owned.analyze (owned : analyzer.Owned) (engine : Engine δ) (uri text : String) :
    (analyzer.analyze engine uri text).2.Owned := by
  cases parses : engine.parse uri text with
  | parsed parsed =>
      rw [analyze_of_parsed parses]
      exact (owned.planParsed uri (named_tableOf parsed)).finish engine _
  | failed failure =>
      rw [analyze_of_failed parses]
      exact ⟨owned.keyed, owned.globals, owned.checked, owned.owner⟩
  | crashed error =>
      rw [analyze_of_crashed parses]
      exact owned

theorem Obtained.owned (obtained : Obtained engine analyzer) : analyzer.Owned := by
  induction obtained with
  | empty => exact owned_empty
  | startup files _ _ => exact (owned_planAll engine _ files).finish engine _
  | analyze uri text _ ih => exact ih.analyze engine uri text

end Analyzer

/-! ## The Formality engine -/

theorem file_of_parse {uri text : String} {defs : List Def} (parsed : parse uri text = .ok defs) :
    ∀ definition ∈ defs, definition.file = uri := by
  obtain ⟨file, derived⟩ := Parser.items_sound List.nodup_nil parsed
  rw [← derived.definitions_eq, Grammar.File.definitions, List.forall_mem_flatMap]
  intro item _ definition mem
  cases item with
  | type keyword name ctors =>
      rcases List.mem_cons.1 mem with rfl | mem
      · rfl
      · obtain ⟨ctor, -, rfl⟩ := List.mem_map.1 mem
        rfl
  | func head colon ret body =>
      rw [List.mem_singleton.1 mem]

theorem formality_parse_iff {uri text : String} {defs : List Def} :
    formality.parse uri text = .parsed defs ↔ parse uri text = .ok defs := by
  simp only [formality]
  cases parse uri text <;> simp

theorem formality_parse {uri text : String} {defs : List Def} (parsed : parse uri text = .ok defs) :
    formality.parse uri text = .parsed defs := formality_parse_iff.2 parsed

theorem formality_piecewise : formality.Piecewise
    (fun definition globals => definition.records (Typing.definitionErrors globals.get? definition))
    (fun definition globals => (Typing.judge globals.get? definition).1) where
  parse_file _ _ _ parsed := file_of_parse (formality_parse_iff.1 parsed)
  check_eq names globals := by
    simp only [formality, Typing.judgeAll, List.map_map, List.flatMap_map, Function.comp_def]
    rfl
  diag_file definition globals record mem := by
    obtain ⟨error, -, rfl⟩ := List.mem_map.1 mem
    rfl
  out_name _ _ := rfl
  out_file _ _ := rfl

namespace Analyzer

/-- Whatever passes there were: if a pass for a change comes to a report, the same pass again
comes to the same report, and leaves the global names, the known files, the diagnostics of
every file and what is found for every name as they are. -/
theorem analyze_again {analyzer : Analyzer Def} (obtained : Obtained formality analyzer)
    {uri text : String} {report : Report} {next : Analyzer Def}
    (first : analyzer.analyze formality uri text = (.ok report, next)) :
    ∃ again, next.analyze formality uri text = (.ok report, again) ∧ Unchanged next again := by
  obtain ⟨reported, unchanged⟩ := obtained.owned.report_again formality_piecewise first
  exact ⟨_, Prod.ext reported rfl, unchanged⟩

/-- The function of a file that calls itself what another file calls its function. -/
def takenFunction (uri : String) : Def :=
  Parser.Source.define ⟨uri, "f: T f"⟩ "f" ⟨0, 1⟩ ⟨0, 6⟩
    (.func [] ⟨"T", ⟨3, 4⟩⟩ (.ref ⟨"f", ⟨5, 6⟩⟩))

/-- A file takes the name of another file over. The first pass covers both files, the second
covers only one of them. -/
theorem analyze_again_of_takeover :
    let before := ((Analyzer.empty : Analyzer Def).analyze formality "b" "f: T f").2
    let taken : Table Def := tableOf [takenFunction "c"]
    let undefined : Record := .error "c" ⟨3, 4⟩ "Undefined reference: T\n"
    Obtained formality before ∧
      ∃ report next, before.analyze formality "c" "f: T f" = (.ok report, next) ∧
        report.records = [alreadyDefined "b" ⟨0, 1⟩ "f" "c", undefined] ∧
        (before.planParsed "c" taken).1.covered.toList = ["b", "c"] ∧
        (next.planParsed "c" taken).1.covered.toList = ["c"] ∧
        ∃ again, next.analyze formality "c" "f: T f" = (.ok report, again) ∧
          Unchanged next again := by
  intro before taken undefined
  have readB : parse "b" "f: T f" = .ok [takenFunction "b"] := by cbv
  have readC : parse "c" "f: T f" = .ok [takenFunction "c"] := by cbv
  have obtained : Obtained formality before := Obtained.empty.analyze "b" "f: T f"
  have start : before = ((Analyzer.empty.planParsed "b" (tableOf [takenFunction "b"])).2.finish
      formality (Analyzer.empty.planParsed "b" (tableOf [takenFunction "b"])).1).2 :=
    congrArg Prod.snd (analyze_of_parsed (formality_parse readB))
  have pass : before.analyze formality "c" "f: T f" = (before.planParsed "c" taken).2.finish
      formality (before.planParsed "c" taken).1 := analyze_of_parsed (formality_parse readC)
  have first := pass.trans (Prod.ext (finish_report formality_piecewise rfl rfl) rfl)
  have again := analyze_again obtained first
  rw [start] at obtained first again ⊢
  exact ⟨obtained, _, _, first, by decide, by decide, by decide, again⟩

end Analyzer

end LiveCheck
