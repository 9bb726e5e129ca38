import LiveCheck.Proofs.Analyzer.Incremental
import LiveCheck.Proofs.Analyzer.Report
import LiveCheck.Proofs.Store.Disjoint
import Mathlib

/-!
Two histories that end with the same texts.

A course of analysis is a first pass, if there is one, and the changes analyzed after it
(`Course`). As long as every text parses and the first pass leaves no file out, what an
analyzer keeps of a file is the definitions of its last text (`Reflects`): the clock apart,
nothing is left of the texts before it. If no two of the last texts define one name, the
global table is made of them alone, nothing is hidden, and the records and checked
definitions are those of a check of that table. Two courses with the same last texts
therefore end alike (`Course.same_outcome`).

The first pass has to be given each file once. A file given twice keeps the names of both
texts, and no later pass takes those of the first back (`repeated_file_leaves_trace`).
-/

namespace LiveCheck

variable {δ : Type} [Definition δ]

namespace Analyzer

variable {engine : Engine δ} {diag : δ → Table δ → List Record} {out : δ → Table δ → δ}
  {analyzer analyzer' : Analyzer δ} {texts : Table String} {uri text : String}

/-! ## Records of known files -/

/-- Only known files have records. -/
def RecordsKnown (analyzer : Analyzer δ) : Prop :=
  ∀ file, analyzer.records.contains file = true → analyzer.store.known.contains file = true

theorem RecordsKnown.finish (recordsKnown : analyzer.RecordsKnown) (engine : Engine δ)
    (job : Job δ) : (analyzer.finish engine job).2.RecordsKnown := by
  unfold Analyzer.finish commit
  cases job.run engine with
  | error failure => exact recordsKnown
  | ok result =>
      intro file has
      obtain ⟨records, found⟩ := Table.contains_eq_true.1 has
      have kept := (Table.get?_filter _ _ file).symm.trans found
      exact (Option.filter_eq_some_iff.1 kept).2

/-! ## What is kept of the last texts -/

/-- The definitions of a file that parses. -/
def definitions? (engine : Engine δ) (uri text : String) : Option (Table δ) :=
  (parseFile engine uri text).toOption

theorem definitions?_of_parsed {definitions : List δ}
    (parsed : engine.parse uri text = .parsed definitions) :
    definitions? engine uri text = some (tableOf definitions) := by
  rw [definitions?, parseFile_eq_ok.2 ⟨definitions, parsed, rfl⟩]
  rfl

theorem definitions?_eq_some {table : Table δ} :
    definitions? engine uri text = some table ↔
      ∃ definitions, engine.parse uri text = .parsed definitions ∧
        tableOf definitions = table := by
  rw [← parseFile_eq_ok, definitions?]
  cases parseFile engine uri text <;> simp [Except.toOption]

/-- An analyzer has the definitions of some texts and no trace of any other. -/
structure Reflects (engine : Engine δ) (texts : Table String) (analyzer : Analyzer δ) :
    Prop where
  contributions : ∀ uri, analyzer.store.fileDefinitions? uri =
    (texts.get? uri).bind (definitions? engine uri)
  known : ∀ uri, analyzer.store.known.contains uri = true ↔ texts.contains uri = true
  failures : analyzer.failures = .empty
  clashes : analyzer.clashes = .empty
  hidden : analyzer.hidden = hiddenRecords analyzer.store
  records : analyzer.RecordsKnown

theorem reflects_empty (engine : Engine δ) : Reflects engine .empty (.empty : Analyzer δ) where
  contributions _ := rfl
  known _ := Iff.rfl
  failures := rfl
  clashes := rfl
  hidden := rfl
  records _ has := by cases has

/-- A pass for a change puts the new text in the place of the last one. -/
theorem Reflects.analyze (reflects : Reflects engine texts analyzer) {definitions : List δ}
    (parsed : engine.parse uri text = .parsed definitions) :
    Reflects engine (texts.insert uri text) (analyzer.analyze engine uri text).2 := by
  rw [analyze_of_parsed parsed]
  have planned : (analyzer.planParsed uri (tableOf definitions)).2.RecordsKnown := by
    intro file has
    exact Store.contains_record_known.2 (Or.inr (reflects.records file has))
  refine ⟨?_, ?_, ?_, ?_, ?_, planned.finish engine _⟩
  · intro other
    rw [finish_store, planParsed_store, Store.fileDefinitions?_record, Table.get?_insert]
    by_cases same : other = uri
    · rw [if_pos same, if_pos same, same]
      exact (definitions?_of_parsed parsed).symm
    · rw [if_neg same, if_neg same]
      exact reflects.contributions other
  · intro other
    rw [finish_store, planParsed_store, Store.contains_record_known, Table.contains_insert,
      reflects.known]
  · rw [finish_failures]
    show analyzer.failures.erase uri = .empty
    rw [reflects.failures]
    rfl
  · rw [finish_clashes]
    show analyzer.clashes.erase uri = .empty
    rw [reflects.clashes]
    rfl
  · rw [finish_hidden, finish_store]
    rfl

theorem failedFiles_eq_nil {files : List (String × String)}
    (parses : ∀ file ∈ files, ∃ definitions, engine.parse file.1 file.2 = .parsed definitions) :
    failedFiles engine files = [] := by
  rw [failedFiles, List.filterMap_eq_nil_iff]
  intro file given
  obtain ⟨definitions, parsed⟩ := parses file given
  have accepted := parseFile_eq_ok.2 ⟨definitions, parsed, rfl⟩
  simp only [accepted]

/-- If each file is given once, what is merged is what the texts define. -/
theorem mem_parsedFiles_iff_texts {files : List (String × String)}
    (distinct : (files.map (·.1)).Nodup) {table : Table δ} :
    (uri, table) ∈ parsedFiles engine files ↔
      ((Table.ofList files).get? uri).bind (definitions? engine uri) = some table := by
  simp only [mem_parsedFiles, Option.bind_eq_some_iff, Table.get?_ofList_eq_some distinct,
    definitions?_eq_some, exists_and_left]

/-- A first pass that is given each file once and leaves none out takes up all texts. -/
theorem reflects_startup {files : List (String × String)} (distinct : (files.map (·.1)).Nodup)
    (parses : ∀ file ∈ files, ∃ definitions, engine.parse file.1 file.2 = .parsed definitions)
    (unclashed : (Analyzer.empty.startup engine files).2.clashes = .empty) :
    Reflects engine (.ofList files) (Analyzer.empty.startup engine files).2 := by
  let planned := (Analyzer.empty : Analyzer δ).planAll engine files
  have started : Analyzer.empty.startup engine files = planned.2.finish engine planned.1 := rfl
  rw [started] at unclashed ⊢
  have recordless : planned.2.RecordsKnown := by
    intro file has
    cases has
  refine ⟨?_, ?_, ?_, unclashed, ?_, recordless.finish engine _⟩
  · intro uri
    rw [finish_clashes] at unclashed
    have accepted : ((Store.empty : Store δ).rebuild (parsedFiles engine files)).1 = [] := by
      have none := Table.eq_nil_of_ofList_eq_empty unclashed
      exact List.map_eq_nil_iff.1 none
    rw [finish_store]
    apply Option.ext
    intro table
    rw [← mem_parsedFiles_iff_texts distinct]
    exact Store.fileDefinitions?_rebuild ((sublist_parsedFiles engine files).nodup distinct)
      accepted
  · intro uri
    rw [finish_store, Table.contains_ofList]
    refine Store.contains_known_rebuild.trans ?_
    constructor
    · intro found
      rcases found with mem | none
      · exact (sublist_parsedFiles engine files).subset mem
      · cases none
    · intro mem
      obtain ⟨file, given, rfl⟩ := List.mem_map.1 mem
      obtain ⟨definitions, parsed⟩ := parses file given
      exact Or.inl (mem_map_parsedFiles.2 ⟨file.2, definitions, given, parsed⟩)
  · rw [finish_failures]
    show Table.ofList (failedFiles engine files) = .empty
    rw [failedFiles_eq_nil parses]
    rfl
  · rw [finish_hidden, finish_store]
    rfl

/-! ## Texts that define different names -/

/-- No two of some texts define one name. -/
def TextsApart (engine : Engine δ) (texts : Table String) : Prop :=
  ∀ uri uri' text text' definitions definitions', texts.get? uri = some text →
    texts.get? uri' = some text' → engine.parse uri text = .parsed definitions →
    engine.parse uri' text' = .parsed definitions' →
    ∀ first ∈ definitions, ∀ second ∈ definitions',
      Definition.name first = Definition.name second → uri = uri'

theorem Reflects.disjoint (reflects : Reflects engine texts analyzer)
    (apart : TextsApart engine texts) : analyzer.store.Disjoint := by
  intro uri uri' table table' name contributed contributed' has has'
  rw [reflects.contributions, Option.bind_eq_some_iff] at contributed contributed'
  obtain ⟨text, last, found⟩ := contributed
  obtain ⟨text', last', found'⟩ := contributed'
  obtain ⟨definitions, parsed, rfl⟩ := definitions?_eq_some.1 found
  obtain ⟨definitions', parsed', rfl⟩ := definitions?_eq_some.1 found'
  obtain ⟨first, defined⟩ := Table.contains_eq_true.1 has
  obtain ⟨second, defined'⟩ := Table.contains_eq_true.1 has'
  obtain ⟨mem, named⟩ := mem_of_get?_tableOf defined
  obtain ⟨mem', named'⟩ := mem_of_get?_tableOf defined'
  exact apart uri uri' text text' definitions definitions' last last' parsed parsed' first mem
    second mem' (named.trans named'.symm)

/-- With nothing hidden, left out or failing, a file has the records of the last check. -/
theorem Reflects.diagnostics_eq (reflects : Reflects engine texts analyzer)
    (upToDate : UpToDate diag out analyzer) (apart : TextsApart engine texts) (file : String) :
    analyzer.diagnostics file =
      if texts.contains file then recordsInFull diag analyzer.store.globals file else [] := by
  have hidden : analyzer.hidden = .empty := by
    rw [reflects.hidden, hiddenRecords,
      upToDate.coherent.hidden_eq_nil (reflects.disjoint apart) upToDate.keyed]
    rfl
  have only : analyzer.diagnostics file = (analyzer.records.get? file).getD [] := by
    rw [diagnostics, reflects.failures, reflects.clashes, hidden]
    simp
  rw [only]
  split
  · next given => exact upToDate.records file ((reflects.known file).2 given)
  · next absent =>
    have none : ¬ analyzer.records.contains file = true :=
      fun has => absent ((reflects.known file).1 (reflects.records file has))
    rw [Table.not_contains.1 none]
    rfl

/-- Two analyzers with the definitions of the same texts answer alike. -/
theorem Reflects.same_answers (reflects : Reflects engine texts analyzer)
    (reflects' : Reflects engine texts analyzer') (upToDate : UpToDate diag out analyzer)
    (upToDate' : UpToDate diag out analyzer') (apart : TextsApart engine texts) :
    analyzer.store.globals = analyzer'.store.globals ∧
      (∀ file, analyzer.diagnostics file = analyzer'.diagnostics file) ∧
      ∀ name, analyzer.lookup name = analyzer'.lookup name := by
  have same : ∀ uri, analyzer.store.fileDefinitions? uri =
      analyzer'.store.fileDefinitions? uri :=
    fun uri => (reflects.contributions uri).trans (reflects'.contributions uri).symm
  have globals : analyzer.store.globals = analyzer'.store.globals :=
    upToDate.coherent.globals_eq_of_disjoint upToDate'.coherent same (reflects.disjoint apart)
  refine ⟨globals, ?_, ?_⟩
  · intro file
    rw [reflects.diagnostics_eq upToDate apart, reflects'.diagnostics_eq upToDate' apart, globals]
  · intro name
    rw [lookup, lookup, upToDate.checked, upToDate'.checked, globals]

end Analyzer

/-! ## Courses -/

/-- A first pass, if there is one, and the changes analyzed after it. -/
structure Course where
  first : Option (List (String × String))
  changes : List (String × String)

namespace Course

variable {engine : Engine δ} {diag : δ → Table δ → List Record} {out : δ → Table δ → δ}
  {course course' : Course}

/-- All files and texts that are handled, in order. -/
def handled (course : Course) : List (String × String) :=
  course.first.getD [] ++ course.changes

/-- The last text of every file. -/
def texts (course : Course) : Table String :=
  .ofList course.handled

/-- What is known after the first pass. -/
def started (course : Course) (engine : Engine δ) : Analyzer δ :=
  match course.first with
  | none => .empty
  | some files => (Analyzer.empty.startup engine files).2

/-- What is known at the end. -/
def ended (course : Course) (engine : Engine δ) : Analyzer δ :=
  course.changes.foldl (fun analyzer file => (analyzer.analyze engine file.1 file.2).2)
    (course.started engine)

/-- Every text parses, and the first pass leaves no file out. -/
structure Smooth (engine : Engine δ) (course : Course) : Prop where
  parses : ∀ file ∈ course.handled,
    ∃ definitions, engine.parse file.1 file.2 = .parsed definitions
  unclashed : (course.started engine).clashes = .empty

/-- The first pass is given each file once. -/
def GivenOnce (course : Course) : Prop :=
  ∀ files, course.first = some files → (files.map (·.1)).Nodup

theorem reached_started (once : course.GivenOnce) :
    Analyzer.Reached engine (course.started engine) := by
  unfold started
  split
  · exact .empty
  · next files given => exact .startup .empty (once files given)

theorem reached_ended (once : course.GivenOnce) :
    Analyzer.Reached engine (course.ended engine) :=
  List.foldlRecOn course.changes _ (reached_started once) fun _ reached file _ =>
    reached.analyze file.1 file.2

theorem reflects_started (smooth : course.Smooth engine) (once : course.GivenOnce) :
    Analyzer.Reflects engine (.ofList (course.first.getD [])) (course.started engine) := by
  obtain ⟨parses, unclashed⟩ := smooth
  unfold started at unclashed ⊢
  split
  · next absent =>
    rw [absent]
    exact Analyzer.reflects_empty engine
  · next files given =>
    rw [given] at unclashed ⊢
    refine Analyzer.reflects_startup (once files given) ?_ unclashed
    intro file mem
    refine parses file (List.mem_append_left _ ?_)
    rw [given]
    exact mem

theorem reflects_foldl_analyze {analyzer : Analyzer δ} {texts : Table String}
    {changes : List (String × String)} (reflects : Analyzer.Reflects engine texts analyzer)
    (parses : ∀ file ∈ changes,
      ∃ definitions, engine.parse file.1 file.2 = .parsed definitions) :
    Analyzer.Reflects engine (texts.insertAll changes)
      (changes.foldl (fun analyzer file => (analyzer.analyze engine file.1 file.2).2)
        analyzer) := by
  induction changes generalizing analyzer texts with
  | nil => exact reflects
  | cons file rest ih =>
      obtain ⟨definitions, parsed⟩ := parses file List.mem_cons_self
      exact ih (reflects.analyze parsed) fun other mem =>
        parses other (List.mem_cons_of_mem _ mem)

theorem reflects_ended (smooth : course.Smooth engine) (once : course.GivenOnce) :
    Analyzer.Reflects engine course.texts (course.ended engine) := by
  have split : course.texts =
      (Table.ofList (course.first.getD [])).insertAll course.changes := by
    rw [texts, handled, Table.ofList, List.foldl_append]
    rfl
  rw [split]
  refine reflects_foldl_analyze (reflects_started smooth once) ?_
  intro file mem
  exact smooth.parses file (List.mem_append_right _ mem)

/-- Two courses in which all texts parse, the first pass leaves no file out and is given each
file once, and that end with the same texts, no two of which define one name: they end with
the same global table, the same diagnostics and the same definitions as checked, whatever
passes led there. -/
theorem same_outcome (engineLocal : engine.Local diag out) (smooth : course.Smooth engine)
    (smooth' : course'.Smooth engine) (once : course.GivenOnce) (once' : course'.GivenOnce)
    (same : course.texts = course'.texts) (apart : Analyzer.TextsApart engine course.texts) :
    (course.ended engine).store.globals = (course'.ended engine).store.globals ∧
      (∀ file, (course.ended engine).diagnostics file = (course'.ended engine).diagnostics file) ∧
      ∀ name, (course.ended engine).lookup name = (course'.ended engine).lookup name := by
  have reflects' := reflects_ended smooth' once'
  rw [← same] at reflects'
  exact (reflects_ended smooth once).same_answers reflects'
    ((reached_ended once).upToDate engineLocal) ((reached_ended once').upToDate engineLocal) apart

/-! ## Outlines -/

/-- Two files are given to the first pass. -/
def atOnce : Course := ⟨some [("a", "x: y"), ("b", "y")], []⟩

/-- The same texts come one after the other, and the second file defines the name of the
first before it has its last text. -/
def detour : Course := ⟨none, [("b", "x"), ("a", "x: y"), ("b", "y")]⟩

theorem smooth_atOnce : atOnce.Smooth Outline.steady where
  parses file mem := by
    simp only [handled, atOnce, Option.getD_some, List.append_nil, List.mem_cons,
      List.not_mem_nil, or_false] at mem
    rcases mem with rfl | rfl
    · exact ⟨_, rfl⟩
    · exact ⟨_, rfl⟩
  unclashed := by cbv

theorem smooth_detour : detour.Smooth Outline.steady where
  parses file mem := by
    simp only [handled, detour, Option.getD_none, List.nil_append, List.mem_cons,
      List.not_mem_nil, or_false] at mem
    rcases mem with rfl | rfl | rfl
    · exact ⟨_, rfl⟩
    · exact ⟨_, rfl⟩
    · exact ⟨_, rfl⟩
  unclashed := rfl

theorem apart_atOnce : Analyzer.TextsApart Outline.steady atOnce.texts := by
  intro uri uri' text text' definitions definitions' last last' parsed parsed' first mem second
    mem' same
  have named : ∀ {uri text definitions}, atOnce.texts.get? uri = some text →
      Outline.steady.parse uri text = .parsed definitions →
      ∀ item ∈ definitions, uri = if Definition.name item = "x" then "a" else "b" := by
    intro uri text definitions last parsed item mem
    have given := Table.mem_of_get?_ofList last
    simp only [handled, atOnce, Option.getD_some, List.append_nil, List.mem_cons,
      List.not_mem_nil, or_false] at given
    rcases given with given | given
    · cases given
      cases parsed
      rw [List.mem_singleton.1 mem]
      rfl
    · cases given
      cases parsed
      rw [List.mem_singleton.1 mem]
      rfl
  rw [named last parsed first mem, named last' parsed' second mem', same]

/-- The detour leaves no trace. -/
theorem same_outcome_of_detour :
    atOnce.Smooth Outline.steady ∧ detour.Smooth Outline.steady ∧ atOnce.GivenOnce ∧
      detour.GivenOnce ∧ atOnce.texts = detour.texts ∧
      Analyzer.TextsApart Outline.steady atOnce.texts ∧
      (atOnce.ended Outline.steady).store.globals = (detour.ended Outline.steady).store.globals ∧
      (∀ file, (atOnce.ended Outline.steady).diagnostics file =
        (detour.ended Outline.steady).diagnostics file) ∧
      ∀ name, (atOnce.ended Outline.steady).lookup name =
        (detour.ended Outline.steady).lookup name := by
  have once : atOnce.GivenOnce := by
    intro files given
    cases given
    decide
  have none : detour.GivenOnce := by
    intro files given
    cases given
  exact ⟨smooth_atOnce, smooth_detour, once, none, rfl, apart_atOnce,
    same_outcome Outline.steady_local smooth_atOnce smooth_detour once none rfl apart_atOnce⟩

/-- A file that is given twice to the first pass, and analyzed again, keeps the name of the
text that was given first. -/
theorem repeated_file_leaves_trace :
    let repeated : Course := ⟨some [("a", "x"), ("a", "y")], [("a", "y")]⟩
    let plain : Course := ⟨none, [("a", "y")]⟩
    Outline.steady.Local (fun item globals => Outline.undefinedRecords globals item)
        (fun item _ => { item with checked := true }) ∧
      repeated.Smooth Outline.steady ∧ plain.Smooth Outline.steady ∧
      repeated.texts = plain.texts ∧ Analyzer.TextsApart Outline.steady repeated.texts ∧
      (repeated.ended Outline.steady).store.globals.keys = ["x", "y"] ∧
      (plain.ended Outline.steady).store.globals.keys = ["y"] := by
  intro repeated plain
  have only : repeated.texts.keys = ["a"] := rfl
  have apart : Analyzer.TextsApart Outline.steady repeated.texts := by
    have uri_eq : ∀ {uri text}, repeated.texts.get? uri = some text → uri = "a" := by
      intro uri text last
      have mem : uri ∈ repeated.texts.keys :=
        Table.mem_keys.2 (Table.contains_eq_true.2 ⟨text, last⟩)
      rw [only] at mem
      exact List.mem_singleton.1 mem
    intro uri uri' text text' _ _ last last' _ _ _ _ _ _ _
    rw [uri_eq last, uri_eq last']
  refine ⟨Outline.steady_local, ⟨?_, by cbv⟩, ⟨?_, rfl⟩, rfl, apart, by cbv, by cbv⟩
  · intro file mem
    simp only [handled, repeated, Option.getD_some, List.mem_append, List.mem_cons,
      List.not_mem_nil, or_false] at mem
    rcases mem with (rfl | rfl) | rfl
    · exact ⟨_, rfl⟩
    · exact ⟨_, rfl⟩
    · exact ⟨_, rfl⟩
  · intro file mem
    rw [List.mem_singleton.1 mem]
    exact ⟨_, rfl⟩

end Course

end LiveCheck
