import LiveCheck.Proofs.Analyzer.UpToDate
import LiveCheck.Proofs.Store.Each

/-!
Incremental analysis comes to the same as checking everything anew.

A pass plans a job and runs it. The plan for a change covers every file that the
change leaves out of date (`UpToDate.planParsed`), and the plan of a first pass covers
every known file (`planned_planAll`), so every pass leaves the analyzer up to
date, whatever passes came before it.
-/

namespace LiveCheck

namespace Analyzer

variable {δ : Type} [Definition δ] {engine : Engine δ} {diag : δ → Table δ → List Record}
  {out : δ → Table δ → δ} {analyzer : Analyzer δ}

/-! ## Planning the pass for a change -/

section Change

variable {uri : String} {definitions : Table δ}

@[simp]
theorem planParsed_store : (analyzer.planParsed uri definitions).2.store =
    (analyzer.store.record uri definitions).2 := rfl

@[simp]
theorem planParsed_records :
    (analyzer.planParsed uri definitions).2.records = analyzer.records := rfl

@[simp]
theorem planParsed_checked : (analyzer.planParsed uri definitions).2.checked =
    analyzer.checked.filter fun name _ =>
      !(analyzer.store.record uri definitions).1.names.contains name := rfl

theorem mem_owners {globals : Table δ} {names : List String} {file : String} :
    file ∈ owners globals names ↔ ∃ name ∈ names, owner? globals name = some file :=
  List.mem_filterMap

/-- The files a change may affect. -/
theorem contains_covered {file : String} :
    (analyzer.planParsed uri definitions).1.covered.contains file = true ↔
      (∃ name, definitions.contains name = true ∧
        owner? analyzer.store.globals name = some file) ∨ file = uri ∨
      ∃ name, ((analyzer.store.record uri definitions).1.removed.contains name = true ∨
        name ∈ (analyzer.store.record uri definitions).2.mentioning
          (analyzer.store.record uri definitions).1.names uri) ∧
        owner? (analyzer.store.record uri definitions).2.globals name = some file := by
  let recorded := analyzer.store.record uri definitions
  show (NameSet.ofList (owners analyzer.store.globals definitions.keys ++ uri ::
    owners recorded.2.globals (recorded.1.removed.toList ++
      recorded.2.mentioning recorded.1.names uri))).contains file = true ↔ _
  simp only [recorded, NameSet.contains_ofList, List.mem_append, List.mem_cons, mem_owners,
    Table.mem_keys, NameSet.mem_toList]

/-- A definition of a file that is not covered stood under its name before, and
neither its name nor a name it mentions is touched. -/
theorem untouched_of_uncovered (filed : Store.Filed uri definitions)
    (coherent : analyzer.store.Coherent) {name : String} {definition : δ}
    (held : (analyzer.store.record uri definitions).2.globals.get? name = some definition)
    (uncovered : ¬ (analyzer.planParsed uri definitions).1.covered.contains
      (Definition.file definition) = true) :
    ∀ other, other ∈ Definition.references definition ∨ other = name →
      ¬ (analyzer.store.record uri definitions).1.names.contains other = true := by
  rw [contains_covered, not_or, not_or] at uncovered
  obtain ⟨-, foreign, unregained⟩ := uncovered
  have owned : owner? (analyzer.store.record uri definitions).2.globals name =
      some (Definition.file definition) := owner?_eq_some.2 ⟨definition, held, rfl⟩
  rintro other (mentioned | rfl) touched
  · exact unregained ⟨name, Or.inr (Store.mem_mentioning.2
      ⟨definition, held, foreign, other, mentioned, touched⟩), owned⟩
  · rw [Store.contains_record_names] at touched
    cases defined : definitions.get? other with
    | some own =>
        -- The name would belong to the changed file itself.
        rw [coherent.get?_record_of_defined defined] at held
        cases held
        exact foreign (filed other definition defined)
    | none =>
        rcases touched with has | before
        · exact Table.not_contains.2 defined has
        · exact unregained ⟨other, Or.inl (Store.contains_record_removed.2
            ⟨before, defined⟩), owned⟩

/-- A file that is not covered holds what it held before. -/
theorem heldBy_of_uncovered (filed : Store.Filed uri definitions)
    (coherent : analyzer.store.Coherent) {file : String}
    (uncovered : ¬ (analyzer.planParsed uri definitions).1.covered.contains file = true) :
    heldBy (analyzer.store.record uri definitions).2.globals file =
      heldBy analyzer.store.globals file := by
  apply Table.ext_get?
  intro name
  apply Option.ext
  intro definition
  rw [get?_heldBy, get?_heldBy]
  constructor
  · intro parts
    obtain ⟨held, rfl⟩ := parts
    have untouched := untouched_of_uncovered filed coherent held uncovered name (Or.inr rfl)
    rw [Store.get?_record_of_untouched untouched] at held
    exact ⟨held, rfl⟩
  · intro parts
    obtain ⟨held, rfl⟩ := parts
    rw [contains_covered, not_or, not_or] at uncovered
    obtain ⟨unlost, foreign, -⟩ := uncovered
    have owned : owner? analyzer.store.globals name = some (Definition.file definition) :=
      owner?_eq_some.2 ⟨definition, held, rfl⟩
    have undefined : definitions.get? name = none :=
      Table.not_contains.1 fun has => unlost ⟨name, has, owned⟩
    have elsewhere : owner? analyzer.store.globals name ≠ some uri := by
      rw [owned]
      exact fun eq => foreign (Option.some.inj eq)
    rw [coherent.get?_record_of_foreign undefined elsewhere]
    exact ⟨held, rfl⟩

theorem keyed_record (keyed : analyzer.store.Keyed) (uri : String)
    (named : ∀ name definition, definitions.get? name = some definition →
      Definition.name definition = name) :
    (analyzer.store.record uri definitions).2.Keyed :=
  fun _ _ => Store.each_files_record keyed named

/-- What a file that is not covered mentions means the same as before. -/
theorem agree_of_uncovered (filed : Store.Filed uri definitions)
    (coherent : analyzer.store.Coherent) (keyed : analyzer.store.Keyed)
    (named : ∀ name definition, definitions.get? name = some definition →
      Definition.name definition = name) {name : String} {definition : δ}
    (held : (analyzer.store.record uri definitions).2.globals.get? name = some definition)
    (uncovered : ¬ (analyzer.planParsed uri definitions).1.covered.contains
      (Definition.file definition) = true) :
    ∀ other, other ∈ Definition.references definition ∨ other = Definition.name definition →
      analyzer.store.globals.get? other =
        (analyzer.store.record uri definitions).2.globals.get? other := by
  intro other mentioned
  rw [(keyed_record keyed uri named).globals (coherent.record filed) held] at mentioned
  exact (Store.get?_record_of_untouched
    (untouched_of_uncovered filed coherent held uncovered other mentioned)).symm

/-- A file that is not covered has the records it had before. -/
theorem recordsInFull_of_uncovered (fallible : engine.Fallible diag)
    (filed : Store.Filed uri definitions) (coherent : analyzer.store.Coherent)
    (keyed : analyzer.store.Keyed)
    (named : ∀ name definition, definitions.get? name = some definition →
      Definition.name definition = name) {file : String}
    (uncovered : ¬ (analyzer.planParsed uri definitions).1.covered.contains file = true) :
    recordsInFull diag analyzer.store.globals file =
      recordsInFull diag (analyzer.store.record uri definitions).2.globals file := by
  rw [recordsInFull, recordsInFull, ← heldBy_of_uncovered filed coherent uncovered]
  apply List.flatMap_congr
  intro definition mem
  obtain ⟨name, found⟩ := Table.mem_values.1 mem
  obtain ⟨held, rfl⟩ := get?_heldBy.1 found
  exact fallible.diag_congr definition _ _
    (agree_of_uncovered filed coherent keyed named held uncovered)

/-- A file that a change makes known is covered. -/
theorem known_of_uncovered {file : String}
    (isKnown : (analyzer.store.record uri definitions).2.known.contains file = true)
    (uncovered : ¬ (analyzer.planParsed uri definitions).1.covered.contains file = true) :
    analyzer.store.known.contains file = true := by
  rcases Store.contains_record_known.1 isKnown with eq | isKnown'
  · exact absurd (contains_covered.2 (Or.inr (Or.inl eq))) uncovered
  · exact isKnown'

/-- The plan for a change covers every file that the change leaves out of date. -/
theorem UpToDate.planParsed (engineLocal : engine.Local diag out)
    (upToDate : UpToDate diag out analyzer) (filed : Store.Filed uri definitions)
    (named : ∀ name definition, definitions.get? name = some definition →
      Definition.name definition = name) :
    Planned diag out (analyzer.planParsed uri definitions).2
      (analyzer.planParsed uri definitions).1 := by
  obtain ⟨coherent, keyed, records, checked⟩ := upToDate
  refine ⟨coherent.record filed, keyed_record keyed uri named, rfl, rfl, ?_, ?_⟩
  · intro file isKnown uncovered
    rw [planParsed_store] at isKnown ⊢
    rw [planParsed_records, records file (known_of_uncovered isKnown uncovered),
      recordsInFull_of_uncovered engineLocal.fallible filed coherent keyed named uncovered]
  · intro name definition held uncovered
    rw [planParsed_store] at held ⊢
    have untouched := untouched_of_uncovered filed coherent held uncovered name (Or.inr rfl)
    have kept := Bool.eq_false_iff.2 untouched
    rw [planParsed_checked, Table.get?_filter, checked,
      ← Store.get?_record_of_untouched untouched, held, Option.map_some, Option.filter_some,
      kept, engineLocal.out_congr definition _ _
        (agree_of_uncovered filed coherent keyed named held uncovered)]
    rfl

end Change

/-! ## Planning the first pass -/

section Startup

variable {files : List (String × String)}

theorem filed_tableOf (filed : engine.Filed) {uri text : String} {definitions : List δ}
    (parsed : engine.parse uri text = .parsed definitions) :
    Store.Filed uri (tableOf definitions) := by
  intro name definition found
  exact filed.parse_file uri text definitions parsed definition
    (mem_of_get?_tableOf found).1

theorem parseFile_eq_ok {uri text : String} {table : Table δ} :
    parseFile engine uri text = .ok table ↔
      ∃ definitions, engine.parse uri text = .parsed definitions ∧ tableOf definitions = table := by
  unfold parseFile
  cases engine.parse uri text <;> simp

/-- A file that parses has the table of its definitions. -/
theorem mem_parsedFiles {file : String × Table δ} :
    file ∈ parsedFiles engine files ↔ ∃ text definitions, (file.1, text) ∈ files ∧
      engine.parse file.1 text = .parsed definitions ∧ tableOf definitions = file.2 := by
  have parsed : ∀ uri text, (parseFile engine uri text).toOption.map (uri, ·) = some file ↔
      uri = file.1 ∧ parseFile engine uri text = .ok file.2 := by
    intro uri text
    cases parseFile engine uri text <;> simp [Except.toOption, Prod.ext_iff]
  simp only [parsedFiles, List.mem_filterMap, Prod.exists, parsed, parseFile_eq_ok]
  constructor
  · intro parts
    obtain ⟨uri, text, given, rfl, definitions, parses, table⟩ := parts
    exact ⟨text, definitions, given, parses, table⟩
  · intro parts
    obtain ⟨text, definitions, given, parses, table⟩ := parts
    exact ⟨file.1, text, given, rfl, definitions, parses, table⟩

/-- The files that are kept are those with a text that parses. -/
theorem mem_map_parsedFiles {uri : String} :
    uri ∈ (parsedFiles engine files).map (·.1) ↔
      ∃ text definitions, (uri, text) ∈ files ∧ engine.parse uri text = .parsed definitions := by
  constructor
  · intro mem
    obtain ⟨file, kept, rfl⟩ := List.mem_map.1 mem
    obtain ⟨text, definitions, given, parsed, -⟩ := mem_parsedFiles.1 kept
    exact ⟨text, definitions, given, parsed⟩
  · intro parts
    obtain ⟨text, definitions, given, parsed⟩ := parts
    exact List.mem_map.2 ⟨(uri, tableOf definitions),
      mem_parsedFiles.2 ⟨text, definitions, given, parsed, rfl⟩, rfl⟩

theorem sublist_parsedFiles (engine : Engine δ) (files : List (String × String)) :
    ((parsedFiles engine files).map (·.1)).Sublist (files.map (·.1)) := by
  induction files with
  | nil => exact List.Sublist.refl _
  | cons first rest ih =>
      obtain ⟨uri, text⟩ := first
      cases parsed : parseFile engine uri text with
      | error record =>
          have skipped : parsedFiles engine ((uri, text) :: rest) = parsedFiles engine rest := by
            simp [parsedFiles, parsed, Except.toOption]
          rw [skipped]
          exact ih.cons _
      | ok definitions =>
          have kept : parsedFiles engine ((uri, text) :: rest) =
              (uri, definitions) :: parsedFiles engine rest := by
            simp [parsedFiles, parsed, Except.toOption]
          rw [kept]
          exact ih.cons_cons _

/-- Every global name belongs to a known file. -/
theorem namesIn_known {store : Store δ} (coherent : store.Coherent) :
    store.namesIn store.known = store.globals.keys := by
  have all : store.globals.entries.filter (fun entry =>
      store.known.contains (Definition.file entry.2)) = store.globals.entries := by
    rw [List.filter_eq_self]
    intro entry mem
    exact coherent.known_of_globals (Table.get?_eq_some_iff.2 mem)
  rw [Store.namesIn]
  exact congrArg (List.map _) all

theorem coherent_planAll (filed : engine.Filed) (analyzer : Analyzer δ)
    (distinct : (files.map (·.1)).Nodup) :
    (analyzer.planAll engine files).2.store.Coherent := by
  have filedSets : ∀ file ∈ parsedFiles engine files, Store.Filed file.1 file.2 := by
    intro file mem
    obtain ⟨text, definitions, -, parsed, eq⟩ := mem_parsedFiles.1 mem
    rw [← eq]
    exact filed_tableOf filed parsed
  exact Store.coherent_rebuild analyzer.store ((sublist_parsedFiles engine files).nodup distinct)
    filedSets

/-- A first pass leaves a store with definitions of the files alone. -/
theorem each_planAll {keeps : String → δ → Prop} (analyzer : Analyzer δ)
    (files : List (String × String))
    (parses : ∀ uri text definitions, engine.parse uri text = .parsed definitions →
      ∀ definition ∈ definitions, keeps (Definition.name definition) definition) :
    (analyzer.planAll engine files).2.store.Each keeps := by
  apply Store.each_rebuild
  intro file mem
  obtain ⟨text, definitions, -, parsed, eq⟩ := mem_parsedFiles.1 mem
  rw [← eq]
  exact each_tableOf (parses file.1 text definitions parsed)

theorem keyed_planAll (engine : Engine δ) (analyzer : Analyzer δ)
    (files : List (String × String)) : (analyzer.planAll engine files).2.store.Keyed :=
  (each_planAll analyzer files fun _ _ _ _ _ _ => rfl).files

/-- The plan of a first pass covers every known file. -/
theorem planned_planAll (engineLocal : engine.Local diag out) (analyzer : Analyzer δ)
    (distinct : (files.map (·.1)).Nodup) :
    Planned diag out (analyzer.planAll engine files).2 (analyzer.planAll engine files).1 := by
  have coherent := coherent_planAll engineLocal.fallible.filed analyzer distinct
  refine ⟨coherent, keyed_planAll engine analyzer files, rfl, (namesIn_known coherent).symm,
    ?_, ?_⟩
  · intro file isKnown uncovered
    exact absurd isKnown uncovered
  · intro name definition held uncovered
    exact absurd (coherent.known_of_globals held) uncovered

end Startup

/-! ## Every history -/

/-- The analyzers that passes lead to. -/
inductive Reached (engine : Engine δ) : Analyzer δ → Prop
  | empty : Reached engine .empty
  | startup {analyzer : Analyzer δ} {files : List (String × String)} :
    Reached engine analyzer → (files.map (·.1)).Nodup →
    Reached engine (analyzer.startup engine files).2
  | analyze {analyzer : Analyzer δ} (uri text : String) :
    Reached engine analyzer → Reached engine (analyzer.analyze engine uri text).2

theorem upToDate_empty (diag : δ → Table δ → List Record) (out : δ → Table δ → δ) :
    UpToDate diag out (.empty : Analyzer δ) where
  coherent := Store.coherent_of_empty .empty 0
  keyed _ _ entry := by cases entry
  records _ isKnown := by cases isKnown
  checked _ := rfl

/-- A pass for a change leaves the analyzer up to date, also if the text does not
parse. -/
theorem UpToDate.analyze (engineLocal : engine.Local diag out)
    (upToDate : UpToDate diag out analyzer) (uri text : String) :
    UpToDate diag out (analyzer.analyze engine uri text).2 := by
  unfold Analyzer.analyze plan
  cases parsed : engine.parse uri text with
  | crashed error => exact upToDate
  | failed failure => exact ⟨upToDate.coherent, upToDate.keyed, upToDate.records, upToDate.checked⟩
  | parsed definitions =>
      exact (upToDate.planParsed engineLocal (filed_tableOf engineLocal.fallible.filed parsed)
        fun _ _ found => (mem_of_get?_tableOf found).2).finish engineLocal

theorem Reached.upToDate (engineLocal : engine.Local diag out)
    (reached : Reached engine analyzer) : UpToDate diag out analyzer := by
  induction reached with
  | empty => exact upToDate_empty diag out
  | startup _ distinct _ => exact (planned_planAll engineLocal _ distinct).finish engineLocal
  | analyze uri text _ ih => exact ih.analyze engineLocal uri text

/-- After every history of passes the stored records of a known file are those of a
check of the whole global table, and the definitions as checked are the global
names with what that check makes of them. -/
theorem Reached.incremental_eq_full (engineLocal : engine.Local diag out)
    (reached : Reached engine analyzer) :
    (∀ file, analyzer.store.known.contains file = true →
      (analyzer.records.get? file).getD [] =
        recordsInFull diag analyzer.store.globals file) ∧
    ∀ name, analyzer.checked.get? name =
      (analyzer.store.globals.get? name).map (out · analyzer.store.globals) :=
  ⟨(reached.upToDate engineLocal).records, (reached.upToDate engineLocal).checked⟩

/-- A name that one file mentions is undefined until another file defines it. -/
theorem incremental_eq_full_outline :
    let undefined : Record := .error "a" ⟨3, 4⟩ "Undefined reference: y\n"
    let before := (Analyzer.empty.analyze Outline.steady "a" "x: y").2
    let after := (before.analyze Outline.steady "b" "y").2
    before.records.get? "a" = some [undefined] ∧ after.records.get? "a" = some [] ∧
      Reached Outline.steady after ∧
      (∀ file, after.store.known.contains file = true →
        (after.records.get? file).getD [] =
          recordsInFull (fun item globals => Outline.undefinedRecords globals item)
            after.store.globals file) ∧
      ∀ name, after.checked.get? name =
        (after.store.globals.get? name).map fun item => { item with checked := true } := by
  intro undefined before after
  have reached : Reached Outline.steady after :=
    (Reached.empty.analyze "a" "x: y").analyze "b" "y"
  exact ⟨by decide, by decide, reached, reached.incremental_eq_full Outline.steady_local⟩

end Analyzer

end LiveCheck
