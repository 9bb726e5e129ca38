import LiveCheck.Outline
import LiveCheck.Workspace.Engine

/-!
Engines that work definition by definition.

`Engine.Local` is the engine that incremental analysis is made for: it never fails,
and what it says of a definition depends only on the definition and on the global
entries under its own name and the names it mentions. `Engine.Fallible` asks the same
of the records only, and only when the engine does not fail; `Engine.Reliable` asks
nothing but that it never fails. Outlines have an engine of the second kind
(`Outline.engine_fallible`), and one of the other two once the two names that make a
check fail are handled like all others (`Outline.steady_local`). `Engine.Piecewise` and
`Engine.Reports` are the first two without a condition on what is read of the global table,
and `Engine.Filed` has no condition on checks at all.
-/

namespace LiveCheck

section

variable {δ : Type} [Definition δ]

/-- An engine that may do anything, except that parsing gives definitions of the file that is
parsed. -/
structure Engine.Filed (engine : Engine δ) : Prop where
  parse_file : ∀ uri text definitions, engine.parse uri text = .parsed definitions →
    ∀ definition ∈ definitions, Definition.file definition = uri

/-- An engine that works definition by definition: `diag` gives the records of one
definition and `out` the definition as checked. -/
structure Engine.Local (engine : Engine δ) (diag : δ → Table δ → List Record)
    (out : δ → Table δ → δ) : Prop where
  /-- Parsing gives definitions of the file that is parsed. -/
  parse_file : ∀ uri text definitions, engine.parse uri text = .parsed definitions →
    ∀ definition ∈ definitions, Definition.file definition = uri
  /-- Checking never fails, and goes through the names that are defined. -/
  check_eq : ∀ names globals, engine.check names globals =
    .ok ⟨(names.filterMap globals.get?).map (out · globals),
      (names.filterMap globals.get?).flatMap (diag · globals)⟩
  diag_file : ∀ definition globals, ∀ record ∈ diag definition globals,
    record.file = Definition.file definition
  out_name : ∀ definition globals,
    Definition.name (out definition globals) = Definition.name definition
  out_file : ∀ definition globals,
    Definition.file (out definition globals) = Definition.file definition
  /-- Only the names a definition mentions and its own are looked up. -/
  diag_congr : ∀ definition globals globals',
    (∀ name, name ∈ Definition.references definition ∨ name = Definition.name definition →
      globals.get? name = globals'.get? name) →
    diag definition globals = diag definition globals'
  out_congr : ∀ definition globals globals',
    (∀ name, name ∈ Definition.references definition ∨ name = Definition.name definition →
      globals.get? name = globals'.get? name) →
    out definition globals = out definition globals'

/-- An engine that may fail, and reports definition by definition when it does not:
`diag` gives the records of one definition. -/
structure Engine.Fallible (engine : Engine δ) (diag : δ → Table δ → List Record) : Prop where
  /-- Parsing gives definitions of the file that is parsed. -/
  parse_file : ∀ uri text definitions, engine.parse uri text = .parsed definitions →
    ∀ definition ∈ definitions, Definition.file definition = uri
  /-- A check that does not fail reports on the names that are defined. -/
  check_report : ∀ names globals result, engine.check names globals = .ok result →
    result.report = (names.filterMap globals.get?).flatMap (diag · globals)
  diag_file : ∀ definition globals, ∀ record ∈ diag definition globals,
    record.file = Definition.file definition
  /-- Only the names a definition mentions and its own are looked up. -/
  diag_congr : ∀ definition globals globals',
    (∀ name, name ∈ Definition.references definition ∨ name = Definition.name definition →
      globals.get? name = globals'.get? name) →
    diag definition globals = diag definition globals'

theorem Engine.Fallible.filed {engine : Engine δ} {diag : δ → Table δ → List Record}
    (fallible : engine.Fallible diag) : engine.Filed :=
  ⟨fallible.parse_file⟩

/-- An engine that reports definition by definition when it does not fail: `diag` gives the
records of one definition, and may read all of the global table. -/
structure Engine.Reports (engine : Engine δ) (diag : δ → Table δ → List Record) : Prop where
  check_report : ∀ names globals result, engine.check names globals = .ok result →
    result.report = (names.filterMap globals.get?).flatMap (diag · globals)
  diag_file : ∀ definition globals, ∀ record ∈ diag definition globals,
    record.file = Definition.file definition

theorem Engine.Fallible.reports {engine : Engine δ} {diag : δ → Table δ → List Record}
    (fallible : engine.Fallible diag) : engine.Reports diag :=
  ⟨fallible.check_report, fallible.diag_file⟩

/-- An engine that never fails and goes through the definitions one by one. The records `diag`
of one of them and its form `out` once it is checked may depend on all of the global table. -/
structure Engine.Piecewise (engine : Engine δ) (diag : δ → Table δ → List Record)
    (out : δ → Table δ → δ) : Prop where
  parse_file : ∀ uri text definitions, engine.parse uri text = .parsed definitions →
    ∀ definition ∈ definitions, Definition.file definition = uri
  check_eq : ∀ names globals, engine.check names globals =
    .ok ⟨(names.filterMap globals.get?).map (out · globals),
      (names.filterMap globals.get?).flatMap (diag · globals)⟩
  diag_file : ∀ definition globals, ∀ record ∈ diag definition globals,
    record.file = Definition.file definition
  out_name : ∀ definition globals,
    Definition.name (out definition globals) = Definition.name definition
  out_file : ∀ definition globals,
    Definition.file (out definition globals) = Definition.file definition

theorem Engine.Local.piecewise {engine : Engine δ} {diag : δ → Table δ → List Record}
    {out : δ → Table δ → δ} (engineLocal : engine.Local diag out) : engine.Piecewise diag out :=
  ⟨engineLocal.parse_file, engineLocal.check_eq, engineLocal.diag_file, engineLocal.out_name,
    engineLocal.out_file⟩

theorem Engine.Piecewise.reports {engine : Engine δ} {diag : δ → Table δ → List Record}
    {out : δ → Table δ → δ} (piecewise : engine.Piecewise diag out) : engine.Reports diag where
  check_report names globals result checked := by
    rw [piecewise.check_eq] at checked
    cases checked
    rfl
  diag_file := piecewise.diag_file

theorem Engine.Local.fallible {engine : Engine δ} {diag : δ → Table δ → List Record}
    {out : δ → Table δ → δ} (engineLocal : engine.Local diag out) : engine.Fallible diag where
  parse_file := engineLocal.parse_file
  check_report := engineLocal.piecewise.reports.check_report
  diag_file := engineLocal.diag_file
  diag_congr := engineLocal.diag_congr

/-- An engine that never fails. A text may still not parse. -/
structure Engine.Reliable (engine : Engine δ) : Prop where
  parse_ne_crashed : ∀ uri text error, engine.parse uri text ≠ .crashed error
  check_ok : ∀ names globals, ∃ result, engine.check names globals = .ok result

end

/-! ## Outlines -/

namespace Outline

theorem file_of_item? {uri text : String} {offset : Nat} {line : List Char} {item : OutlineItem}
    (found : item? uri text offset line = some item) : item.file = uri := by
  unfold item? at found
  split at found
  · cases found
  · cases found
    rfl

theorem file_of_mem_parseLines {uri text : String} {seen : List String}
    {lines : List (Nat × List Char)} {items : List OutlineItem}
    (parsed : parseLines uri text seen lines = .ok items) :
    ∀ item ∈ items, item.file = uri := by
  fun_induction parseLines uri text seen lines generalizing items with
  | case1 =>
      cases parsed
      intro item mem
      cases mem
  | case2 seen offset line rest blank ih => exact ih parsed
  | case3 => cases parsed
  | case4 seen offset line rest notBlank notMark noItem ih => exact ih parsed
  | case5 => cases parsed
  | case6 seen offset line rest notBlank notMark item found fresh ih =>
      cases tail : parseLines uri text (item.name :: seen) rest with
      | error failure =>
          rw [tail] at parsed
          cases parsed
      | ok more =>
          rw [tail] at parsed
          cases parsed
          intro other mem
          rcases List.mem_cons.1 mem with rfl | mem
          · exact file_of_item? found
          · exact ih tail other mem

theorem file_of_parse {uri text : String} {items : List OutlineItem}
    (parsed : engine.parse uri text = .parsed items) : ∀ item ∈ items, item.file = uri := by
  unfold engine at parsed
  dsimp only at parsed
  split at parsed
  · next lines =>
    cases parsed
    exact file_of_mem_parseLines lines
  · cases parsed

/-- Only the names an item mentions are looked up. -/
theorem undefinedRecords_congr {globals globals' : Table OutlineItem} {item : OutlineItem}
    (agree : ∀ name ∈ Definition.references item, globals.get? name = globals'.get? name) :
    undefinedRecords globals item = undefinedRecords globals' item := by
  unfold undefinedRecords
  congr 1
  apply List.filter_congr
  rintro ⟨name, span⟩ mem
  have same := agree name (List.mem_map.2 ⟨(name, span), mem, rfl⟩)
  simp only [Table.contains, same]

theorem file_of_mem_undefinedRecords (item : OutlineItem) (globals : Table OutlineItem) :
    ∀ record ∈ undefinedRecords globals item, record.file = item.file := by
  intro record mem
  obtain ⟨mention, -, rfl⟩ := List.mem_map.1 mem
  rfl

/-- A check of several items that does not fail reports on each of them in turn. -/
theorem flatMap_of_mapM_check {globals : Table OutlineItem} {items : List OutlineItem}
    {checked : List (OutlineItem × List Record)}
    (ran : items.mapM (check globals) = .ok checked) :
    checked.flatMap (·.2) = items.flatMap (undefinedRecords globals) := by
  induction items generalizing checked with
  | nil =>
      cases ran
      rfl
  | cons item rest ih =>
      rw [List.mapM_cons] at ran
      cases first : check globals item with
      | error failure =>
          rw [first] at ran
          cases ran
      | ok result =>
          cases others : rest.mapM (check globals) with
          | error failure =>
              rw [first, others] at ran
              cases ran
          | ok results =>
              rw [first, others] at ran
              cases ran
              have own : result.2 = undefinedRecords globals item := by
                unfold check at first
                split at first
                · cases first
                · split at first
                  · cases first
                  · cases first
                    rfl
              rw [List.flatMap_cons, List.flatMap_cons, own, ih others]

theorem engine_fallible :
    engine.Fallible fun item globals => undefinedRecords globals item where
  parse_file _ _ _ parsed := file_of_parse parsed
  check_report names globals result checked := by
    unfold engine at checked
    dsimp only at checked
    cases ran : (names.filterMap globals.get?).mapM (check globals) with
    | error failure =>
        rw [ran] at checked
        cases checked
    | ok results =>
        rw [ran] at checked
        cases checked
        exact flatMap_of_mapM_check ran
  diag_file := file_of_mem_undefinedRecords
  diag_congr _ _ _ agree := undefinedRecords_congr fun name mem => agree name (Or.inl mem)

/-- Outlines with a check that fails on no name. -/
def steady : Engine OutlineItem where
  parse := engine.parse
  check names globals := .ok
    ⟨(names.filterMap globals.get?).map fun item => { item with checked := true },
      (names.filterMap globals.get?).flatMap (undefinedRecords globals)⟩

theorem steady_local : steady.Local (fun item globals => undefinedRecords globals item)
    (fun item _ => { item with checked := true }) where
  parse_file _ _ _ parsed := file_of_parse parsed
  check_eq _ _ := rfl
  diag_file := file_of_mem_undefinedRecords
  out_name _ _ := rfl
  out_file _ _ := rfl
  diag_congr _ _ _ agree := undefinedRecords_congr fun name mem => agree name (Or.inl mem)
  out_congr _ _ _ _ := rfl

theorem steady_reliable : steady.Reliable where
  parse_ne_crashed uri text error crashed := by
    unfold steady engine at crashed
    dsimp only at crashed
    split at crashed <;> cases crashed
  check_ok _ _ := ⟨_, rfl⟩

end Outline

end LiveCheck
