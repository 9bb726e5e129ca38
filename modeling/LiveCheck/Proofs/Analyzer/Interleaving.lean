import LiveCheck.Proofs.Analyzer.Incremental

/-!
The steps of passes in any order.

A pass plans a job, has it run and stores the outcome. While a job runs other passes may be
planned and stored, so a job may be stored any number of plans after its own, more than
once or never, and what it gives for definitions need not have to do with them
(`AnalysisEvent`, `Analyzer.run`). Still, a definition as checked is kept only as long as
its file holds its name: a plan drops every name that it touches, and what is stored later
is compared with the global table of that time. What the editor is told of a name therefore
always belongs to the file that owns the name (`queries_owned`).
-/

namespace LiveCheck

/-- What may happen to an analyzer. -/
inductive AnalysisEvent (δ : Type) where
  /-- A pass over some files is planned. -/
  | planAll (files : List (String × String))
  /-- The pass for a change is planned. -/
  | plan (uri text : String)
  /-- An outcome of a job is stored. -/
  | commit (job : Job δ) (outcome : Except EngineFailure (CheckResult δ))

variable {δ : Type} [Definition δ]

/-- A table has definitions under their own names. -/
def Named (table : Table δ) : Prop :=
  ∀ name definition, table.get? name = some definition → Definition.name definition = name

theorem named_tableOf (definitions : List δ) : Named (tableOf definitions) :=
  each_tableOf fun _ _ => rfl

theorem named_empty : Named (.empty : Table δ) := Table.each_empty

namespace Analyzer

variable {engine : Engine δ} {analyzer : Analyzer δ}

/-! ## Steps -/

/-- An event happens. What fails changes nothing. -/
def step (engine : Engine δ) (analyzer : Analyzer δ) : AnalysisEvent δ → Analyzer δ
  | .planAll files => (analyzer.planAll engine files).2
  | .plan uri text =>
    match analyzer.plan engine uri text with
    | .error _ => analyzer
    | .ok (_, next) => next
  | .commit job outcome =>
    match analyzer.commit job outcome with
    | .error _ => analyzer
    | .ok (_, next) => next

/-- Events happen one after the other, beginning with nothing known. -/
def run (engine : Engine δ) (events : List (AnalysisEvent δ)) : Analyzer δ :=
  events.foldl (step engine) .empty

/-- What planning the pass for a change does to an analyzer. -/
theorem step_plan (uri text : String) :
    analyzer.step engine (.plan uri text) =
      match engine.parse uri text with
      | .parsed definitions => (analyzer.planParsed uri (tableOf definitions)).2
      | .failed failure =>
        { analyzer with failures := analyzer.failures.insert uri (failure.record uri) }
      | .crashed _ => analyzer := by
  unfold step plan
  dsimp only
  cases engine.parse uri text <;> rfl

/-! ## Definitions of the files that own their names -/

/-- The definitions as checked are of the names they are stored under, and belong to the
files that own these names. -/
structure Owned (analyzer : Analyzer δ) : Prop where
  keyed : analyzer.store.Keyed
  globals : Named analyzer.store.globals
  checked : Named analyzer.checked
  owner : ∀ name definition, analyzer.checked.get? name = some definition →
    owner? analyzer.store.globals name = some (Definition.file definition)

theorem owned_empty : (Analyzer.empty : Analyzer δ).Owned where
  keyed _ _ entry := by cases entry
  globals := named_empty
  checked := named_empty
  owner _ _ found := by cases found

theorem owned_planAll (engine : Engine δ) (analyzer : Analyzer δ)
    (files : List (String × String)) : (analyzer.planAll engine files).2.Owned where
  keyed := keyed_planAll engine analyzer files
  globals := (each_planAll analyzer files fun _ _ _ _ _ _ => rfl).globals
  checked := named_empty
  owner _ _ found := by cases found

/-- A plan drops the names it touches, and all other names keep their owners. -/
theorem Owned.planParsed (owned : analyzer.Owned) (uri : String) {definitions : Table δ}
    (named : Named definitions) : (analyzer.planParsed uri definitions).2.Owned := by
  have kept : ∀ name definition,
      (analyzer.planParsed uri definitions).2.checked.get? name = some definition →
      analyzer.checked.get? name = some definition ∧
        ¬ (analyzer.store.record uri definitions).1.names.contains name = true := by
    intro name definition found
    rw [planParsed_checked, Table.get?_filter, Option.filter_eq_some_iff] at found
    exact ⟨found.1, by simpa using found.2⟩
  have recorded := Store.Each.record ⟨owned.keyed, owned.globals⟩ uri named
  refine ⟨recorded.files, recorded.globals, ?_, ?_⟩
  · intro name definition found
    exact owned.checked name definition (kept name definition found).1
  · intro name definition found
    obtain ⟨before, untouched⟩ := kept name definition found
    rw [planParsed_store, owner?, Store.get?_record_of_untouched untouched]
    exact owned.owner name definition before

/-- What is stored of the definitions of a check, whatever they are. -/
theorem get?_mergeChecked_owned {globals checked : Table δ} {definitions : List δ}
    (named : Named checked) {name : String} {definition : δ}
    (found : (mergeChecked globals checked definitions).get? name = some definition) :
    Definition.name definition = name ∧
      owner? globals name = some (Definition.file definition) := by
  rw [mergeChecked, Table.get?_filter, Option.filter_eq_some_iff, beq_iff_eq] at found
  obtain ⟨found, owner⟩ := found
  have inserted : (checked.insertAll (definitions.map fun definition =>
      (Definition.name definition, definition))).get? name = some definition := by
    rw [Table.insertAll, List.foldl_map]
    exact found
  refine ⟨?_, owner⟩
  rcases Table.mem_of_get?_insertAll inserted with mem | before
  · obtain ⟨source, -, eq⟩ := List.mem_map.1 mem
    cases eq
    rfl
  · exact named name definition before

theorem Owned.step (owned : analyzer.Owned) (engine : Engine δ) (event : AnalysisEvent δ) :
    (analyzer.step engine event).Owned := by
  cases event with
  | planAll files => exact owned_planAll engine analyzer files
  | plan uri text =>
      rw [step_plan]
      split
      · next definitions _ => exact owned.planParsed uri (named_tableOf definitions)
      · exact ⟨owned.keyed, owned.globals, owned.checked, owned.owner⟩
      · exact owned
  | commit job outcome =>
      cases outcome with
      | error failure => exact owned
      | ok result =>
          refine ⟨owned.keyed, owned.globals, ?_, ?_⟩
          · intro name definition found
            exact (get?_mergeChecked_owned owned.checked found).1
          · intro name definition found
            exact (get?_mergeChecked_owned owned.checked found).2

theorem owned_run (engine : Engine δ) (events : List (AnalysisEvent δ)) :
    (run engine events).Owned :=
  List.foldlRecOn events _ owned_empty fun _ owned event _ => owned.step engine event

/-! ## Queries -/

/-- What is found for a name is of that name and belongs to the file that owns it. -/
theorem Owned.lookup (owned : analyzer.Owned) {name : String} {definition : δ}
    (found : analyzer.lookup name = some definition) :
    Definition.name definition = name ∧
      owner? analyzer.store.globals name = some (Definition.file definition) := by
  rw [Analyzer.lookup, Option.or_eq_some_iff] at found
  rcases found with found | ⟨-, found⟩
  · exact ⟨owned.checked name definition found, owned.owner name definition found⟩
  · exact ⟨owned.globals name definition found, owner?_eq_some.2 ⟨definition, found, rfl⟩⟩

theorem Owned.isSome_lookup (owned : analyzer.Owned) (name : String) :
    (analyzer.lookup name).isSome = analyzer.store.globals.contains name := by
  cases held : analyzer.store.globals.get? name with
  | some definition => simp [Analyzer.lookup, Table.contains, held]
  | none =>
      have unknown : analyzer.lookup name = none := by
        rw [Option.eq_none_iff_forall_ne_some]
        intro definition found
        have owner := (owned.lookup found).2
        rw [owner?, held] at owner
        cases owner
      rw [unknown, Table.contains, held]

/-- The completions are of all global names, in their order. -/
theorem Owned.names_completions (owned : analyzer.Owned) :
    analyzer.completions.map Definition.name = analyzer.store.globals.keys := by
  have each : ∀ names : List String, (∀ name ∈ names, analyzer.store.globals.contains name) →
      (names.filterMap analyzer.lookup).map Definition.name = names := by
    intro names known
    induction names with
    | nil => rfl
    | cons name rest ih =>
        have found : (analyzer.lookup name).isSome = true :=
          (owned.isSome_lookup name).trans (known name List.mem_cons_self)
        obtain ⟨definition, found⟩ := Option.isSome_iff_exists.1 found
        rw [List.filterMap_cons_some found, List.map_cons, (owned.lookup found).1,
          ih fun other mem => known other (List.mem_cons_of_mem _ mem)]
  exact each _ fun name mem => Table.mem_keys.1 mem

/-- Whatever was planned and stored in whatever order: a definition as checked is stored
under its name and belongs to the file that owns the name; a name is found exactly if it is
global, and what is found belongs to the file that owns the name; the completions are of
the global names, in ascending order. -/
theorem queries_owned (engine : Engine δ) (events : List (AnalysisEvent δ)) :
    let analyzer := run engine events
    (∀ name definition, analyzer.checked.get? name = some definition →
      Definition.name definition = name ∧
        owner? analyzer.store.globals name = some (Definition.file definition)) ∧
    (∀ name, (analyzer.lookup name).isSome = analyzer.store.globals.contains name) ∧
    (∀ name definition, analyzer.lookup name = some definition →
      Definition.name definition = name ∧
        owner? analyzer.store.globals name = some (Definition.file definition)) ∧
    analyzer.completions.map Definition.name = analyzer.store.globals.keys ∧
    analyzer.store.globals.keys.Pairwise (· < ·) := by
  intro analyzer
  have owned : analyzer.Owned := owned_run engine events
  refine ⟨?_, owned.isSome_lookup, fun _ _ => owned.lookup, owned.names_completions, ?_⟩
  · intro name definition found
    exact ⟨owned.checked name definition found, owned.owner name definition found⟩
  · exact List.pairwise_map.2 analyzer.store.globals.ascending

end Analyzer

end LiveCheck
