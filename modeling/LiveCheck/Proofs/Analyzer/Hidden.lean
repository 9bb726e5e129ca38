import LiveCheck.Proofs.Analyzer.Repeated

/-!
The warnings on hidden definitions.

Which definitions are hidden changes with edits of other files, and the warnings are made
anew on every plan, from a map whose order means nothing. In every state that the steps of
passes lead to, the warnings of a file are one for each of its definitions whose name another
file owns, in ascending order of the names (`hidden_exact`).

The warnings of one file come from what that file contributes alone (`filter_hiddenAmong`),
so the order of the files does not matter, and within a file the order is that of its names.
-/

namespace LiveCheck

variable {δ : Type} [Definition δ]

/-! ## Hidden definitions -/

namespace Store

/-- A definition that a file contributes, under a name that another file owns. -/
structure Hides (store : Store δ) (file name : String) (definition : δ) (owner : String) :
    Prop where
  contributed : ∃ definitions, store.fileDefinitions? file = some definitions ∧
    definitions.get? name = some definition
  owned : owner? store.globals name = some owner
  elsewhere : owner ≠ file

/-- The hidden definitions of some files, file by file. -/
def hiddenAmong (globals : Table δ) (files : List (String × Contribution δ)) :
    List (δ × String) :=
  files.flatMap fun file => hiddenIn globals file.2.definitions

variable {store : Store δ} {globals definitions : Table δ} {definition : δ} {owner file : String}
  {files : List (String × Contribution δ)}

theorem hidden_eq_hiddenAmong (store : Store δ) :
    store.hidden = hiddenAmong store.globals store.files.entries := by
  rw [hidden, Table.values, List.flatMap_map]
  rfl

/-- A definition with the file that hides it, if one does. -/
def hiddenBy? (globals : Table δ) (definition : δ) : Option (δ × String) :=
  match owner? globals (Definition.name definition) with
  | some owner => if owner = Definition.file definition then none else some (definition, owner)
  | none => none

theorem hiddenBy?_eq_some {source : δ} :
    hiddenBy? globals source = some (definition, owner) ↔ source = definition ∧
      owner? globals (Definition.name definition) = some owner ∧
      owner ≠ Definition.file definition := by
  unfold hiddenBy?
  constructor
  · intro found
    split at found
    · next holder owned =>
      split at found
      · cases found
      · next other =>
        cases found
        exact ⟨rfl, owned, other⟩
    · cases found
  · rintro ⟨rfl, owned, other⟩
    rw [owned]
    exact if_neg other

theorem hiddenIn_eq (globals definitions : Table δ) :
    hiddenIn globals definitions = definitions.values.filterMap (hiddenBy? globals) := rfl

theorem mem_hiddenIn : (definition, owner) ∈ hiddenIn globals definitions ↔
    definition ∈ definitions.values ∧
      owner? globals (Definition.name definition) = some owner ∧
      owner ≠ Definition.file definition := by
  simp only [hiddenIn_eq, List.mem_filterMap, hiddenBy?_eq_some]
  constructor
  · rintro ⟨source, mem, rfl, hidden⟩
    exact ⟨mem, hidden⟩
  · exact fun parts => ⟨definition, parts.1, rfl, parts.2⟩

/-- What a file has hidden is listed among what it contributes. -/
theorem hides_iff (coherent : store.Coherent) (keyed : store.Keyed) {contribution : Contribution δ}
    (entry : store.files.get? file = some contribution) {name : String} :
    store.Hides file name definition owner ↔
      (definition, owner) ∈ hiddenIn store.globals contribution.definitions ∧
        Definition.name definition = name := by
  have contributed : store.fileDefinitions? file = some contribution.definitions :=
    Option.map_eq_some_iff.2 ⟨contribution, entry, rfl⟩
  constructor
  · rintro ⟨⟨_, found, defined⟩, owned, other⟩
    rw [contributed] at found
    cases found
    have own := keyed file contribution entry name definition defined
    refine ⟨mem_hiddenIn.2 ⟨Table.mem_values.2 ⟨name, defined⟩, own ▸ owned, ?_⟩, own⟩
    rwa [coherent.filed file contribution entry name definition defined]
  · rintro ⟨mem, rfl⟩
    obtain ⟨defined, owned, other⟩ := mem_hiddenIn.1 mem
    obtain ⟨key, found⟩ := Table.mem_values.1 defined
    rw [coherent.filed file contribution entry key definition found] at other
    have own := keyed file contribution entry key definition found
    exact ⟨⟨_, contributed, own ▸ found⟩, owned, other⟩

/-- The hidden definitions of one file are in ascending order of their names. -/
theorem ascending_hiddenIn (globals : Table δ) (named : Named definitions) :
    (hiddenIn globals definitions).Pairwise
      fun a b => Definition.name a.1 < Definition.name b.1 := by
  have ascending : definitions.values.Pairwise
      fun a b => Definition.name a < Definition.name b := by
    rw [Table.values, List.pairwise_map]
    refine definitions.ascending.imp_of_mem ?_
    intro a b aMem bMem lt
    rwa [named a.1 a.2 (Table.get?_eq_some_iff.2 aMem),
      named b.1 b.2 (Table.get?_eq_some_iff.2 bMem)]
  refine ascending.filterMap _ ?_
  rintro a b lt ⟨first, _⟩ aFound ⟨second, _⟩ bFound
  rwa [← (hiddenBy?_eq_some.1 aFound).1, ← (hiddenBy?_eq_some.1 bFound).1]

/-- The hidden definitions of one file are those among what it contributes. -/
theorem filter_hiddenAmong (globals : Table δ)
    (filed : ∀ entry ∈ files, Filed entry.1 entry.2.definitions) (file : String) :
    (hiddenAmong globals files).filter (fun hidden => Definition.file hidden.1 == file) =
      hiddenAmong globals (files.filter (·.1 == file)) := by
  induction files with
  | nil => rfl
  | cons first rest ih =>
      have own : ∀ hidden ∈ hiddenIn globals first.2.definitions,
          Definition.file hidden.1 = first.1 := by
        rintro ⟨definition, owner⟩ mem
        obtain ⟨name, found⟩ := Table.mem_values.1 (mem_hiddenIn.1 mem).1
        exact filed first List.mem_cons_self name definition found
      have ih := ih fun entry mem => filed entry (List.mem_cons_of_mem _ mem)
      rw [hiddenAmong, List.flatMap_cons, List.filter_append]
      by_cases same : first.1 = file
      · rw [List.filter_cons_of_pos (by simpa using same), List.filter_eq_self.2
          fun hidden mem => beq_iff_eq.2 ((own hidden mem).trans same)]
        exact congrArg _ ih
      · rw [List.filter_cons_of_neg (by simpa using same), List.filter_eq_nil_iff.2
          fun hidden mem => by simpa [own hidden mem] using same]
        exact ih

end Store

/-- The only entry under a key. -/
theorem Table.entries_filter_key {α : Type u} (table : Table α) (key : String) :
    table.entries.filter (·.1 == key) = ((table.get? key).map (key, ·)).toList := by
  have only : (table.filter fun other _ => other == key) =
      (table.get? key).elim .empty fun value => .insert .empty key value := by
    apply ext_get?
    intro other
    rw [get?_filter]
    by_cases same : other = key
    · subst same
      cases found : table.get? other with
      | none => rfl
      | some value => simp
    · have differs : (other == key) = false := by simpa using same
      cases table.get? key with
      | none => cases table.get? other <;> simp [differs]
      | some value =>
          rw [Option.elim_some, get?_insert, if_neg same]
          cases table.get? other <;> simp [differs]
  have entries := congrArg Table.entries only
  cases found : table.get? key with
  | none =>
      rw [found] at entries
      exact entries
  | some value =>
      rw [found] at entries
      exact entries

namespace Analyzer

open Store (hiddenIn hiddenAmong)

/-! ## Their warnings -/

/-- The warning on a hidden definition. -/
def hiddenRecord (hidden : δ × String) : Record :=
  alreadyDefined (Definition.file hidden.1) (Definition.origin hidden.1)
    (Definition.name hidden.1) hidden.2

/-- The warnings on hidden definitions, by file. -/
def warningsOf (hidden : List (δ × String)) : Table (List Record) :=
  hidden.foldl (fun table entry =>
    pushAt table (Definition.file entry.1) (hiddenRecord entry)) .empty

/-- One warning for each hidden definition of a file, in ascending order of the names. -/
def WarnsExactly (store : Store δ) (file : String) (records : List Record) : Prop :=
  ∃ hidden : List (String × δ × String), hidden.Pairwise (fun a b => a.1 < b.1) ∧
    (∀ name definition owner, (name, definition, owner) ∈ hidden ↔
      store.Hides file name definition owner) ∧
    records = hidden.map fun (name, definition, owner) =>
      alreadyDefined file (Definition.origin definition) name owner

variable {engine : Engine δ} {analyzer : Analyzer δ} {store : Store δ}

theorem hiddenRecords_eq (store : Store δ) :
    hiddenRecords store = warningsOf (hiddenAmong store.globals store.files.entries) := by
  rw [← Store.hidden_eq_hiddenAmong]
  rfl

theorem getD_warningsOf (hidden : List (δ × String)) (file : String) :
    ((warningsOf hidden).get? file).getD [] =
      (hidden.filter fun entry => Definition.file entry.1 == file).map hiddenRecord := by
  have pushed : ∀ table : Table (List Record),
      ((hidden.foldl (fun table entry => pushAt table (Definition.file entry.1)
        (hiddenRecord entry)) table).get? file).getD [] = (table.get? file).getD [] ++
        (hidden.filter fun entry => Definition.file entry.1 == file).map hiddenRecord := by
    induction hidden with
    | nil => exact fun table => (List.append_nil _).symm
    | cons first rest ih =>
        intro table
        rw [List.foldl_cons, ih, get?_pushAt, List.filter_cons]
        by_cases own : Definition.file first.1 = file
        · simp [own]
        · simp [own]
  exact pushed .empty

/-- The warnings of a file are on the hidden definitions that it contributes, in whatever
order the files are listed. -/
theorem getD_warningsOf_perm (coherent : store.Coherent)
    {order : List (String × Contribution δ)} (perm : order.Perm store.files.entries)
    (file : String) :
    ((warningsOf (hiddenAmong store.globals order)).get? file).getD [] =
      ((store.fileDefinitions? file).elim [] (hiddenIn store.globals)).map hiddenRecord := by
  have filed : ∀ entry ∈ order, Store.Filed entry.1 entry.2.definitions := fun entry mem =>
    coherent.filed entry.1 entry.2 (Table.get?_eq_some_iff.2 (perm.mem_iff.1 mem))
  have only := perm.filter (·.1 == file)
  rw [Table.entries_filter_key] at only
  rw [getD_warningsOf, Store.filter_hiddenAmong store.globals filed, Store.fileDefinitions?]
  cases entry : store.files.get? file with
  | none =>
      rw [entry] at only
      rw [List.perm_nil.1 only]
      rfl
  | some contribution =>
      rw [entry] at only
      rw [List.perm_singleton.1 only]
      exact congrArg _ (List.append_nil _)

theorem warnsExactly_hiddenIn (coherent : store.Coherent) (keyed : store.Keyed) (file : String) :
    WarnsExactly store file
      (((store.fileDefinitions? file).elim [] (hiddenIn store.globals)).map hiddenRecord) := by
  cases contributed : store.fileDefinitions? file with
  | none =>
      refine ⟨[], .nil, ?_, rfl⟩
      intro name definition owner
      refine ⟨nofun, ?_⟩
      intro hides
      obtain ⟨definitions, found, -⟩ := hides.contributed
      rw [contributed] at found
      cases found
  | some definitions =>
      obtain ⟨contribution, entry, rfl⟩ := Option.map_eq_some_iff.1 contributed
      refine ⟨(hiddenIn store.globals contribution.definitions).map
        fun hidden => (Definition.name hidden.1, hidden), ?_, ?_, ?_⟩
      · rw [List.pairwise_map]
        exact Store.ascending_hiddenIn store.globals (keyed file contribution entry)
      · intro name definition owner
        rw [List.mem_map, Store.hides_iff coherent keyed entry]
        constructor
        · rintro ⟨hidden, mem, same⟩
          cases same
          exact ⟨mem, rfl⟩
        · rintro ⟨mem, rfl⟩
          exact ⟨(definition, owner), mem, rfl⟩
      · rw [List.map_map]
        apply List.map_congr_left
        rintro ⟨definition, owner⟩ mem
        obtain ⟨key, found⟩ := Table.mem_values.1 (Store.mem_hiddenIn.1 mem).1
        show alreadyDefined (Definition.file definition) _ _ _ = alreadyDefined file _ _ _
        rw [coherent.filed file contribution entry key definition found]

/-! ## Every order of steps -/

/-- The store is in the state between operations, and the warnings are on what it hides. -/
structure Warned (analyzer : Analyzer δ) : Prop where
  coherent : analyzer.store.Coherent
  keyed : analyzer.store.Keyed
  hidden : analyzer.hidden = hiddenRecords analyzer.store

theorem warned_empty : (Analyzer.empty : Analyzer δ).Warned where
  coherent := Store.coherent_of_empty .empty 0
  keyed _ _ entry := by cases entry
  hidden := rfl

theorem warned_planAll (filed : engine.Filed) (analyzer : Analyzer δ)
    {files : List (String × String)} (distinct : (files.map (·.1)).Nodup) :
    (analyzer.planAll engine files).2.Warned :=
  ⟨coherent_planAll filed analyzer distinct, keyed_planAll engine analyzer files, rfl⟩

theorem Warned.planParsed (warned : analyzer.Warned) {uri : String} {definitions : Table δ}
    (filed : Store.Filed uri definitions) (named : Named definitions) :
    (analyzer.planParsed uri definitions).2.Warned :=
  ⟨warned.coherent.record filed, keyed_record warned.keyed uri named, rfl⟩

theorem Warned.step (warned : analyzer.Warned) (filed : engine.Filed) (event : AnalysisEvent δ)
    (distinct : ∀ files, event = .planAll files → (files.map (·.1)).Nodup) :
    (analyzer.step engine event).Warned := by
  cases event with
  | planAll files => exact warned_planAll filed analyzer (distinct files rfl)
  | plan uri text =>
      rw [step_plan]
      split
      · next definitions parsed =>
        exact warned.planParsed (filed_tableOf filed parsed) (named_tableOf definitions)
      · exact ⟨warned.coherent, warned.keyed, warned.hidden⟩
      · exact warned
  | commit job outcome =>
      cases outcome with
      | error failure => exact warned
      | ok result => exact ⟨warned.coherent, warned.keyed, warned.hidden⟩

theorem warned_run (filed : engine.Filed) {events : List (AnalysisEvent δ)}
    (distinct : ∀ files, .planAll files ∈ events → (files.map (·.1)).Nodup) :
    (run engine events).Warned :=
  List.foldlRecOn events _ warned_empty fun _ warned _ mem =>
    warned.step filed _ fun files same => distinct files (same ▸ mem)

theorem Warned.getD_hidden (warned : analyzer.Warned) (file : String) :
    (analyzer.hidden.get? file).getD [] = ((analyzer.store.fileDefinitions? file).elim []
      (hiddenIn analyzer.store.globals)).map hiddenRecord := by
  rw [warned.hidden, hiddenRecords_eq]
  exact getD_warningsOf_perm warned.coherent (.refl _) file

theorem Warned.exact (warned : analyzer.Warned) (file : String) :
    WarnsExactly analyzer.store file ((analyzer.hidden.get? file).getD []) := by
  rw [warned.getD_hidden]
  exact warnsExactly_hiddenIn warned.coherent warned.keyed file

/-- Whatever was planned and stored in whatever order: the warnings of a file are, in
ascending order of the names, one for each of its definitions whose name another file owns.
They are the same in whatever order the files of the store are gone through. -/
theorem hidden_exact (filed : engine.Filed) (events : List (AnalysisEvent δ))
    (distinct : ∀ files, .planAll files ∈ events → (files.map (·.1)).Nodup) (file : String) :
    let analyzer := run engine events
    let warnings := (analyzer.hidden.get? file).getD []
    WarnsExactly analyzer.store file warnings ∧
      ∀ order : List (String × Contribution δ), order.Perm analyzer.store.files.entries →
        ((warningsOf (hiddenAmong analyzer.store.globals order)).get? file).getD [] =
          warnings := by
  intro analyzer warnings
  have warned : analyzer.Warned := warned_run filed distinct
  refine ⟨warned.exact file, ?_⟩
  intro order perm
  exact (getD_warningsOf_perm warned.coherent perm file).trans (warned.getD_hidden file).symm

/-- Of the two names of a file one is taken by a second file and one by a third. -/
theorem hidden_exact_of_two :
    let events : List (AnalysisEvent OutlineItem) :=
      [.planAll [("a", "y\nx")], .plan "b" "y\nx", .plan "c" "x"]
    let analyzer := run Outline.engine events
    let warnings := [alreadyDefined "a" ⟨2, 3⟩ "x" "c", alreadyDefined "a" ⟨0, 1⟩ "y" "b"]
    (∀ files, .planAll files ∈ events → (files.map (·.1)).Nodup) ∧
      analyzer.hidden.get? "a" = some warnings ∧
      WarnsExactly analyzer.store "a" warnings ∧
      ∀ order, order.Perm analyzer.store.files.entries →
        ((warningsOf (hiddenAmong analyzer.store.globals order)).get? "a").getD [] =
          warnings := by
  intro events analyzer warnings
  have distinct : ∀ files, .planAll files ∈ events → (files.map (·.1)).Nodup := by
    simp [events]
  have found : analyzer.hidden.get? "a" = some warnings := by
    show (run Outline.engine events).hidden.get? "a" = _
    cbv
  obtain ⟨warns, stable⟩ := hidden_exact Outline.engine_fallible.filed events distinct "a"
  have listed : (analyzer.hidden.get? "a").getD [] = warnings := by rw [found, Option.getD_some]
  exact ⟨distinct, found, listed ▸ warns, listed ▸ stable⟩

end Analyzer

end LiveCheck
