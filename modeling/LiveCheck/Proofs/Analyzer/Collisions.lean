import LiveCheck.Proofs.Analyzer.Hidden
import LiveCheck.Proofs.Store.Rebuild

/-!
When a warning on a name that is defined twice is true.

Two mechanisms give that warning. The warnings on hidden definitions are made anew on every
change, and are true. The warning on a file that the last first pass left out stays until the
file itself is parsed again, whatever becomes of the owner that it names. It is true as long
as that owner is the newest of the files that hold the name (`collisions_true_unless_moved`),
which `holders` computes from the texts parsed since.

What a store has of a name is a stack of files, newest first (`Ranks`): a parse takes its file
out of the stack and puts it on top if it defines the name, and the owner is the top.
-/

namespace LiveCheck

variable {δ : Type} [Definition δ]

/-! ## The files that hold a name -/

namespace Store

variable {store : Store δ} {name uri : String} {held : List String} {definitions : Table δ}

/-- The files that define a name, the one parsed last first. -/
structure Ranks (store : Store δ) (name : String) (held : List String) : Prop where
  mem_iff : ∀ uri, uri ∈ held ↔ store.Defined uri name
  descending : held.Pairwise fun uri older => ∀ contribution other,
    store.files.get? uri = some contribution → store.files.get? older = some other →
    other.stamp < contribution.stamp

/-- A name belongs to the file on top. -/
theorem Ranks.owner (ranks : store.Ranks name held) (coherent : store.Coherent) :
    owner? store.globals name = held.head? := by
  cases held with
  | nil =>
      have absent : newest? store.files name = none := by
        rw [newest?_eq_none_iff]
        intro uri contribution entry
        exact Table.not_contains.1 fun has =>
          List.not_mem_nil ((ranks.mem_iff uri).2 ⟨contribution, entry, has⟩)
      rw [owner?, coherent.newest, absent]
      rfl
  | cons top rest =>
      obtain ⟨contribution, entry, has⟩ := (ranks.mem_iff top).1 List.mem_cons_self
      obtain ⟨definition, defined⟩ := Table.contains_eq_true.1 has
      have newest : IsNewest store.files name definition := by
        refine ⟨top, contribution, entry, defined, ?_⟩
        intro uri other entry' has'
        rcases List.mem_cons.1 ((ranks.mem_iff uri).2 ⟨other, entry', has'⟩) with rfl | mem
        · rw [entry] at entry'
          cases entry'
          exact Nat.le_refl _
        · exact Nat.le_of_lt
            ((List.pairwise_cons.1 ranks.descending).1 uri mem contribution other entry entry')
      rw [owner?, coherent.newest, (newest?_eq_some_iff coherent.apart).2 newest]
      exact congrArg some (coherent.filed top contribution entry name definition defined)

/-- The files that hold a name after one of them is parsed. -/
def holdersAfter (name : String) (held : List String) (file : String × Table δ) : List String :=
  let others := held.filter (· != file.1)
  if file.2.contains name then file.1 :: others else others

omit [Definition δ] in
theorem mem_holdersAfter {other : String} :
    other ∈ holdersAfter name held (uri, definitions) ↔
      if other = uri then definitions.contains name = true else other ∈ held := by
  unfold holdersAfter
  by_cases has : definitions.contains name = true
  · by_cases same : other = uri <;> simp [has, same]
  · by_cases same : other = uri <;> simp [has, same]

theorem Ranks.record (ranks : store.Ranks name held) (coherent : store.Coherent)
    (uri : String) (definitions : Table δ) :
    (store.record uri definitions).2.Ranks name (holdersAfter name held (uri, definitions)) where
  mem_iff other := by
    rw [mem_holdersAfter, Defined]
    simp only [get?_record_files]
    split
    · simp
    · exact ranks.mem_iff other
  descending := by
    have others : (held.filter (· != uri)).Pairwise fun first older =>
        ∀ contribution other,
          (store.record uri definitions).2.files.get? first = some contribution →
          (store.record uri definitions).2.files.get? older = some other →
          other.stamp < contribution.stamp := by
      refine (ranks.descending.filter _).imp_of_mem ?_
      intro first older firstMem olderMem lt contribution other entry entry'
      rw [get?_record_files, if_neg (by simpa using (List.mem_filter.1 firstMem).2)] at entry
      rw [get?_record_files, if_neg (by simpa using (List.mem_filter.1 olderMem).2)] at entry'
      exact lt contribution other entry entry'
    unfold holdersAfter
    dsimp only
    split
    · refine List.pairwise_cons.2 ⟨?_, others⟩
      intro older mem contribution other entry entry'
      rw [get?_record_files, if_pos rfl] at entry
      rw [get?_record_files, if_neg (by simpa using (List.mem_filter.1 mem).2)] at entry'
      cases entry
      exact Nat.lt_succ_of_le (coherent.stamp_le older other entry')
    · exact others

theorem Rebuilt.exists_blames {known : NameSet} {files accepted rejected : List (String × Table δ)}
    {clashes : List NameClash} (rebuilt : Rebuilt known files accepted rejected clashes store)
    {clash : NameClash} (mem : clash ∈ clashes) :
    ∃ file ∈ rejected, Blames accepted file clash := by
  have paired := rebuilt.clashes
  clear rebuilt
  induction paired with
  | nil => cases mem
  | cons blames _ ih =>
      rcases List.mem_cons.1 mem with rfl | mem
      · exact ⟨_, List.mem_cons_self, blames⟩
      · obtain ⟨file, fileMem, blames⟩ := ih mem
        exact ⟨file, List.mem_cons_of_mem _ fileMem, blames⟩

/-- After a rebuild only its owner holds the name that a file is left out for. -/
theorem Rebuilt.ranks {known : NameSet} {files accepted rejected : List (String × Table δ)}
    {clashes : List NameClash} (rebuilt : Rebuilt known files accepted rejected clashes store)
    (filed : ∀ file ∈ files, Filed file.1 file.2) {clash : NameClash} (mem : clash ∈ clashes) :
    clash.owner ≠ clash.file ∧ store.Ranks clash.name [clash.owner] := by
  obtain ⟨file, -, blames⟩ := rebuilt.exists_blames mem
  obtain ⟨holder, holderMem, before, owned⟩ := blames.taken
  obtain ⟨definition, defined, own⟩ := owner?_eq_some.1 owned
  have owner_eq : clash.owner = holder.1 := own.symm.trans
    (filed holder ((rebuilt.greedy holder).1 holderMem).1 clash.name definition defined)
  have has : holder.2.contains clash.name = true := Table.contains_eq_true.2 ⟨definition, defined⟩
  have apart : ∀ other ∈ accepted, other.2.contains clash.name = true → other = holder := by
    intro other otherMem otherHas
    by_contra differs
    have symmetric : Std.Symm fun file later : String × Table δ => ¬ Overlap file later :=
      ⟨fun _ _ apart both => apart (both.imp fun _ => And.symm)⟩
    have disjoint := (rebuilt.disjoint.imp And.right).forall otherMem holderMem differs
    exact disjoint ⟨clash.name, otherHas, has⟩
  rw [owner_eq, blames.address]
  refine ⟨fun same => String.lt_irrefl _ (same ▸ before), ?_, List.pairwise_singleton _ _⟩
  intro uri
  rw [List.mem_singleton]
  constructor
  · rintro rfl
    obtain ⟨contribution, entry, contributed⟩ :=
      Option.map_eq_some_iff.1 ((rebuilt.entries holder.1 holder.2).2 holderMem)
    exact ⟨contribution, entry, contributed ▸ has⟩
  · rintro ⟨contribution, entry, has'⟩
    have listed : (uri, contribution.definitions) ∈ accepted :=
      (rebuilt.entries uri contribution.definitions).1
        (Option.map_eq_some_iff.2 ⟨contribution, entry, rfl⟩)
    exact congrArg Prod.fst (apart _ listed has')

end Store

namespace Analyzer

open Store (holdersAfter)

variable {engine : Engine δ} {analyzer : Analyzer δ} {since : List (String × Table δ)}
  {uri text : String}

/-! ## The warnings -/

/-- The warnings on names defined twice that a file shows. A file that does not parse shows
none. -/
def collisions (analyzer : Analyzer δ) (file : String) : List Record :=
  if (analyzer.failures.get? file).isSome then []
  else (analyzer.clashes.get? file).toList ++ (analyzer.hidden.get? file).getD []

omit [Definition δ] in
theorem mem_diagnostics_of_mem_collisions {file : String} {record : Record}
    (shown : record ∈ analyzer.collisions file) : record ∈ analyzer.diagnostics file := by
  unfold collisions at shown
  unfold diagnostics
  split at shown
  · cases shown
  · next parses =>
    rw [Option.not_isSome_iff_eq_none] at parses
    rw [parses, List.append_assoc]
    exact List.mem_append_right _ shown

/-- The files that hold a name, the newest first: one of them at the last first pass, and
after it the texts in `since` parsed. -/
def holders (name owner : String) (since : List (String × Table δ)) : List String :=
  since.foldl (holdersAfter name) [owner]

/-- What passes lead to, whether or not their checks fail, with the texts that parsed since
the last first pass. -/
inductive Passed (engine : Engine δ) : Analyzer δ → List (String × Table δ) → Prop
  | empty : Passed engine .empty []
  | startup {analyzer : Analyzer δ} {since : List (String × Table δ)}
    {files : List (String × String)} : Passed engine analyzer since →
    (files.map (·.1)).Nodup → Passed engine (analyzer.startup engine files).2 []
  | parsed {analyzer : Analyzer δ} {since : List (String × Table δ)} {uri text : String}
    {definitions : List δ} : Passed engine analyzer since →
    engine.parse uri text = .parsed definitions →
    Passed engine (analyzer.analyze engine uri text).2 (since ++ [(uri, tableOf definitions)])
  | unparsed {analyzer : Analyzer δ} {since : List (String × Table δ)} {uri text : String} :
    Passed engine analyzer since → (∀ definitions, engine.parse uri text ≠ .parsed definitions) →
    Passed engine (analyzer.analyze engine uri text).2 since

/-- The file was left out of the last first pass for a name of another file, and no text of it
parsed since. -/
def LeftOut (analyzer : Analyzer δ) (since : List (String × Table δ)) (file : String)
    (record : Record) : Prop :=
  ∃ origin name owner, record = alreadyDefined file origin name owner ∧ owner ≠ file ∧
    (∀ parsed ∈ since, parsed.1 ≠ file) ∧ analyzer.store.Ranks name (holders name owner since)

/-- The warnings on hidden definitions are right, and each of the others stands for a file that
was left out. -/
structure Traced (analyzer : Analyzer δ) (since : List (String × Table δ)) : Prop where
  warned : analyzer.Warned
  clashes : ∀ file record, analyzer.clashes.get? file = some record →
    analyzer.LeftOut since file record

theorem Warned.finish (warned : analyzer.Warned) (engine : Engine δ) (job : Job δ) :
    (analyzer.finish engine job).2.Warned where
  coherent := by
    rw [finish_store]
    exact warned.coherent
  keyed := by
    rw [finish_store]
    exact warned.keyed
  hidden := by
    rw [finish_store, finish_hidden]
    exact warned.hidden

theorem Traced.finish (traced : analyzer.Traced since) (engine : Engine δ) (job : Job δ) :
    (analyzer.finish engine job).2.Traced since where
  warned := traced.warned.finish engine job
  clashes := by
    rw [finish_clashes]
    unfold LeftOut
    rw [finish_store]
    exact traced.clashes

theorem traced_planAll (filed : engine.Filed) (analyzer : Analyzer δ)
    {files : List (String × String)} (distinct : (files.map (·.1)).Nodup) :
    (analyzer.planAll engine files).2.Traced [] where
  warned := warned_planAll filed analyzer distinct
  clashes file record found := by
    have filedSets : ∀ set ∈ parsedFiles engine files, Store.Filed set.1 set.2 := by
      intro set mem
      obtain ⟨text, definitions, -, parsed, eq⟩ := mem_parsedFiles.1 mem
      rw [← eq]
      exact filed_tableOf filed parsed
    have apart := (sublist_parsedFiles engine files).nodup distinct
    obtain ⟨accepted, rejected, rebuilt⟩ :=
      analyzer.store.exists_rebuilt apart
    obtain ⟨clash, mem, same⟩ := List.mem_map.1 (Table.mem_of_get?_ofList found)
    cases same
    obtain ⟨elsewhere, ranks⟩ := rebuilt.ranks filedSets mem
    exact ⟨_, clash.name, clash.owner, rfl, elsewhere, nofun, ranks⟩

theorem Traced.planParsed (traced : analyzer.Traced since) {definitions : Table δ}
    (filed : Store.Filed uri definitions) (named : Named definitions) :
    (analyzer.planParsed uri definitions).2.Traced (since ++ [(uri, definitions)]) where
  warned := traced.warned.planParsed filed named
  clashes file record found := by
    have kept : (analyzer.clashes.erase uri).get? file = some record := found
    rw [Table.get?_erase] at kept
    split at kept
    · cases kept
    · next other =>
      obtain ⟨origin, name, owner, same, elsewhere, unparsed, ranks⟩ :=
        traced.clashes file record kept
      refine ⟨origin, name, owner, same, elsewhere, ?_, ?_⟩
      · intro parsed mem
        rcases List.mem_append.1 mem with mem | mem
        · exact unparsed parsed mem
        · rw [List.mem_singleton.1 mem]
          exact Ne.symm other
      · rw [holders, List.foldl_append, planParsed_store]
        exact ranks.record traced.warned.coherent uri definitions

theorem Passed.traced (filed : engine.Filed) (passed : Passed engine analyzer since) :
    analyzer.Traced since := by
  induction passed with
  | empty => exact ⟨warned_empty, fun _ _ found => by cases found⟩
  | startup _ distinct _ => exact (traced_planAll filed _ distinct).finish engine _
  | @parsed _ _ _ _ definitions _ parses ih =>
      rw [analyze_of_parsed parses]
      exact (ih.planParsed (filed_tableOf filed parses) (named_tableOf definitions)).finish engine _
  | @unparsed analyzer since uri text _ unparsed ih =>
      cases parses : engine.parse uri text with
      | parsed definitions => exact absurd parses (unparsed definitions)
      | failed failure =>
          rw [analyze_of_failed parses]
          exact ⟨⟨ih.warned.coherent, ih.warned.keyed, ih.warned.hidden⟩, ih.clashes⟩
      | crashed error =>
          rw [analyze_of_crashed parses]
          exact ih

/-- After every history of passes a file shows two kinds of warnings on names that are defined
twice. Those on its hidden definitions are true: another file owns the name now. The one it has
for being left out of the last first pass names another file, and is true exactly if that file
is the newest of those that hold the name. -/
theorem collisions_true_unless_moved (filed : engine.Filed) (passed : Passed engine analyzer since)
    {file : String} {record : Record} (shown : record ∈ analyzer.collisions file) :
    record ∈ analyzer.diagnostics file ∧
      ((∃ name definition owner, analyzer.store.Hides file name definition owner ∧
          record = alreadyDefined file (Definition.origin definition) name owner) ∨
        (analyzer.clashes.get? file = some record ∧ ∃ origin name owner,
          record = alreadyDefined file origin name owner ∧ owner ≠ file ∧
          (∀ parsed ∈ since, parsed.1 ≠ file) ∧
          (owner? analyzer.store.globals name = some owner ↔
            (holders name owner since).head? = some owner))) := by
  have traced := passed.traced filed
  refine ⟨mem_diagnostics_of_mem_collisions shown, ?_⟩
  unfold collisions at shown
  split at shown
  · cases shown
  · rcases List.mem_append.1 shown with clashed | hidden
    · rw [Option.mem_toList] at clashed
      obtain ⟨origin, name, owner, same, elsewhere, unparsed, ranks⟩ :=
        traced.clashes file record clashed
      refine Or.inr ⟨clashed, origin, name, owner, same, elsewhere, unparsed, ?_⟩
      rw [ranks.owner traced.warned.coherent]
    · obtain ⟨listed, -, exactly, records⟩ := traced.warned.exact file
      rw [records] at hidden
      obtain ⟨⟨name, definition, owner⟩, mem, rfl⟩ := List.mem_map.1 hidden
      exact Or.inl ⟨name, definition, owner, (exactly name definition owner).1 mem, rfl⟩

/-- A third file takes the name over and gives it back: the warning is true again. -/
theorem collisions_true_again :
    let started := (Analyzer.empty.startup Outline.engine [("a", "x"), ("b", "x")]).2
    let taken := (started.analyze Outline.engine "c" "x").2
    let again := (taken.analyze Outline.engine "c" "").2
    let since := [("c", tableOf [⟨"x", "c", "x", ⟨0, 1⟩, ⟨0, 1⟩, [], false⟩]), ("c", tableOf [])]
    let warning := alreadyDefined "b" ⟨0, 1⟩ "x" "a"
    Passed Outline.engine again since ∧ warning ∈ again.collisions "b" ∧
      owner? taken.store.globals "x" = some "c" ∧ owner? again.store.globals "x" = some "a" ∧
      holders "x" "a" since = ["a"] ∧ warning ∈ again.diagnostics "b" ∧
      ∃ origin name owner, warning = alreadyDefined "b" origin name owner ∧ owner ≠ "b" ∧
        (∀ parsed ∈ since, parsed.1 ≠ "b") ∧
        (owner? again.store.globals name = some owner ↔
          (holders name owner since).head? = some owner) := by
  intro started taken again since warning
  have passed : Passed Outline.engine again since := by
    have first : Passed Outline.engine started [] := Passed.empty.startup (by decide)
    exact (first.parsed rfl).parsed rfl
  have shown : again.collisions "b" = [warning] := by
    unfold again taken started warning
    cbv
  have absent : again.store.fileDefinitions? "b" = none := by
    unfold again taken started
    cbv
  have mem : warning ∈ again.collisions "b" := shown ▸ List.mem_singleton_self _
  obtain ⟨diagnosed, ⟨_, _, _, hides, -⟩ | ⟨-, named⟩⟩ :=
    collisions_true_unless_moved Outline.engine_fallible.filed passed mem
  · obtain ⟨definitions, contributed, -⟩ := hides.contributed
    rw [absent] at contributed
    cases contributed
  · refine ⟨passed, mem, ?_, ?_, rfl, diagnosed, named⟩
    · unfold taken started
      cbv
    · unfold again taken started
      cbv

/-- The owner drops the name that another file was left out for. That file still says that the
name is defined there. -/
theorem collision_outlives_definition :
    let started := (Analyzer.empty.startup Outline.engine [("a", "x"), ("b", "x")]).2
    let dropped := (started.analyze Outline.engine "a" "").2
    Outline.engine.Filed ∧ Passed Outline.engine dropped [("a", tableOf [])] ∧
      dropped.diagnostics "b" = [alreadyDefined "b" ⟨0, 1⟩ "x" "a"] ∧
      owner? dropped.store.globals "x" = none := by
  intro started dropped
  have first : Passed Outline.engine started [] := Passed.empty.startup (by decide)
  refine ⟨Outline.engine_fallible.filed, first.parsed rfl, ?_, ?_⟩
  · unfold dropped started
    cbv
  · unfold dropped started
    cbv

end Analyzer

end LiveCheck
