import LiveCheck.Proofs.Documents
import LiveCheck.Proofs.Server.Publish
import Mathlib

/-!
What the editor shows is what the analyzer holds.

A pass publishes the files of its report: all that the analyzer keeps track of, or just
the changed one if its text does not parse. Between passes everything that was ever
published is still current (`Consistent`): a file that a pass does not publish is one
whose records the pass did not change. Positions are left out, since the text they refer
to may have moved on.
-/

namespace LiveCheck

namespace Workspace

variable {δ : Type} [Definition δ] {engine : Engine δ} {workspace : Workspace δ}

/-! ## Passes -/

/-- What is shown of a document, if anything, is what the analyzer has on it. -/
def Current (workspace : Workspace δ) (uri : String) : Prop :=
  ∀ diagnostics, workspace.published.get? uri = some diagnostics →
    diagnostics.map Diagnostic.shown = (workspace.analyzer.diagnostics uri).map Record.shown

/-- A workspace that is ready to publish. -/
structure Orderly (workspace : Workspace δ) : Prop where
  labelled : workspace.analyzer.Labelled
  addresses : ∀ uri, workspace.analyzer.Tracks uri → IsAddress uri
  failures : ∀ uri, workspace.analyzer.failures.contains uri = true → workspace.documents.Has uri

/-- A workspace between passes. Nothing was ever published of a file that is not kept
track of, so every full report takes it up again. -/
structure Consistent (workspace : Workspace δ) : Prop extends Orderly workspace where
  tracked : ∀ uri, workspace.published.contains uri = true → workspace.analyzer.Tracks uri
  current : ∀ uri, workspace.Current uri

omit [Definition δ] in
theorem consistent_empty : (Workspace.empty : Workspace δ).Consistent where
  labelled := Analyzer.labelled_empty
  addresses := by
    rintro uri (known | failed)
    · cases known
    · cases failed
  failures := by
    intro uri failed
    cases failed
  tracked := by
    intro uri published
    cases published
  current := by
    intro uri diagnostics published
    cases published

omit [Definition δ] in
/-- After a report, everything shown is current if what the report leaves out was. -/
theorem Orderly.publish (orderly : workspace.Orderly) {files : NameSet}
    (reported : ∀ uri, files.contains uri = true → workspace.analyzer.Tracks uri)
    (others : ∀ uri, workspace.published.contains uri = true → files.contains uri = false →
      workspace.analyzer.Tracks uri ∧ workspace.Current uri) (analyzed : Option Change) :
    (workspace.publish analyzed (.ok (workspace.analyzer.report files))).2.Consistent := by
  have shown := shown_publish orderly.labelled
    (fun uri mem => orderly.addresses uri (reported uri mem)) analyzed
  refine ⟨⟨orderly.labelled, orderly.addresses, orderly.failures⟩, ?_, ?_⟩
  · intro uri published
    cases mem : files.contains uri with
    | true => exact reported uri mem
    | false =>
        -- Nothing was published of it now, so it was published before.
        have before : workspace.published.contains uri = true := by
          have kept := congrArg Option.isSome (shown uri)
          rw [mem, if_neg Bool.false_ne_true, Option.isSome_map, Option.isSome_map] at kept
          exact kept.symm.trans published
        exact (others uri before mem).1
  · intro uri diagnostics published
    have shown := shown uri
    rw [published, Option.map_some] at shown
    split at shown
    · exact Option.some_inj.1 shown
    · next missing =>
      obtain ⟨before, found, same⟩ := Option.map_eq_some_iff.1 shown.symm
      have contained : workspace.published.contains uri = true := by
        rw [Table.contains, found]
        rfl
      rw [← same]
      exact (others uri contained (Bool.not_eq_true _ ▸ missing)).2 before found

/-- A job that runs to its end is followed by a report on all files that are kept track
of, which brings everything up to date. -/
theorem Orderly.finish (reliable : engine.Reliable) (orderly : workspace.Orderly) {job : Job δ}
    (announced : ∀ uri, job.announced.contains uri = true → workspace.analyzer.Tracks uri)
    (tracked : ∀ uri, workspace.published.contains uri = true → workspace.analyzer.Tracks uri)
    (analyzed : Option Change) :
    let (outcome, analyzer) := workspace.analyzer.finish engine job
    let (sent, next) := { workspace with analyzer }.publish analyzed outcome
    next.Consistent ∧ ∀ uri, uri ∈ sent.map (·.url) ↔ workspace.analyzer.Tracks uri := by
  obtain ⟨files, ended, exactly⟩ := Analyzer.reportsTracked_finish reliable announced
  have tracks := @Analyzer.tracks_finish _ _ engine workspace.analyzer job
  have failures := @Analyzer.finish_failures _ _ engine workspace.analyzer job
  have labelled := @Analyzer.Labelled.finish _ _ engine workspace.analyzer job orderly.labelled
  generalize workspace.analyzer.finish engine job = pass at *
  obtain ⟨outcome, analyzer⟩ := pass
  obtain rfl : outcome = .ok (analyzer.report files) := ended
  have addresses : ∀ uri, analyzer.Tracks uri → IsAddress uri :=
    fun uri tracked => orderly.addresses uri (tracks.1 tracked)
  constructor
  · refine Orderly.publish ⟨labelled, addresses, ?_⟩ (fun uri => (exactly uri).1) ?_ analyzed
    · exact fun uri failed => orderly.failures uri (failures ▸ failed)
    · intro uri published missing
      rw [(exactly uri).2 (tracks.2 (tracked uri published))] at missing
      cases missing
  · intro uri
    rw [show List.map _ _ = _ from map_url_publications fun uri reported =>
      addresses uri ((exactly uri).1 reported)]
    rw [NameSet.mem_toList, ← tracks]
    exact exactly uri

omit [Definition δ] in
theorem Consistent.documents (consistent : workspace.Consistent) {documents : Documents}
    (kept : ∀ uri, workspace.documents.Has uri → documents.Has uri) :
    { workspace with documents }.Consistent where
  labelled := consistent.labelled
  addresses := consistent.addresses
  failures uri failed := kept uri (consistent.failures uri failed)
  tracked := consistent.tracked
  current := consistent.current

section Change

variable {change : Change}

theorem Consistent.change_of_parsed (reliable : engine.Reliable)
    (consistent : workspace.Consistent) (address : IsAddress change.uri) {definitions : List δ}
    (parsed : engine.parse change.uri change.text = .parsed definitions) :
    (workspace.change engine change).2.Consistent ∧
      change.uri ∈ (workspace.change engine change).1.map (·.url) := by
  let planned := workspace.analyzer.planParsed change.uri (tableOf definitions)
  have tracks : ∀ uri, planned.2.Tracks uri ↔ uri = change.uri ∨ workspace.analyzer.Tracks uri :=
    fun uri => Analyzer.tracks_planParsed
  have orderly : { workspace with analyzer := planned.2 }.Orderly := by
    refine ⟨consistent.labelled.planParsed change.uri (tableOf definitions), ?_, ?_⟩
    · intro uri tracked
      rcases (tracks uri).1 tracked with rfl | tracked
      · exact address
      · exact consistent.addresses uri tracked
    · exact fun uri failed => consistent.failures uri (Table.contains_erase.1 failed).2
  have tracked : ∀ uri, workspace.published.contains uri = true → planned.2.Tracks uri :=
    fun uri published => (tracks uri).2 (Or.inr (consistent.tracked uri published))
  have announced : ∀ uri, planned.1.announced.contains uri = true → planned.2.Tracks uri := by
    intro uri announced
    cases announced
  obtain ⟨next, urls⟩ := orderly.finish reliable announced tracked (some change)
  unfold Workspace.change
  rw [Analyzer.analyze_of_parsed parsed]
  exact ⟨next, (urls change.uri).2 ((tracks change.uri).2 (Or.inl rfl))⟩

/-- A text that does not parse concerns its own file only. -/
theorem diagnostics_of_failed {failure : Rejection}
    (parsed : engine.parse change.uri change.text = .failed failure) {uri : String}
    (other : uri ≠ change.uri) :
    (workspace.change engine change).2.analyzer.diagnostics uri =
      workspace.analyzer.diagnostics uri := by
  unfold Workspace.change
  rw [Analyzer.analyze_of_failed parsed]
  show Analyzer.diagnostics { workspace.analyzer with failures := _ } uri = _
  simp only [Analyzer.diagnostics, Table.get?_insert, if_neg other]

theorem urls_of_failed {failure : Rejection}
    (parsed : engine.parse change.uri change.text = .failed failure)
    (address : IsAddress change.uri) :
    (workspace.change engine change).1.map (·.url) = [change.uri] := by
  unfold Workspace.change
  rw [Analyzer.analyze_of_failed parsed]
  refine (map_url_publications ?_).trans rfl
  intro uri reported
  rw [List.mem_singleton.1 ((NameSet.contains_ofList _ _).1 reported)]
  exact address

theorem Consistent.change_of_failed (consistent : workspace.Consistent)
    (present : workspace.documents.Has change.uri) (address : IsAddress change.uri)
    {failure : Rejection} (parsed : engine.parse change.uri change.text = .failed failure) :
    (workspace.change engine change).2.Consistent := by
  have unchanged := @diagnostics_of_failed _ _ engine workspace change failure parsed
  unfold Workspace.change at unchanged ⊢
  rw [Analyzer.analyze_of_failed parsed] at unchanged ⊢
  have failures : ∀ uri, (workspace.analyzer.failures.insert change.uri
      (failure.record change.uri)).contains uri = true ↔
        uri = change.uri ∨ workspace.analyzer.failures.contains uri = true :=
    fun uri => Table.contains_insert
  refine Orderly.publish ⟨?_, ?_, ?_⟩ ?_ ?_ _
  · exact { consistent.labelled with
      failures := consistent.labelled.failures.insert (failure.record change.uri) }
  · rintro uri (known | failed)
    · exact consistent.addresses uri (Or.inl known)
    · rcases (failures uri).1 failed with rfl | failed
      · exact address
      · exact consistent.addresses uri (Or.inr failed)
  · intro uri failed
    rcases (failures uri).1 failed with rfl | failed
    · exact present
    · exact consistent.failures uri failed
  · intro uri reported
    rw [NameSet.contains_ofList, List.mem_singleton] at reported
    exact Or.inr ((failures uri).2 (Or.inl reported))
  · intro uri published missing
    rw [← Bool.not_eq_true, NameSet.contains_ofList, List.mem_singleton] at missing
    constructor
    · exact (consistent.tracked uri published).imp_right fun failed =>
        (failures uri).2 (Or.inr failed)
    · intro diagnostics found
      exact (consistent.current uri diagnostics found).trans
        (congrArg (List.map Record.shown) (unchanged missing).symm)

end Change

theorem Consistent.change (reliable : engine.Reliable) (consistent : workspace.Consistent)
    {change : Change} (present : workspace.documents.Has change.uri)
    (address : IsAddress change.uri) : (workspace.change engine change).2.Consistent := by
  cases parsed : engine.parse change.uri change.text with
  | parsed definitions => exact (consistent.change_of_parsed reliable address parsed).1
  | failed failure => exact consistent.change_of_failed present address parsed
  | crashed error => exact absurd parsed (reliable.parse_ne_crashed _ _ error)

theorem Consistent.startup (reliable : engine.Reliable) (consistent : workspace.Consistent)
    {access : FileAccess} {roots : List FilePath}
    (addresses : ∀ uri, (workspace.startup engine access roots).2.documents.Has uri →
      IsAddress uri) :
    (workspace.startup engine access roots).2.Consistent := by
  unfold Workspace.startup at addresses ⊢
  cases scanned : scan access roots with
  | none => exact consistent
  | some found =>
      rw [scanned, publish_documents] at addresses
      let documents := found.entries.foldl
        (fun documents entry => documents.load entry.1 entry.2) workspace.documents
      let planned := workspace.analyzer.planAll engine documents.texts
      have tracks : ∀ uri, planned.2.Tracks uri ↔
          documents.Has uri ∨ workspace.analyzer.store.known.contains uri = true := by
        intro uri
        rw [Analyzer.tracks_planAll, Documents.mem_texts]
      have orderly : { workspace with analyzer := planned.2, documents }.Orderly := by
        refine ⟨Analyzer.labelled_planAll engine workspace.analyzer documents.texts, ?_, ?_⟩
        · intro uri tracked
          rcases (tracks uri).1 tracked with has | known
          · exact addresses uri has
          · exact consistent.addresses uri (Or.inl known)
        · intro uri failed
          rw [← Documents.mem_texts, ← Analyzer.mem_parsedFiles_or_failedFiles engine]
          exact Or.inr (Table.contains_ofList.1 failed)
      refine (orderly.finish reliable ?_ ?_ none).1
      · intro uri announced
        rw [tracks, ← Documents.mem_texts]
        exact Or.inl ((NameSet.contains_ofList _ _).1 announced)
      · intro uri published
        rw [tracks]
        -- A known file stays known. One that failed to parse is a document, and is given again.
        rcases consistent.tracked uri published with known | failed
        · exact Or.inr known
        · exact Or.inl ((consistent.failures uri failed).foldl_load found.entries)

/-! ## Whole sessions -/

/-- The workspaces that passes lead to, with all that was published on the way, oldest
first. Only documents that are there are changed, and they are named by addresses. Between
passes documents may be opened, edited, closed and read again. -/
inductive Served (engine : Engine δ) : Workspace δ → List Publication → Prop where
  | empty : Served engine .empty []
  | startup {workspace : Workspace δ} {sent : List Publication}
      (served : Served engine workspace sent) (access : FileAccess) (roots : List FilePath)
      (addresses : ∀ uri, (workspace.startup engine access roots).2.documents.Has uri →
        IsAddress uri) :
      Served engine (workspace.startup engine access roots).2
        (sent ++ (workspace.startup engine access roots).1)
  | change {workspace : Workspace δ} {sent : List Publication}
      (served : Served engine workspace sent) (change : Change)
      (present : workspace.documents.Has change.uri) (address : IsAddress change.uri) :
      Served engine (workspace.change engine change).2
        (sent ++ (workspace.change engine change).1)
  | documents {workspace : Workspace δ} {sent : List Publication} {documents : Documents}
      (served : Served engine workspace sent) (step : workspace.documents.Step documents) :
      Served engine { workspace with documents } sent

theorem startup_published (access : FileAccess) (roots : List FilePath) :
    (workspace.startup engine access roots).2.published =
      remember workspace.published (workspace.startup engine access roots).1 := by
  unfold startup
  cases scan access roots with
  | none => rfl
  | some found => exact publish_published _ _

theorem Served.consistent (reliable : engine.Reliable) {sent : List Publication}
    (served : Served engine workspace sent) :
    workspace.Consistent ∧ workspace.published = remember .empty sent := by
  induction served with
  | empty => exact ⟨consistent_empty, rfl⟩
  | startup served access roots addresses ih =>
      refine ⟨ih.1.startup reliable addresses, ?_⟩
      rw [startup_published, remember_append, ih.2]
  | change served change present address ih =>
      refine ⟨ih.1.change reliable present address, ?_⟩
      rw [remember_append, ← ih.2]
      exact publish_published _ _
  | documents served step ih => exact ⟨ih.1.documents fun uri has => has.step step, ih.2⟩

/-- What was last published of a file is what the analyzer holds on it, whatever passes
were made. Every change publishes its own file, and one that does not parse publishes no
other file and changes nothing for any other. -/
theorem Served.shown_eq_held (reliable : engine.Reliable) {sent : List Publication}
    (served : Served engine workspace sent) :
    (∀ uri publication, lastSent sent uri = some publication →
      publication.diagnostics.map Diagnostic.shown =
        (workspace.analyzer.diagnostics uri).map Record.shown) ∧
    ∀ change : Change, workspace.documents.Has change.uri → IsAddress change.uri →
      change.uri ∈ (workspace.change engine change).1.map (·.url) ∧
      ∀ failure, engine.parse change.uri change.text = .failed failure →
        (workspace.change engine change).1.map (·.url) = [change.uri] ∧
        ∀ uri ≠ change.uri, (workspace.change engine change).2.analyzer.diagnostics uri =
          workspace.analyzer.diagnostics uri := by
  obtain ⟨consistent, published⟩ := served.consistent reliable
  constructor
  · intro uri publication last
    apply consistent.current uri
    rw [published, get?_remember, last]
    rfl
  · intro change present address
    have alone : ∀ failure, engine.parse change.uri change.text = .failed failure →
        (workspace.change engine change).1.map (·.url) = [change.uri] :=
      fun failure parsed => urls_of_failed parsed address
    refine ⟨?_, fun failure parsed => ⟨alone failure parsed, ?_⟩⟩
    · cases parsed : engine.parse change.uri change.text with
      | parsed definitions => exact (consistent.change_of_parsed reliable address parsed).2
      | failed failure =>
          rw [alone failure parsed]
          exact List.mem_singleton_self change.uri
      | crashed error => exact absurd parsed (reliable.parse_ne_crashed _ _ error)
    · exact fun uri other => diagnostics_of_failed parsed other

/-- Two open documents, one of them analyzed, which mentions an unknown name. -/
def analyzedOnce : List Publication × Workspace OutlineItem :=
  let documents := (Documents.empty.openWith "file:///b" "" 1).openWith "file:///a" "x: y" 1
  { Workspace.empty with documents }.change Outline.steady ⟨"file:///a", "x: y", 1⟩

theorem isAddress_a : IsAddress "file:///a" := by
  unfold IsAddress
  cbv

theorem isAddress_b : IsAddress "file:///b" := by
  unfold IsAddress
  cbv

theorem served_analyzedOnce : Served Outline.steady analyzedOnce.2 analyzedOnce.1 := by
  have start : Served Outline.steady .empty [] := .empty
  have opened := (start.documents (.opened "file:///b" "" 1)).documents
    (.opened "file:///a" "x: y" 1)
  exact opened.change ⟨"file:///a", "x: y", 1⟩ rfl isAddress_a

/-- Breaking the other document publishes that one alone, and the unknown name is still
what is shown and what is held. -/
theorem shown_eq_held_of_broken_text :
    let broken : Change := ⟨"file:///b", "!", 2⟩
    let unknown := (Severity.error, "Undefined reference: y\n")
    (lastSent analyzedOnce.1 "file:///a").map (·.diagnostics.map Diagnostic.shown) =
        some [unknown] ∧
      (analyzedOnce.2.analyzer.diagnostics "file:///a").map Record.shown = [unknown] ∧
      (analyzedOnce.2.change Outline.steady broken).1.map (·.url) = ["file:///b"] ∧
      (analyzedOnce.2.change Outline.steady broken).2.analyzer.diagnostics "file:///a" =
        analyzedOnce.2.analyzer.diagnostics "file:///a" := by
  have shown : (lastSent analyzedOnce.1 "file:///a").map (·.diagnostics.map Diagnostic.shown) =
      some [(Severity.error, "Undefined reference: y\n")] := by
    cbv
  have rejected : Outline.steady.parse "file:///b" "!" = .failed ⟨0, "unexpected `!`"⟩ := by
    cbv
  obtain ⟨current, passes⟩ := served_analyzedOnce.shown_eq_held Outline.steady_reliable
  obtain ⟨publication, last, same⟩ := Option.map_eq_some_iff.1 shown
  obtain ⟨alone, unchanged⟩ := (passes ⟨"file:///b", "!", 2⟩ rfl isAddress_b).2 _ rejected
  exact ⟨shown, (current _ _ last).symm.trans same, alone, unchanged "file:///a" (by decide)⟩

end Workspace

end LiveCheck
