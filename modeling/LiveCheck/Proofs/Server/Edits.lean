import LiveCheck.Proofs.Documents
import LiveCheck.Proofs.Server.Pipeline
import LiveCheck.Proofs.Server.Publish
import LiveCheck.Server.Session
import Mathlib

/-!
No edit is lost on its way to the analysis.

The editor, the debouncer and the analysis take turns in any order. What they keep in
common is that the newest change of a document, wherever it is by then, has the current
text of that document (`Faithful`). An edit that is dropped leaves the document as it was,
and a document that is closed with its text unchanged needs no change of its own. Once
nothing is on its way any more, the newest change is the last one analyzed. The changes that count
as analyzed are those that the analysis was given, in that order (`Run.analyzes`).
-/

namespace LiveCheck

/-! ## What a notice does -/

namespace Session

variable {session : Session}

/-- A session with other documents. -/
def withDocuments (session : Session) (documents : Documents) : Session :=
  { session with workspace := { session.workspace with documents } }

/-- What a notice on a document comes to: the document gets a new text, which is sent on
its way, or no text changes and nothing is sent. -/
inductive Heeded (session : Session) : Session → Prop where
  | submitted {documents : Documents} {uri text : String} (version : Int)
      (texts : ∀ other, documents.text? other =
        if other = uri then some text else session.workspace.documents.text? other)
      (opened : ∀ other, documents.isOpen other = true →
        other = uri ∨ session.workspace.documents.isOpen other = true) :
      Heeded session ((session.withDocuments documents).submit uri text version)
  | kept {documents : Documents}
      (texts : ∀ other, documents.text? other = session.workspace.documents.text? other)
      (opened : ∀ other, documents.isOpen other = true →
        session.workspace.documents.isOpen other = true) :
      Heeded session (session.withDocuments documents)

theorem heeded_self : session.Heeded session :=
  .kept (fun _ => rfl) fun _ => id

theorem heeded_openWith (uri text : String) (version : Int) :
    session.Heeded ((session.withDocuments
      (session.workspace.documents.openWith uri text version)).submit uri text version) :=
  .submitted version (fun _ => Documents.text?_openWith uri text version) fun _ =>
    Documents.isOpen_openWith.1

theorem heeded_changed (uri text : String) (version : Int) :
    session.Heeded (session.changed uri text version) := by
  unfold changed
  cases edited : session.workspace.documents.edit uri text version with
  | ok documents =>
      exact .submitted version (fun _ => Documents.text?_edit edited) fun _ isOpen =>
        Or.inr ((Documents.isOpen_edit edited).1 isOpen)
  | error refusal =>
      cases refusal with
      | notOpen => exact heeded_openWith uri text version
      | staleVersion => exact heeded_self

theorem heeded_closed (uri : String) (snapshot : Option String) :
    session.Heeded (session.closed uri snapshot) := by
  unfold closed
  cases closed : session.workspace.documents.close uri snapshot with
  | error refusal => exact heeded_self
  | ok documents =>
      obtain ⟨text, after⟩ := Documents.text?_close_self closed
      have opened : ∀ other, documents.isOpen other = true →
          session.workspace.documents.isOpen other = true :=
        fun _ isOpen => ((Documents.isOpen_close closed).1 isOpen).2
      have others : ∀ other, other ≠ uri → documents.text? other =
          session.workspace.documents.text? other :=
        fun _ other => Documents.text?_close closed other
      simp only [after]
      -- The text is sent on its way only if closing the document changed it.
      split
      · next before =>
        refine .kept (fun other => ?_) opened
        by_cases same : other = uri
        · rw [same, after, before]
        · exact others other same
      · refine .submitted 0 (fun other => ?_) fun other isOpen => Or.inr (opened other isOpen)
        split
        · next same => rw [same, after]
        · next same => exact others other same

/-- Once the session is under way, every notice is on one document. -/
theorem heeded_heed (disk : Disk) {notice : Notice} (edit : notice ≠ .initialized) :
    session.Heeded (session.heed disk notice).2 := by
  cases notice with
  | initialized => exact absurd rfl edit
  | opened uri text version =>
      simp only [heed]
      split
      · exact heeded_openWith _ text version
      · exact heeded_self
  | changed uri version texts =>
      simp only [heed]
      split
      · exact heeded_changed _ _ version
      · exact heeded_self
  | closed uri =>
      simp only [heed]
      split
      · exact heeded_closed _ _
      · exact heeded_self

/-- A notice alone is not analyzed. -/
theorem Heeded.analyzer {next : Session} (heeded : session.Heeded next) :
    next.workspace.analyzer = session.workspace.analyzer := by
  cases heeded with
  | submitted => rfl
  | kept => rfl

end Session

/-! ## Runs -/

/-- A session and the changes that were analyzed in it, oldest first. -/
structure Observed where
  session : Session
  analyzed : List Change

namespace Observed

variable {state next first middle last : Observed} {uri : String}

/-- The editor gives a notice. -/
def heed (state : Observed) (disk : Disk) (notice : Notice) : Observed :=
  { state with session := (state.session.heed disk notice).2 }

/-- The debouncer receives something. -/
def receive (state : Observed) (now : Nat) : Observed :=
  { state with session.pipeline := state.session.pipeline.receive now }

/-- The timer of the debouncer fires. -/
def fire (state : Observed) (now : Nat) : Observed :=
  { state with session.pipeline := state.session.pipeline.fire now }

/-- The analysis takes a batch and analyzes it. -/
def work (state : Observed) : Observed :=
  ⟨state.session.work.2, state.analyzed ++ state.session.pipeline.takeBatch.1⟩

/-- What may happen next in a session that is under way. -/
inductive Step (state : Observed) : Observed → Prop where
  | heed (disk : Disk) {notice : Notice} (edit : notice ≠ .initialized) :
      Step state (state.heed disk notice)
  | receive (now : Nat) : Step state (state.receive now)
  | fire (now : Nat) : Step state (state.fire now)
  | work : Step state state.work

/-- Changes supersede each other by document. -/
def PerFile (state : Observed) : Prop :=
  state.session.pipeline.debouncer.settings.scope = .perFile

/-- Any number of steps, with changes superseding each other by document throughout. -/
def Run : Observed → Observed → Prop :=
  Relation.ReflTransGen fun state next => state.PerFile ∧ state.Step next

/-- The newest change of a document that was ever sent on its way. -/
def newest? (state : Observed) (uri : String) : Option Change :=
  (state.session.pipeline.newest? uri).or (newestOf uri state.analyzed)

/-- The newest change of every document has its current text, and there is one for every
open document. -/
structure Faithful (state : Observed) : Prop where
  keyed : Debouncer.Keyed state.session.pipeline.debouncer.pending
  text : ∀ uri change, state.newest? uri = some change →
    state.session.workspace.documents.text? uri = some change.text
  sent : ∀ uri, state.session.workspace.documents.isOpen uri = true →
    (state.newest? uri).isSome = true

theorem newest?_submit (session : Session) (analyzed : List Change) (submitted text : String)
    (version : Int) :
    newest? ⟨session.submit submitted text version, analyzed⟩ uri =
      if submitted = uri then some ⟨submitted, text, version⟩
      else newest? ⟨session, analyzed⟩ uri := by
  rw [newest?, Session.submit, Pipeline.newest?_send]
  split <;> rfl

theorem newest?_work : state.work.newest? uri = state.newest? uri := by
  rw [newest?, newest?, work, newestOf_append, ← Option.or_assoc]
  exact congrArg (Option.or · _) Pipeline.newest?_takeBatch.symm

theorem work_documents :
    state.work.session.workspace.documents = state.session.workspace.documents :=
  Workspace.changes_documents _

/-! ## What a step preserves -/

theorem Faithful.heeded (faithful : state.Faithful) {session : Session}
    (heeded : state.session.Heeded session) : Faithful { state with session } := by
  cases heeded with
  | @submitted documents submitted text version texts opened =>
      refine ⟨faithful.keyed, ?_, ?_⟩
      · intro uri change found
        rw [newest?_submit] at found
        show documents.text? uri = _
        rw [texts]
        split at found
        · next same =>
          cases found
          rw [if_pos same.symm]
        · next other =>
          rw [if_neg (Ne.symm other)]
          exact faithful.text uri change found
      · intro uri isOpen
        rw [newest?_submit]
        split
        · rfl
        · next other =>
          rcases opened uri isOpen with same | isOpen
          · exact absurd same.symm other
          · exact faithful.sent uri isOpen
  | kept texts opened =>
      refine ⟨faithful.keyed, ?_, fun uri isOpen => faithful.sent uri (opened uri isOpen)⟩
      intro uri change found
      exact (texts uri).trans (faithful.text uri change found)

/-- A step within the pipeline: the newest change of every document moves on and stays the
newest. -/
structure Moved (state next : Observed) : Prop where
  documents : next.session.workspace.documents = state.session.workspace.documents
  keyed : Debouncer.Keyed next.session.pipeline.debouncer.pending
  newest : ∀ uri, next.newest? uri = state.newest? uri

theorem Step.moved_or_heeded (keyed : Debouncer.Keyed state.session.pipeline.debouncer.pending)
    (perFile : state.PerFile) (step : state.Step next) :
    state.Moved next ∨ ∃ session, state.session.Heeded session ∧ next = { state with session } := by
  cases step with
  | heed disk edit => exact Or.inr ⟨_, Session.heeded_heed disk edit, rfl⟩
  | receive now =>
      refine Or.inl ⟨rfl, Pipeline.keyed_receive keyed now, fun uri => ?_⟩
      exact congrArg (Option.or · _) (Pipeline.newest?_receive perFile now)
  | fire now =>
      refine Or.inl ⟨rfl, Debouncer.keyed_filter keyed _, fun uri => ?_⟩
      exact congrArg (Option.or · _) (Pipeline.newest?_fire keyed now)
  | work =>
      exact Or.inl ⟨work_documents, keyed, fun uri => newest?_work⟩

/-- What a step adds to the changes analyzed is what it gives to the analysis. -/
theorem Step.analyzes (step : state.Step next) :
    ∃ more, next.analyzed = state.analyzed ++ more ∧
      next.session.workspace.analyzer =
        state.session.workspace.analyzer.analyzeAll formality (more.map Change.fileText) := by
  cases step with
  | heed disk edit =>
      exact ⟨[], (List.append_nil _).symm, (Session.heeded_heed disk edit).analyzer⟩
  | receive now => exact ⟨[], (List.append_nil _).symm, rfl⟩
  | fire now => exact ⟨[], (List.append_nil _).symm, rfl⟩
  | work => exact ⟨_, rfl, Workspace.changes_analyzer _⟩

theorem Faithful.step (faithful : state.Faithful) (perFile : state.PerFile)
    (step : state.Step next) : next.Faithful := by
  rcases step.moved_or_heeded faithful.keyed perFile with moved | ⟨session, heeded, rfl⟩
  · obtain ⟨documents, keyed, newest⟩ := moved
    refine ⟨keyed, ?_, ?_⟩
    · intro uri change found
      exact documents ▸ faithful.text uri change (newest uri ▸ found)
    · intro uri isOpen
      exact newest uri ▸ faithful.sent uri (documents ▸ isOpen)
  · exact faithful.heeded heeded

/-- A document that was ever sent on its way keeps having a newest change. -/
theorem Step.isSome_newest? (keyed : Debouncer.Keyed state.session.pipeline.debouncer.pending)
    (perFile : state.PerFile) (step : state.Step next)
    (sent : (state.newest? uri).isSome = true) : (next.newest? uri).isSome = true := by
  rcases step.moved_or_heeded keyed perFile with moved | ⟨session, heeded, rfl⟩
  · exact moved.newest uri ▸ sent
  · cases heeded with
    | submitted version texts opened =>
        rw [newest?_submit]
        split
        · rfl
        · exact sent
    | kept texts opened => exact sent

/-! ## What a run preserves -/

theorem Run.step (run : first.Run middle) (perFile : middle.PerFile) (step : middle.Step last) :
    first.Run last :=
  run.tail ⟨perFile, step⟩

theorem Run.faithful (run : first.Run last) (faithful : first.Faithful) : last.Faithful := by
  induction run with
  | refl => exact faithful
  | tail _ step ih => exact ih.step step.1 step.2

theorem Run.isSome_newest? (run : first.Run last) (faithful : first.Faithful)
    (sent : (first.newest? uri).isSome = true) : (last.newest? uri).isSome = true := by
  induction run with
  | refl => exact sent
  | tail run step ih =>
      have keyed := (Run.faithful run faithful).keyed
      exact step.2.isSome_newest? keyed step.1 ih

/-- The changes analyzed in a run are those that the analysis was given, in that order. -/
theorem Run.analyzes (run : first.Run last) :
    ∃ more, last.analyzed = first.analyzed ++ more ∧
      last.session.workspace.analyzer =
        first.session.workspace.analyzer.analyzeAll formality (more.map Change.fileText) := by
  induction run with
  | refl => exact ⟨[], (List.append_nil _).symm, rfl⟩
  | tail _ step ih =>
      obtain ⟨more, analyzed, analyzer⟩ := ih
      obtain ⟨added, next, analyzer'⟩ := step.2.analyzes
      refine ⟨more ++ added, ?_, ?_⟩
      · rw [next, analyzed, List.append_assoc]
      · rw [analyzer', analyzer, ← Analyzer.analyzeAll_append, List.map_append]

/-- The editor has opened nothing yet and no change is on its way or was analyzed. The
debouncer may have settings to receive. -/
structure Fresh (state : Observed) : Prop where
  documents : ∀ uri, state.session.workspace.documents.isOpen uri = false
  inbox : Pipeline.sent state.session.pipeline.inbox = []
  pending : state.session.pipeline.debouncer.pending = .empty
  queue : state.session.pipeline.queue = []
  analyzed : state.analyzed = []

theorem Fresh.faithful (fresh : state.Fresh) : state.Faithful := by
  have none : ∀ uri, state.newest? uri = none := by
    intro uri
    rw [newest?, Pipeline.newest?, fresh.inbox, fresh.pending, fresh.queue, fresh.analyzed]
    rfl
  refine ⟨?_, ?_, ?_⟩
  · intro uri held found
    rw [fresh.pending] at found
    cases found
  · intro uri change found
    rw [none] at found
    cases found
  · intro uri isOpen
    rw [fresh.documents] at isOpen
    cases isOpen

/-- So it is when the editor has connected. -/
theorem fresh_connect (settings : Settings) (roots : List FilePath) (options : Option Json) :
    Fresh ⟨(Session.start settings).connect roots options, []⟩ := by
  unfold Session.connect
  dsimp only
  cases Settings.override _ options with
  | ok overridden => exact ⟨fun _ => rfl, rfl, rfl, rfl, rfl⟩
  | error refusal => exact ⟨fun _ => rfl, rfl, rfl, rfl, rfl⟩

/-- It stays so when the files are loaded and analyzed. -/
theorem Fresh.begin {session : Session} (fresh : Fresh ⟨session, []⟩) (disk : Disk) :
    Fresh ⟨(session.begin disk).2, []⟩ where
  documents uri := by
    have loaded := @Workspace.isOpen_startup _ _ session.workspace formality
      (session.settings.sourceFilter.access disk) session.roots uri
    exact loaded.trans (fresh.documents uri)
  inbox := fresh.inbox
  pending := fresh.pending
  queue := fresh.queue
  analyzed := rfl

/-- Nothing is on its way. -/
def Idle (state : Observed) : Prop :=
  state.session.pipeline.inbox = [] ∧ state.session.pipeline.debouncer.pending = .empty ∧
    state.session.pipeline.queue = []

theorem Idle.newest? (idle : state.Idle) : state.newest? uri = newestOf uri state.analyzed := by
  obtain ⟨inbox, pending, queue⟩ := idle
  rw [Observed.newest?, Pipeline.newest?, inbox, pending, queue]
  rfl

/-- Whenever nothing is on its way, the last change analyzed for a document that was ever
open has the current text of that document, and the analysis is what the changes analyzed, given
to it one by one, have made of it. -/
theorem last_analyzed_is_current (fresh : first.Fresh) (before : first.Run middle)
    (opened : middle.session.workspace.documents.isOpen uri = true) (after : middle.Run last)
    (idle : last.Idle) :
    (∃ change, newestOf uri last.analyzed = some change ∧
      last.session.workspace.documents.text? uri = some change.text) ∧
    last.session.workspace.analyzer =
      first.session.workspace.analyzer.analyzeAll formality
        (last.analyzed.map Change.fileText) := by
  constructor
  · have faithful := before.faithful fresh.faithful
    have sent := after.isSome_newest? faithful (faithful.sent uri opened)
    obtain ⟨change, newest⟩ := Option.isSome_iff_exists.1 sent
    refine ⟨change, idle.newest? ▸ newest, ?_⟩
    exact (after.faithful faithful).text uri change newest
  · obtain ⟨more, analyzed, analyzer⟩ := Run.analyzes (before.trans after)
    rw [analyzer, analyzed, fresh.analyzed, List.nil_append]

section Example

/-- A session in which a document is opened. -/
def afterOpening : Observed :=
  ⟨((((Session.start {}).connect [] none).begin .empty).2.opened "a:b" "x" 1).2, []⟩

/-- The document is edited twice, the second time in vain, and closed while its file cannot
be read. -/
def afterClosing : Observed :=
  ⟨((afterOpening.session.changed "a:b" "y" 2).changed "a:b" "z" 2).closed "a:b" none, []⟩

theorem ofText?_ab : Url.ofText? "a:b" = some ⟨"a", none, .rootless "b", none, none⟩ := by
  cbv

theorem run_afterOpening :
    Run ⟨(((Session.start {}).connect [] none).begin .empty).2, []⟩ afterOpening := by
  have heeded : ∀ session : Session,
      session.heed .empty (.opened "a:b" "x" 1) = session.opened "a:b" "x" 1 := by
    intro session
    simp only [Session.heed, ofText?_ab]
    rfl
  refine .single ⟨rfl, ?_⟩
  rw [afterOpening, ← heeded]
  exact .heed .empty nofun

theorem run_afterClosing : afterOpening.Run afterClosing := by
  have changed : ∀ (session : Session) (text : String),
      (session.heed .empty (.changed "a:b" 2 [text])).2 = session.changed "a:b" text 2 := by
    intro session text
    simp only [Session.heed, ofText?_ab]
    rfl
  have closing : ∀ session : Session,
      (session.heed .empty (.closed "a:b")).2 = session.closed "a:b" none := by
    intro session
    simp only [Session.heed, ofText?_ab]
    rfl
  let edited : Observed := ⟨afterOpening.session.changed "a:b" "y" 2, []⟩
  let refused : Observed := ⟨edited.session.changed "a:b" "z" 2, []⟩
  have edit : afterOpening.Step edited := by
    rw [show edited = afterOpening.heed .empty (.changed "a:b" 2 ["y"]) by rw [heed, changed]; rfl]
    exact .heed .empty nofun
  have refuse : edited.Step refused := by
    rw [show refused = edited.heed .empty (.changed "a:b" 2 ["z"]) by rw [heed, changed]]
    exact .heed .empty nofun
  have close : refused.Step afterClosing := by
    rw [show afterClosing = refused.heed .empty (.closed "a:b") by rw [heed, closing]; rfl]
    exact .heed .empty nofun
  have start : afterOpening.Run afterOpening := .refl
  exact ((start.step rfl edit).step rfl refuse).step rfl close

/-- Everything is received. -/
def afterReceiving : Observed := ((afterClosing.receive 0).receive 0).receive 0

/-- The edit that was refused leaves no trace, and closing the document sends nothing. -/
theorem last_analyzed_is_current_once_closed :
    let settled := (afterReceiving.fire 150).work
    afterOpening.session.workspace.documents.isOpen "a:b" = true ∧
      settled.session.workspace.documents.isOpen "a:b" = false ∧ settled.Idle ∧
      (newestOf "a:b" settled.analyzed).map (·.text) = some "y" := by
  have receiving : afterOpening.Run afterReceiving :=
    ((run_afterClosing.step rfl (.receive 0)).step rfl (.receive 0)).step rfl (.receive 0)
  have settling : afterOpening.Run (afterReceiving.fire 150).work :=
    (receiving.step rfl (.fire 150)).step rfl .work
  have idle : (afterReceiving.fire 150).work.Idle := ⟨rfl, rfl, rfl⟩
  have isOpen : afterOpening.session.workspace.documents.isOpen "a:b" = true := rfl
  obtain ⟨⟨change, analyzed, text⟩, -⟩ := last_analyzed_is_current
    ((fresh_connect {} [] none).begin .empty) run_afterOpening isOpen settling idle
  rw [work_documents] at text
  refine ⟨isOpen, ?_, idle, ?_⟩
  · rw [work_documents]
    rfl
  · rw [analyzed, Option.map_some, ← text]
    rfl

end Example

end Observed

end LiveCheck
