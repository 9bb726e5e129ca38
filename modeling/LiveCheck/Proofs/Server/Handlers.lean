import LiveCheck.Proofs.Server.Delivery
import LiveCheck.Proofs.Server.Edits

/-!
Handlers that take turns.

The handlers of notices start in the order in which the notices arrive, but one that waits
lets others go on. An opening is recorded first; if diagnostics of the document are known,
its handler then waits until the editor has taken them, and only after that sends the text on
its way. An edit that is handled meanwhile is sent on its way first, and the debouncer keeps
whatever comes last. So the last change pushed for a document is the current one unless an
older one is pushed after it (`pushed_current_iff`), which can happen
(`opening_pushed_after_edit`), but not where each notice of a document is taken up only
after the handlers of those before it are done (`pushed_current_of_turns`).
-/

namespace LiveCheck

/-- An opening or an edit. -/
def Notice.IsEdit : Notice → Prop
  | .opened .. => True
  | .changed .. => True
  | _ => False

/-- The version that an opening or an edit gives the document `uri`. -/
def Notice.versionFor? (uri : String) : Notice → Option Int
  | .opened target _ version =>
    if (Url.ofText? target).map (·.text) = some uri then some version else none
  | .changed target version _ =>
    if (Url.ofText? target).map (·.text) = some uri then some version else none
  | _ => none

/-- The versions that notices give the document `uri`, in their order. -/
def versionsOf (uri : String) (notices : List Notice) : List Int :=
  notices.filterMap (Notice.versionFor? uri)

theorem versionsOf_cons {uri : String} {notice : Notice} {version : Int} (rest : List Notice)
    (names : notice.versionFor? uri = some version) :
    versionsOf uri (notice :: rest) = version :: versionsOf uri rest :=
  List.filterMap_cons_some names

/-! ## Handlers in parts -/

namespace Session

variable {session : Session} {uri text : String} {version : Int}

/-- The handler of an opening until it waits or is done, and the change it has still to send
on its way if it waits. -/
def startOpening (session : Session) (uri text : String) (version : Int) :
    Session × List Change :=
  let (sent, session) := session.recordOpened uri text version
  if sent.isEmpty then (session.submit uri text version, [])
  else (session, [⟨uri, text, version⟩])

/-- The handler of a notice until it waits or is done. Only openings wait. -/
def startHandler (session : Session) (disk : Disk) (notice : Notice) : Session × List Change :=
  match notice with
  | .opened uri text version =>
    match Url.ofText? uri with
    | some url => session.startOpening url.text text version
    | none => (session, [])
  | notice => ((session.heed disk notice).2, [])

/-- A handler that waited sends its change on its way. -/
def resume (session : Session) (change : Change) : Session :=
  session.submit change.uri change.text change.version

/-- A handler that goes on at once does what the notice as a whole does. -/
theorem foldl_resume_startHandler (session : Session) (disk : Disk) (notice : Notice) :
    (session.startHandler disk notice).2.foldl resume (session.startHandler disk notice).1 =
      (session.heed disk notice).2 := by
  cases notice with
  | opened uri text version =>
      simp only [startHandler, heed]
      cases Url.ofText? uri with
      | none => rfl
      | some url =>
          simp only [startOpening, opened]
          split <;> rfl
  | initialized => rfl
  | changed => rfl
  | closed => rfl

/-- What is sent on its way between two moments when nothing is received. -/
def sentSince (earlier later : Session) : List Change :=
  Pipeline.sent (later.pipeline.inbox.drop earlier.pipeline.inbox.length)

theorem sentSince_self : session.sentSince session = [] := by
  rw [sentSince, List.drop_length]
  rfl

theorem sentSince_withDocuments (documents : Documents) :
    session.sentSince (session.withDocuments documents) = [] :=
  sentSince_self

theorem sentSince_submit (documents : Documents) :
    session.sentSince ((session.withDocuments documents).submit uri text version) =
      [⟨uri, text, version⟩] := by
  show Pipeline.sent ((session.pipeline.inbox ++ [_]).drop session.pipeline.inbox.length) = _
  rw [List.drop_left]
  rfl

/-- What the handler of an opening or an edit does before it first waits: nothing at all, or
it gives a document a text and a version, and that change is pushed or has to wait. -/
inductive Begun (session : Session) (notice : Notice) : Session × List Change → Prop where
  | kept : Begun session notice (session, [])
  | submitted {documents : Documents} {uri text : String} {version : Int}
      (names : notice.versionFor? uri = some version)
      (documents_eq : ∀ other, documents.opened.get? other =
        if other = uri then some ⟨text, version⟩
        else session.workspace.documents.opened.get? other) :
      Begun session notice ((session.withDocuments documents).submit uri text version, [])
  | waiting {documents : Documents} {uri text : String} {version : Int}
      (names : notice.versionFor? uri = some version)
      (documents_eq : ∀ other, documents.opened.get? other =
        if other = uri then some ⟨text, version⟩
        else session.workspace.documents.opened.get? other) :
      Begun session notice (session.withDocuments documents, [⟨uri, text, version⟩])

theorem get?_opened_openWith (documents : Documents) (other : String) :
    (documents.openWith uri text version).opened.get? other =
      if other = uri then some ⟨text, version⟩ else documents.opened.get? other :=
  Table.get?_insert _ _ _ _

theorem begun_startHandler (disk : Disk) {notice : Notice} (edit : notice.IsEdit) :
    session.Begun notice (session.startHandler disk notice) := by
  cases notice with
  | opened uri text version =>
      simp only [startHandler]
      cases address : Url.ofText? uri with
      | none => exact .kept
      | some url =>
          have names : (Notice.opened uri text version).versionFor? url.text = some version := by
            simp [Notice.versionFor?, address]
          have documents := @get?_opened_openWith url.text text version
            session.workspace.documents
          simp only [startOpening]
          split
          · exact .submitted names documents
          · exact .waiting names documents
  | changed uri version texts =>
      simp only [startHandler, heed]
      cases address : Url.ofText? uri with
      | none => exact .kept
      | some url =>
          have names : (Notice.changed uri version texts).versionFor? url.text =
              some version := by
            simp [Notice.versionFor?, address]
          cases texts.getLast? with
          | none => exact .kept
          | some text =>
              show session.Begun _ (session.changed url.text text version, [])
              unfold changed
              cases edited : session.workspace.documents.edit url.text text version with
              | ok documents =>
                  obtain ⟨-, rfl⟩ := Documents.edit_eq_ok edited
                  exact .submitted names fun _ => Table.get?_insert _ _ _ _
              | error refusal =>
                  cases refusal with
                  | notOpen => exact .submitted names (get?_opened_openWith _)
                  | staleVersion => exact .kept
  | initialized => exact edit.elim
  | closed => exact edit.elim

end Session

/-! ## Runs -/

/-- A session with the notices whose handlers have not started, the changes that handlers
still have to send on their way, and all changes pushed to the debouncer so far. -/
structure Handling where
  session : Session
  /-- Oldest first. -/
  arriving : List Notice
  waiting : List Change
  /-- Oldest first. -/
  pushed : List Change

namespace Handling

variable {state next first last : Handling} {uri : String}

/-- What the editor has open under an address. -/
def document? (state : Handling) (uri : String) : Option Document :=
  state.session.workspace.documents.opened.get? uri

/-- The handler of the oldest notice runs until it waits or is done. -/
def start (state : Handling) (disk : Disk) (notice : Notice) (rest : List Notice) : Handling :=
  let (session, waits) := state.session.startHandler disk notice
  ⟨session, rest, state.waiting ++ waits, state.pushed ++ state.session.sentSince session⟩

/-- The handler that waits to send `change` goes on, and `others` still wait. -/
def resume (state : Handling) (change : Change) (others : List Change) : Handling :=
  let session := state.session.resume change
  ⟨session, state.arriving, others, state.pushed ++ state.session.sentSince session⟩

/-- What may happen next: a handler starts or goes on, or a change gets further. -/
inductive Step (state : Handling) : Handling → Prop where
  | start (disk : Disk) {notice : Notice} {rest : List Notice} (edit : notice.IsEdit)
      (arriving : state.arriving = notice :: rest) : Step state (state.start disk notice rest)
  | resume {change : Change} {before after : List Change}
      (waiting : state.waiting = before ++ change :: after) :
      Step state (state.resume change (before ++ after))
  | receive (now : Nat) :
      Step state { state with session.pipeline := state.session.pipeline.receive now }
  | fire (now : Nat) :
      Step state { state with session.pipeline := state.session.pipeline.fire now }
  | work : Step state { state with session := state.session.work.2 }

/-- Any number of steps. -/
def Run : Handling → Handling → Prop := Relation.ReflTransGen Step

/-- A document is about to be opened: the editor does not have it open, and no handler has
done anything yet. -/
structure Fresh (uri : String) (state : Handling) : Prop where
  document : state.document? uri = none
  waiting : state.waiting = []
  pushed : state.pushed = []

/-- The last change pushed for a document is older than another one. -/
def Overtaken (state : Handling) (uri : String) : Prop :=
  ∃ change newer, newestOf uri state.pushed = some change ∧ newer ∈ state.pushed ∧
    newer.uri = uri ∧ change.version < newer.version

/-! ## What a step does -/

/-- What a step does to the changes of documents: nothing, it gives a document the text of a
change that is pushed or has to wait, or a change that waited is pushed. -/
inductive Moved (state next : Handling) : Prop where
  | nothing (documents : ∀ uri, next.document? uri = state.document? uri)
      (arriving : next.arriving.Sublist state.arriving)
      (waiting : next.waiting = state.waiting) (pushed : next.pushed = state.pushed)
  | accepted (notice : Notice) (change : Change)
      (arriving : state.arriving = notice :: next.arriving)
      (names : notice.versionFor? change.uri = some change.version)
      (documents : ∀ other, next.document? other =
        if other = change.uri then some ⟨change.text, change.version⟩ else state.document? other)
      (changes : next.waiting = state.waiting ∧ next.pushed = state.pushed ++ [change] ∨
        next.waiting = state.waiting ++ [change] ∧ next.pushed = state.pushed)
  | resumed (change : Change) (before after : List Change)
      (documents : ∀ uri, next.document? uri = state.document? uri)
      (arriving : next.arriving = state.arriving)
      (waited : state.waiting = before ++ change :: after)
      (waiting : next.waiting = before ++ after) (pushed : next.pushed = state.pushed ++ [change])

theorem moved_start (disk : Disk) {notice : Notice} {rest : List Notice} (edit : notice.IsEdit)
    (arriving : state.arriving = notice :: rest) :
    state.Moved (state.start disk notice rest) := by
  unfold Handling.start
  generalize begun : state.session.startHandler disk notice = result
  cases begun ▸ state.session.begun_startHandler disk edit with
  | kept =>
      refine .nothing (fun _ => rfl) (arriving ▸ List.sublist_cons_self _ _)
        (List.append_nil _) ?_
      exact (congrArg _ Session.sentSince_self).trans (List.append_nil _)
  | @submitted _ uri text version names documents =>
      refine .accepted notice ⟨uri, text, version⟩ arriving names documents
        (.inl ⟨List.append_nil _, ?_⟩)
      exact congrArg _ (Session.sentSince_submit _)
  | @waiting _ uri text version names documents =>
      refine .accepted notice ⟨uri, text, version⟩ arriving names documents (.inr ⟨rfl, ?_⟩)
      exact (congrArg _ (Session.sentSince_withDocuments _)).trans (List.append_nil _)

theorem Step.moved (step : state.Step next) : state.Moved next := by
  cases step with
  | start disk edit arriving => exact moved_start disk edit arriving
  | @resume change before after waiting =>
      refine .resumed change before after (fun _ => rfl) rfl waiting rfl ?_
      exact congrArg _ (Session.sentSince_submit state.session.workspace.documents)
  | receive now => exact .nothing (fun _ => rfl) (List.Sublist.refl _) rfl rfl
  | fire now => exact .nothing (fun _ => rfl) (List.Sublist.refl _) rfl rfl
  | work =>
      have documents : state.session.work.2.workspace.documents =
          state.session.workspace.documents := Workspace.changes_documents _
      exact .nothing (fun uri => congrArg (·.opened.get? uri) documents)
        (List.Sublist.refl _) rfl rfl

/-! ## What a step preserves -/

/-- The changes of a document that are pushed or wait to be: none is newer than the
document, its own text is among them, and the notices to come are newer. -/
structure Tracked (uri : String) (state : Handling) : Prop where
  bounded : ∀ change ∈ state.waiting ++ state.pushed, change.uri = uri →
    ∃ document, state.document? uri = some document ∧ change.version ≤ document.version ∧
      (document.version ≤ change.version → change.text = document.text)
  held : ∀ document, state.document? uri = some document →
    ⟨uri, document.text, document.version⟩ ∈ state.waiting ++ state.pushed
  ahead : ∀ document, state.document? uri = some document →
    ∀ version ∈ versionsOf uri state.arriving, document.version < version
  increasing : (versionsOf uri state.arriving).Pairwise (· < ·)

theorem Tracked.newer (tracked : state.Tracked uri) {change : Change} {version : Int}
    (mem : change ∈ state.waiting ++ state.pushed) (own : change.uri = uri)
    (arrives : version ∈ versionsOf uri state.arriving) : change.version < version := by
  obtain ⟨document, found, le, -⟩ := tracked.bounded change mem own
  exact le.trans_lt (tracked.ahead document found version arrives)

/-- A step that gives no document a text may drop notices and move changes about. -/
theorem Tracked.keep (tracked : state.Tracked uri)
    (documents : ∀ uri, next.document? uri = state.document? uri)
    (changes : ∀ change, change ∈ next.waiting ++ next.pushed ↔
      change ∈ state.waiting ++ state.pushed)
    (arriving : next.arriving.Sublist state.arriving) : next.Tracked uri where
  bounded change mem own := by
    rw [documents]
    exact tracked.bounded change ((changes change).1 mem) own
  held document found := by
    rw [documents] at found
    exact (changes _).2 (tracked.held document found)
  ahead document found version mem := by
    rw [documents] at found
    exact tracked.ahead document found version ((arriving.filterMap _).subset mem)
  increasing := tracked.increasing.sublist (arriving.filterMap _)

/-- A notice gives a document the text of `change`. -/
theorem Tracked.accept (tracked : state.Tracked uri) {notice : Notice} (change : Change)
    (arriving : state.arriving = notice :: next.arriving)
    (names : notice.versionFor? change.uri = some change.version)
    (documents : ∀ other, next.document? other =
      if other = change.uri then some ⟨change.text, change.version⟩ else state.document? other)
    (changes : ∀ other, other ∈ next.waiting ++ next.pushed ↔
      other = change ∨ other ∈ state.waiting ++ state.pushed) : next.Tracked uri := by
  have rest : next.arriving.Sublist state.arriving := arriving ▸ List.sublist_cons_self _ _
  by_cases own : uri = change.uri
  · subst own
    have versions := arriving ▸ versionsOf_cons next.arriving names
    have document := documents change.uri
    rw [if_pos rfl] at document
    have increasing := tracked.increasing
    rw [versions, List.pairwise_cons] at increasing
    refine ⟨?_, ?_, ?_, increasing.2⟩
    · intro other mem same
      refine ⟨_, document, ?_⟩
      rcases (changes other).1 mem with rfl | mem
      · exact ⟨le_refl _, fun _ => rfl⟩
      · have lt := tracked.newer mem same (versions ▸ List.mem_cons_self)
        exact ⟨lt.le, fun ge => absurd lt (not_lt.2 ge)⟩
    · intro found isFound
      rw [document] at isFound
      cases isFound
      exact (changes _).2 (Or.inl rfl)
    · intro found isFound
      rw [document] at isFound
      cases isFound
      exact increasing.1
  · have document := documents uri
    rw [if_neg own] at document
    refine ⟨?_, ?_, ?_, tracked.increasing.sublist (rest.filterMap _)⟩
    · intro other mem same
      rcases (changes other).1 mem with rfl | mem
      · exact absurd same.symm own
      · exact document ▸ tracked.bounded other mem same
    · intro found isFound
      exact (changes _).2 (Or.inr (tracked.held found (document ▸ isFound)))
    · intro found isFound version mem
      exact tracked.ahead found (document ▸ isFound) version ((rest.filterMap _).subset mem)

theorem Tracked.step (tracked : state.Tracked uri) (step : state.Step next) :
    next.Tracked uri := by
  cases step.moved with
  | nothing documents arriving waiting pushed =>
      exact tracked.keep documents (by simp [waiting, pushed]) arriving
  | accepted notice change arriving names documents changes =>
      refine tracked.accept change arriving names documents fun other => ?_
      rcases changes with ⟨waiting, pushed⟩ | ⟨waiting, pushed⟩ <;>
        simp only [waiting, pushed, List.mem_append, List.mem_singleton] <;> tauto
  | resumed change before after documents arriving waited waiting pushed =>
      refine tracked.keep documents (fun other => ?_) (arriving ▸ List.Sublist.refl _)
      simp only [waited, waiting, pushed, List.mem_append, List.mem_cons, List.not_mem_nil]
      tauto

theorem Tracked.run (tracked : first.Tracked uri) (run : first.Run last) : last.Tracked uri := by
  induction run with
  | refl => exact tracked
  | tail _ step ih => exact ih.step step

theorem Fresh.tracked (fresh : first.Fresh uri)
    (increasing : (versionsOf uri first.arriving).Pairwise (· < ·)) : first.Tracked uri := by
  obtain ⟨document, waiting, pushed⟩ := fresh
  refine ⟨?_, ?_, ?_, increasing⟩
  · rw [waiting, pushed]
    exact nofun
  · intro found isFound
    rw [document] at isFound
    cases isFound
  · intro found isFound
    rw [document] at isFound
    cases isFound

/-! ## The last change pushed -/

theorem Tracked.current_iff (tracked : state.Tracked uri) (idle : state.waiting = []) :
    (newestOf uri state.pushed).map (fun change => ⟨change.text, change.version⟩) =
      state.document? uri ↔ ¬ state.Overtaken uri := by
  have bounded := tracked.bounded
  have held := tracked.held
  rw [idle, List.nil_append] at bounded held
  cases newest : newestOf uri state.pushed with
  | none =>
      have unopened : state.document? uri = none := by
        cases found : state.document? uri with
        | none => rfl
        | some document =>
            exact absurd (List.mem_map_of_mem (held document found)) (newestOf_eq_none.1 newest)
      simp [unopened, Overtaken, newest]
  | some change =>
      obtain ⟨mem, own⟩ := mem_of_newestOf newest
      obtain ⟨document, found, le, sameText⟩ := bounded change mem own
      rw [found, Option.map_some, Option.some_inj]
      constructor
      · rintro rfl ⟨_, newer, isNewest, mem', own', lt⟩
        obtain ⟨_, isFound, le', -⟩ := bounded newer mem' own'
        cases newest.symm.trans isNewest
        cases found.symm.trans isFound
        exact absurd lt (not_lt.2 le')
      · intro current
        have ge : document.version ≤ change.version := by
          by_contra lt
          exact current ⟨change, _, newest, held document found, rfl, not_le.1 lt⟩
        rw [sameText ge, le_antisymm le ge]

/-- Once all handlers are done, the last change pushed for a document is its current text and
version exactly if it was not pushed after a newer one. -/
theorem pushed_current_iff (fresh : first.Fresh uri)
    (increasing : (versionsOf uri first.arriving).Pairwise (· < ·)) (run : first.Run last)
    (finished : last.arriving = [] ∧ last.waiting = []) :
    (newestOf uri last.pushed).map (fun change => ⟨change.text, change.version⟩) =
      last.document? uri ↔ ¬ last.Overtaken uri :=
  ((fresh.tracked increasing).run run).current_iff finished.2

section Example

/-- A session in which a document was opened, analyzed and closed again. -/
def revisited : Session :=
  let session := (Session.start {}).connect [] none
  let session := (session.notify .empty 0 .initialized).2
  let session := (session.notify .empty 0 (.opened "a:b" "" 0)).2
  let session := (session.tick 150).2
  (session.notify .empty 150 (.closed "a:b")).2

/-- The document is about to be opened again and edited. -/
def reopening : Handling :=
  ⟨revisited, [.opened "a:b" "x" 1, .changed "a:b" 2 ["y"]], [], []⟩

/-- Its former diagnostics are sent again. -/
def reopened : Handling :=
  reopening.start .empty (.opened "a:b" "x" 1) [.changed "a:b" 2 ["y"]]

/-- The handler of the opening goes on before the edit is taken up. -/
def inTurn : Handling :=
  (reopened.resume ⟨"a:b", "x", 1⟩ []).start .empty (.changed "a:b" 2 ["y"]) []

/-- The edit is taken up before the handler of the opening goes on. -/
def outOfTurn : Handling :=
  (reopened.start .empty (.changed "a:b" 2 ["y"]) []).resume ⟨"a:b", "x", 1⟩ []

theorem fresh_reopening : reopening.Fresh "a:b" := ⟨by decide +kernel, rfl, rfl⟩

theorem increasing_reopening : (versionsOf "a:b" reopening.arriving).Pairwise (· < ·) := by
  decide +kernel

theorem step_reopened : reopening.Step reopened := .start .empty trivial rfl

theorem run_inTurn : reopening.Run inTurn := by
  have waiting : reopened.waiting = [] ++ ⟨"a:b", "x", 1⟩ :: [] := by decide +kernel
  exact ((Relation.ReflTransGen.single step_reopened).tail (.resume waiting)).tail
    (.start _ trivial rfl)

theorem run_outOfTurn : reopening.Run outOfTurn := by
  have edited : reopened.Step (reopened.start .empty (.changed "a:b" 2 ["y"]) []) :=
    .start _ trivial rfl
  have waiting : (reopened.start .empty (.changed "a:b" 2 ["y"]) []).waiting =
      [] ++ ⟨"a:b", "x", 1⟩ :: [] := by decide +kernel
  exact ((Relation.ReflTransGen.single step_reopened).tail edited).tail (.resume waiting)

theorem pushed_current_inTurn :
    reopening.Fresh "a:b" ∧ (versionsOf "a:b" reopening.arriving).Pairwise (· < ·) ∧
      reopening.Run inTurn ∧ (inTurn.arriving = [] ∧ inTurn.waiting = []) ∧
      (newestOf "a:b" inTurn.pushed).map (fun change => ⟨change.text, change.version⟩) =
        inTurn.document? "a:b" := by
  have finished : inTurn.arriving = [] ∧ inTurn.waiting = [] := ⟨rfl, by decide +kernel⟩
  have pushed : inTurn.pushed = [⟨"a:b", "x", 1⟩, ⟨"a:b", "y", 2⟩] := by decide +kernel
  refine ⟨fresh_reopening, increasing_reopening, run_inTurn, finished, ?_⟩
  refine (pushed_current_iff fresh_reopening increasing_reopening run_inTurn finished).2 ?_
  rintro ⟨change, newer, newest, mem, -, lt⟩
  rw [pushed] at newest mem
  cases newest
  rcases List.mem_pair.1 mem with rfl | rfl
  · exact absurd lt (by decide)
  · exact absurd lt (by decide)

/-- The last change pushed is the opening, although the edit is what the editor has. -/
theorem opening_pushed_after_edit :
    reopening.Fresh "a:b" ∧ (versionsOf "a:b" reopening.arriving).Pairwise (· < ·) ∧
      reopening.Run outOfTurn ∧ (outOfTurn.arriving = [] ∧ outOfTurn.waiting = []) ∧
      newestOf "a:b" outOfTurn.pushed = some ⟨"a:b", "x", 1⟩ ∧
      outOfTurn.document? "a:b" = some ⟨"y", 2⟩ := by
  refine ⟨fresh_reopening, increasing_reopening, run_outOfTurn, ⟨rfl, rfl⟩, ?_, ?_⟩
  · decide +kernel
  · decide +kernel

end Example

/-! ## Handlers that do not overtake -/

/-- A step that takes up a notice of a document only when no handler has yet to send a change
of it. -/
def Turn (uri : String) (state next : Handling) : Prop :=
  state.Step next ∧ (versionsOf uri next.arriving ≠ versionsOf uri state.arriving →
    ∀ change ∈ state.waiting, change.uri ≠ uri)

/-- The changes of a document are pushed in the order of their versions. -/
structure Ascending (uri : String) (state : Handling) : Prop where
  sorted : (changesOf uri (state.pushed ++ state.waiting)).Pairwise (·.version < ·.version)
  alone : (changesOf uri state.waiting).length ≤ 1

theorem Ascending.accept (ascending : state.Ascending uri) (tracked : state.Tracked uri)
    {notice : Notice} (change : Change) (arriving : state.arriving = notice :: next.arriving)
    (names : notice.versionFor? change.uri = some change.version)
    (changes : next.waiting = state.waiting ∧ next.pushed = state.pushed ++ [change] ∨
      next.waiting = state.waiting ++ [change] ∧ next.pushed = state.pushed)
    (inTurn : versionsOf uri next.arriving ≠ versionsOf uri state.arriving →
      ∀ other ∈ state.waiting, other.uri ≠ uri) :
    next.Ascending uri := by
  obtain ⟨sorted, alone⟩ := ascending
  have itself := changesOf_singleton uri change
  by_cases own : change.uri = uri
  · rw [if_pos own] at itself
    have versions := arriving ▸ versionsOf_cons next.arriving (own ▸ names)
    have idle : changesOf uri state.waiting = [] :=
      changesOf_eq_nil.2 (inTurn (versions ▸ (List.cons_ne_self _ _).symm))
    have last : changesOf uri (next.pushed ++ next.waiting) =
        changesOf uri state.pushed ++ [change] := by
      rcases changes with ⟨waiting, pushed⟩ | ⟨waiting, pushed⟩ <;>
        simp only [waiting, pushed, changesOf_append, idle, itself, List.append_nil,
          List.nil_append]
    refine ⟨?_, ?_⟩
    · rw [changesOf_append] at sorted
      rw [last, List.pairwise_append]
      refine ⟨(List.pairwise_append.1 sorted).1, List.pairwise_singleton _ _, ?_⟩
      intro other mem _ same
      obtain ⟨mem, sameUri⟩ := List.mem_filter.1 mem
      rw [List.mem_singleton.1 same]
      exact tracked.newer (List.mem_append_right _ mem) (by simpa using sameUri)
        (versions ▸ List.mem_cons_self)
    · rcases changes with ⟨waiting, -⟩ | ⟨waiting, -⟩ <;>
        simp [waiting, changesOf_append, idle, itself]
  · rw [if_neg own] at itself
    rw [changesOf_append] at sorted
    rcases changes with ⟨waiting, pushed⟩ | ⟨waiting, pushed⟩ <;>
      exact ⟨by simpa only [waiting, pushed, changesOf_append, itself, List.append_nil],
        by simpa only [waiting, changesOf_append, itself, List.append_nil]⟩

theorem Ascending.turn (ascending : state.Ascending uri) (tracked : state.Tracked uri)
    (turn : state.Turn uri next) : next.Ascending uri := by
  obtain ⟨step, inTurn⟩ := turn
  cases step.moved with
  | nothing documents arriving waiting pushed =>
      exact ⟨by rw [waiting, pushed]; exact ascending.sorted, waiting ▸ ascending.alone⟩
  | accepted notice change arriving names documents changes =>
      exact ascending.accept tracked change arriving names changes inTurn
  | resumed change before after documents arriving waited waiting pushed =>
      obtain ⟨sorted, alone⟩ := ascending
      have same : changesOf uri [change] ++ (changesOf uri before ++ changesOf uri after) =
          changesOf uri before ++ (changesOf uri [change] ++ changesOf uri after) := by
        rw [waited, ← List.singleton_append, changesOf_append, changesOf_append] at alone
        by_cases own : change.uri = uri
        · rw [changesOf_singleton, if_pos own] at alone ⊢
          have first : changesOf uri before = [] := by
            rw [List.length_append, List.length_append, List.length_singleton] at alone
            exact List.eq_nil_of_length_eq_zero (by omega)
          rw [first, List.nil_append, List.nil_append]
        · rw [changesOf_singleton, if_neg own, List.nil_append, List.nil_append]
      refine ⟨?_, ?_⟩
      · rw [waited, ← List.singleton_append] at sorted
        simp only [changesOf_append] at sorted
        simp only [waiting, pushed, changesOf_append, List.append_assoc]
        exact same ▸ sorted
      · rw [waited, ← List.singleton_append, changesOf_append, changesOf_append, ← same] at alone
        rw [waiting, changesOf_append]
        exact (List.sublist_append_right _ _).length_le.trans alone

/-- The last of the changes pushed in the order of their versions is the newest. -/
theorem Ascending.not_overtaken (ascending : state.Ascending uri) : ¬ state.Overtaken uri := by
  rintro ⟨change, newer, newest, mem, own, lt⟩
  rw [newestOf_eq_getLast?] at newest
  obtain ⟨earlier, split⟩ := List.getLast?_eq_some_iff.1 newest
  have sorted := ascending.sorted
  rw [changesOf_append, split] at sorted
  have ordered := (List.pairwise_append.1 (List.pairwise_append.1 sorted).1).2.2
  have among : newer ∈ earlier ++ [change] :=
    split ▸ List.mem_filter.2 ⟨mem, by simpa using own⟩
  rcases List.mem_append.1 among with before | same
  · exact absurd (ordered newer before change List.mem_cons_self) (not_lt.2 lt.le)
  · exact absurd lt (List.mem_singleton.1 same ▸ lt_irrefl _)

/-- Where no notice of a document is taken up before its handlers are done, its last change
pushed is the current one. -/
theorem pushed_current_of_turns (fresh : first.Fresh uri)
    (increasing : (versionsOf uri first.arriving).Pairwise (· < ·))
    (run : Relation.ReflTransGen (Turn uri) first last) (idle : last.waiting = []) :
    (newestOf uri last.pushed).map (fun change => ⟨change.text, change.version⟩) =
      last.document? uri := by
  have kept : last.Tracked uri ∧ last.Ascending uri := by
    clear idle
    induction run with
    | refl =>
        refine ⟨fresh.tracked increasing, ?_, ?_⟩
        · rw [fresh.pushed, fresh.waiting]
          exact .nil
        · rw [fresh.waiting]
          exact Nat.zero_le 1
    | tail _ turn ih =>
        obtain ⟨tracked, ascending⟩ := ih
        exact ⟨tracked.step turn.1, ascending.turn tracked turn⟩
  exact (kept.1.current_iff idle).2 kept.2.not_overtaken

end Handling

end LiveCheck
