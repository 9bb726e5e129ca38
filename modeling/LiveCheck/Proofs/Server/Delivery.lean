import LiveCheck.Proofs.Server.Pipeline

/-!
What a debouncer delivers over a whole run.

A run is any sequence of events: something is sent to the debouncer, it receives the
oldest thing sent to it, its timer fires. It ends when all that was sent has been received
and what is still held back is delivered. Whatever the settings, the changes of a document
keep their order and none is delivered twice. If changes supersede each other by document,
the last change of each document gets through; if all changes do, at most one is held back
at any time and the last of all gets through (`delivered_of_run`).

Every statement is about one list, the changes delivered, held back and not yet received
in that order (`Pipeline.inLine`). An event adds what it sends to its end and may otherwise
only drop changes that are superseded.
-/

namespace LiveCheck

/-- The changes of one document, in their order. -/
def changesOf (uri : String) (changes : List Change) : List Change :=
  changes.filter (·.uri == uri)

theorem changesOf_append (uri : String) (earlier later : List Change) :
    changesOf uri (earlier ++ later) = changesOf uri earlier ++ changesOf uri later :=
  List.filter_append earlier later

theorem changesOf_singleton (uri : String) (change : Change) :
    changesOf uri [change] = if change.uri = uri then [change] else [] := by
  by_cases own : change.uri = uri <;> simp [changesOf, own]

theorem changesOf_eq_nil {uri : String} {changes : List Change} :
    changesOf uri changes = [] ↔ ∀ change ∈ changes, change.uri ≠ uri := by
  simp [changesOf]

/-- The newest change of a document is the last of its changes. -/
theorem newestOf_eq_getLast? (uri : String) (changes : List Change) :
    newestOf uri changes = (changesOf uri changes).getLast? := by
  rw [newestOf, changesOf, ← List.head?_reverse, ← List.filter_reverse, List.head?_filter]

/-- Among changes of distinct documents there is at most one of a document. -/
theorem changesOf_eq_toList {uri : String} {changes : List Change}
    (distinct : (changes.map (·.uri)).Nodup) :
    changesOf uri changes = (newestOf uri changes).toList := by
  induction changes with
  | nil => rfl
  | cons first rest ih =>
      obtain ⟨fresh, distinct⟩ := List.nodup_cons.1 distinct
      have others : changesOf uri (first :: rest) =
          (if first.uri = uri then [first] else []) ++ changesOf uri rest := by
        by_cases same : first.uri = uri <;> simp [changesOf, same]
      rw [others, ih distinct, newestOf_cons]
      by_cases same : first.uri = uri
      · rw [newestOf_eq_none.2 (same ▸ fresh), if_pos same, if_pos same]
        rfl
      · rw [if_neg same, if_neg same, Option.or_none]
        rfl

namespace Debouncer

theorem changesOf_inOrder {pending : Table Pending} (keyed : Keyed pending) (uri : String) :
    changesOf uri (inOrder pending) = ((pending.get? uri).map (·.change)).toList := by
  rw [changesOf_eq_toList (nodup_uris_inOrder keyed), newestOf_inOrder keyed]

theorem inOrder_singleton (uri : String) (held : Pending) :
    inOrder (Table.empty.insert uri held) = [held.change] := by
  simp [inOrder, Table.values, Table.insert, Table.insertEntry, Table.empty]

/-- Where at most one change is held back, the timer does not change its place. -/
theorem inOrder_filter_append {pending : Table Pending} (single : pending.size ≤ 1) (now : Nat) :
    inOrder (pending.filter fun _ held => held.deadline ≤ now) ++
      inOrder (pending.filter fun _ held => now < held.deadline) = inOrder pending := by
  have few : pending.values.length ≤ 1 := by
    rw [Table.values, List.length_map]
    exact single
  rw [inOrder, inOrder, inOrder, Table.values_filter pending fun held => held.deadline ≤ now,
    Table.values_filter pending fun held => now < held.deadline]
  rcases listed : pending.values with _ | ⟨held, rest⟩
  · simp
  · rw [listed, List.length_cons] at few
    have none : rest = [] := List.length_eq_zero_iff.1 (by omega)
    by_cases due : held.deadline ≤ now
    · simp [none, due, Nat.not_lt.2 due]
    · simp [none, due, Nat.lt_of_not_le due]

end Debouncer

/-! ## Events -/

/-- What may happen at a debouncer. -/
inductive DebounceEvent where
  /-- Something is sent to it. -/
  | send (input : DebounceInput)
  /-- It receives the oldest thing sent to it. -/
  | receive (now : Nat)
  /-- Its timer fires. -/
  | fire (now : Nat)
deriving DecidableEq, Repr, Inhabited

namespace DebounceEvent

/-- What an event sends to the debouncer. -/
def input? : DebounceEvent → Option DebounceInput
  | .send input => some input
  | _ => none

/-- The changes pushed in a run, oldest first. -/
def pushed (events : List DebounceEvent) : List Change :=
  Pipeline.sent (events.filterMap input?)

theorem pushed_nil : pushed [] = [] := rfl

theorem pushed_send (input : DebounceInput) : pushed [.send input] = Pipeline.sent [input] := rfl

theorem pushed_receive (now : Nat) : pushed [.receive now] = [] := rfl

theorem pushed_fire (now : Nat) : pushed [.fire now] = [] := rfl

theorem pushed_cons (event : DebounceEvent) (events : List DebounceEvent) :
    pushed (event :: events) = pushed [event] ++ pushed events := by
  rw [pushed, pushed, pushed, Pipeline.sent, Pipeline.sent, Pipeline.sent,
    ← List.filterMap_append, ← List.filterMap_append, List.singleton_append]

end DebounceEvent

namespace Pipeline

open DebounceEvent (pushed pushed_nil pushed_send pushed_receive pushed_fire pushed_cons)

variable {pipeline : Pipeline} {scope : DebounceScope} {events : List DebounceEvent}

/-- An event happens. -/
def step (pipeline : Pipeline) : DebounceEvent → Pipeline
  | .send input => pipeline.send input
  | .receive now => pipeline.receive now
  | .fire now => pipeline.fire now

/-- Events happen one after the other. -/
def run (pipeline : Pipeline) (events : List DebounceEvent) : Pipeline :=
  events.foldl step pipeline

/-- The changes delivered, those held back and those not yet received. -/
def inLine (pipeline : Pipeline) : List Change :=
  pipeline.queue ++ Debouncer.inOrder pipeline.debouncer.pending ++ sent pipeline.inbox

/-- Once everything is received, the last delivery empties the line. -/
theorem flush_queue (received : pipeline.inbox = []) :
    pipeline.flush.queue = pipeline.inLine := by
  rw [inLine, received, sent, List.filterMap_nil, List.append_nil]
  rfl

theorem sent_append (first second : List DebounceInput) :
    sent (first ++ second) = sent first ++ sent second :=
  List.filterMap_append

theorem inLine_send (input : DebounceInput) :
    (pipeline.send input).inLine = pipeline.inLine ++ sent [input] := by
  rw [inLine, inLine, send, sent_append, List.append_assoc, List.append_assoc, List.append_assoc]

theorem keyed_step (keyed : Debouncer.Keyed pipeline.debouncer.pending) (event : DebounceEvent) :
    Debouncer.Keyed (pipeline.step event).debouncer.pending := by
  cases event with
  | send input => exact keyed
  | receive now => exact keyed_receive keyed now
  | fire now => exact Debouncer.keyed_filter keyed _

/-! ## Order and repetition -/

theorem changesOf_inLine (keyed : Debouncer.Keyed pipeline.debouncer.pending) (uri : String) :
    changesOf uri pipeline.inLine =
      changesOf uri pipeline.queue ++
        ((pipeline.debouncer.pending.get? uri).map (·.change)).toList ++
        changesOf uri (sent pipeline.inbox) := by
  rw [inLine, changesOf_append, changesOf_append, Debouncer.changesOf_inOrder keyed]

/-- A change that is received may supersede what is held back, and nothing else. -/
theorem changesOf_inLine_receive (keyed : Debouncer.Keyed pipeline.debouncer.pending)
    (now : Nat) (uri : String) :
    (changesOf uri (pipeline.receive now).inLine).Sublist (changesOf uri pipeline.inLine) := by
  rw [changesOf_inLine (keyed_receive keyed now), changesOf_inLine keyed, receive]
  rcases inbox : pipeline.inbox with _ | ⟨input, rest⟩
  · rw [inbox]
  · cases input with
    | configure settings => exact .refl _
    | change change =>
        have waiting : sent (.change change :: rest) = [change] ++ sent rest := rfl
        rw [waiting, changesOf_append, List.append_assoc, List.append_assoc]
        refine (List.Sublist.refl _).append ?_
        rw [← List.append_assoc]
        refine List.Sublist.append ?_ (.refl _)
        simp only [handle, Debouncer.push, Table.get?_insert]
        by_cases same : uri = change.uri
        · have own : changesOf uri [change] = [change] := by
            simp [changesOf, same]
          rw [if_pos same, own]
          exact List.sublist_append_right _ _
        · have other : changesOf uri [change] = [] := by
            simp [changesOf, Ne.symm same]
          rw [if_neg same, other, List.append_nil]
          cases pipeline.debouncer.settings.scope with
          | perFile => exact .refl _
          | workspace => exact List.nil_sublist _

/-- The timer only moves changes on. -/
theorem changesOf_inLine_fire (keyed : Debouncer.Keyed pipeline.debouncer.pending)
    (now : Nat) (uri : String) :
    changesOf uri (pipeline.fire now).inLine = changesOf uri pipeline.inLine := by
  rw [changesOf_inLine (Debouncer.keyed_filter keyed _), changesOf_inLine keyed]
  simp only [fire, Debouncer.fire, changesOf_append,
    Debouncer.changesOf_inOrder (Debouncer.keyed_filter keyed _), Table.get?_filter]
  rw [List.append_assoc (changesOf uri pipeline.queue)]
  congr 2
  cases pipeline.debouncer.pending.get? uri with
  | none => rfl
  | some held =>
      by_cases due : held.deadline ≤ now
      · simp [due, Option.filter, Nat.not_lt.2 due]
      · simp [due, Option.filter, Nat.lt_of_not_le due]

theorem changesOf_inLine_step (keyed : Debouncer.Keyed pipeline.debouncer.pending)
    (event : DebounceEvent) (uri : String) :
    (changesOf uri (pipeline.step event).inLine).Sublist
      (changesOf uri (pipeline.inLine ++ pushed [event])) := by
  cases event with
  | send input =>
      rw [step, inLine_send, pushed_send]
  | receive now =>
      rw [pushed_receive, List.append_nil]
      exact changesOf_inLine_receive keyed now uri
  | fire now =>
      rw [pushed_fire, List.append_nil, step, changesOf_inLine_fire keyed]

/-- Through a whole run, the changes of a document in line are some of those that were in
line and those that are pushed, in the same order. -/
theorem changesOf_inLine_run (keyed : Debouncer.Keyed pipeline.debouncer.pending)
    (events : List DebounceEvent) (uri : String) :
    (changesOf uri (pipeline.run events).inLine).Sublist
      (changesOf uri (pipeline.inLine ++ pushed events)) := by
  induction events generalizing pipeline with
  | nil =>
      rw [pushed_nil, List.append_nil]
      exact .refl _
  | cons event rest ih =>
      refine (ih (keyed_step keyed event)).trans ?_
      rw [pushed_cons, ← List.append_assoc, changesOf_append, changesOf_append]
      exact (changesOf_inLine_step keyed event uri).append (.refl _)

/-! ## One scope throughout -/

/-- A scope is in force, and nothing not yet received changes that. -/
def InForce (scope : DebounceScope) (pipeline : Pipeline) : Prop :=
  pipeline.debouncer.settings.scope = scope ∧
    ∀ settings, .configure settings ∈ pipeline.inbox → settings.scope = scope

/-- All settings sent in a run have one scope. -/
def KeepsScope (scope : DebounceScope) (events : List DebounceEvent) : Prop :=
  ∀ settings, .send (.configure settings) ∈ events → settings.scope = scope

theorem KeepsScope.tail {event : DebounceEvent} (keeps : KeepsScope scope (event :: events)) :
    KeepsScope scope events :=
  fun settings mem => keeps settings (List.mem_cons_of_mem _ mem)

theorem InForce.step (inForce : pipeline.InForce scope) {event : DebounceEvent}
    (keeps : KeepsScope scope (event :: events)) : (pipeline.step event).InForce scope := by
  obtain ⟨same, waiting⟩ := inForce
  cases event with
  | send input =>
      refine ⟨same, ?_⟩
      intro settings mem
      rcases List.mem_append.1 mem with mem | mem
      · exact waiting settings mem
      · rw [List.mem_singleton] at mem
        exact keeps settings (mem ▸ List.mem_cons_self)
  | fire now => exact ⟨same, waiting⟩
  | receive now =>
      show (pipeline.receive now).InForce scope
      unfold receive
      split
      · exact ⟨same, waiting⟩
      · next input rest inbox =>
        have later : ∀ settings, .configure settings ∈ rest → settings.scope = scope :=
          fun settings mem => waiting settings (inbox ▸ List.mem_cons_of_mem _ mem)
        cases input with
        | change change => exact ⟨same, later⟩
        | configure settings => exact ⟨waiting settings (inbox ▸ List.mem_cons_self), later⟩

/-- The newest change of a document in line is the newest on its way. -/
theorem newestOf_inLine (keyed : Debouncer.Keyed pipeline.debouncer.pending) (uri : String) :
    newestOf uri pipeline.inLine = pipeline.newest? uri := by
  rw [inLine, newestOf_append, newestOf_append, Debouncer.newestOf_inOrder keyed]
  rfl

theorem newestOf_inLine_step (keyed : Debouncer.Keyed pipeline.debouncer.pending)
    (inForce : pipeline.InForce .perFile) (event : DebounceEvent) (uri : String) :
    newestOf uri (pipeline.step event).inLine =
      newestOf uri (pipeline.inLine ++ pushed [event]) := by
  cases event with
  | send input =>
      rw [step, inLine_send, pushed_send]
  | receive now =>
      rw [pushed_receive, List.append_nil, newestOf_inLine (keyed_step keyed _),
        newestOf_inLine keyed]
      exact newest?_receive inForce.1 now
  | fire now =>
      rw [pushed_fire, List.append_nil, newestOf_inLine (keyed_step keyed _),
        newestOf_inLine keyed]
      exact newest?_fire keyed now

/-- If changes supersede each other by document, the newest change of each is never lost. -/
theorem newestOf_inLine_run (keyed : Debouncer.Keyed pipeline.debouncer.pending)
    (inForce : pipeline.InForce .perFile) (keeps : KeepsScope .perFile events) (uri : String) :
    newestOf uri (pipeline.run events).inLine =
      newestOf uri (pipeline.inLine ++ pushed events) := by
  induction events generalizing pipeline with
  | nil =>
      rw [pushed_nil, List.append_nil]
      rfl
  | cons event rest ih =>
      refine (ih (keyed_step keyed event) (inForce.step keeps) keeps.tail).trans ?_
      rw [pushed_cons, ← List.append_assoc, newestOf_append, newestOf_append,
        newestOf_inLine_step keyed inForce]

/-- If all changes supersede each other, an event leaves at most one held back. -/
theorem size_pending_step (inForce : pipeline.InForce .workspace)
    (single : pipeline.debouncer.pending.size ≤ 1) (event : DebounceEvent) :
    (pipeline.step event).debouncer.pending.size ≤ 1 := by
  cases event with
  | send input => exact single
  | fire now => exact Nat.le_trans (List.length_filter_le _ _) single
  | receive now =>
      show (pipeline.receive now).debouncer.pending.size ≤ 1
      unfold receive
      split
      · exact single
      · next input rest inbox =>
        cases input with
        | configure settings => exact single
        | change change =>
            simp only [handle, Debouncer.push, inForce.1]
            exact Nat.le_refl 1

theorem inLine_fire (single : pipeline.debouncer.pending.size ≤ 1) (now : Nat) :
    (pipeline.fire now).inLine = pipeline.inLine := by
  rw [inLine, inLine, ← Debouncer.inOrder_filter_append single now, ← List.append_assoc]
  rfl

theorem getLast?_inLine_step (inForce : pipeline.InForce .workspace)
    (single : pipeline.debouncer.pending.size ≤ 1) (event : DebounceEvent) :
    (pipeline.step event).inLine.getLast? =
      (pipeline.inLine ++ pushed [event]).getLast? := by
  cases event with
  | send input =>
      rw [step, inLine_send, pushed_send]
  | fire now =>
      rw [pushed_fire, List.append_nil, step, inLine_fire single]
  | receive now =>
      rw [pushed_receive, List.append_nil]
      show (pipeline.receive now).inLine.getLast? = _
      rw [inLine, inLine, receive]
      rcases inbox : pipeline.inbox with _ | ⟨input, rest⟩
      · rw [inbox]
      · cases input with
        | configure settings => rfl
        | change change =>
            -- What it supersedes stood before it in line.
            have waiting : sent (.change change :: rest) = [change] ++ sent rest := rfl
            have held : Debouncer.inOrder
                (handle pipeline.debouncer now (.change change)).pending = [change] := by
              simp only [handle, Debouncer.push, inForce.1, Debouncer.inOrder_singleton]
            simp only [held, waiting, List.getLast?_append, List.getLast?_singleton,
              Option.or_assoc, Option.some_or]

/-- If all changes supersede each other, the last change of all is never lost. -/
theorem getLast?_inLine_run (inForce : pipeline.InForce .workspace)
    (single : pipeline.debouncer.pending.size ≤ 1) (keeps : KeepsScope .workspace events) :
    (pipeline.run events).debouncer.pending.size ≤ 1 ∧
      (pipeline.run events).inLine.getLast? = (pipeline.inLine ++ pushed events).getLast? := by
  induction events generalizing pipeline with
  | nil =>
      rw [pushed_nil, List.append_nil]
      exact ⟨single, rfl⟩
  | cons event rest ih =>
      obtain ⟨size, last⟩ :=
        ih (inForce.step keeps) (size_pending_step inForce single event) keeps.tail
      refine ⟨size, last.trans ?_⟩
      rw [pushed_cons, ← List.append_assoc, List.getLast?_append, List.getLast?_append,
        getLast?_inLine_step inForce single]

/-! ## Whole runs -/

theorem inLine_start (settings : DebounceSettings) : (start settings).inLine = [] := by
  simp [inLine, start, Debouncer.start, Debouncer.inOrder, Table.values, Table.empty, sent]

theorem keyed_start (settings : DebounceSettings) :
    Debouncer.Keyed (start settings).debouncer.pending := by
  intro uri held found
  cases found

theorem inForce_start {settings : DebounceSettings} (same : settings.scope = scope) :
    (start settings).InForce scope :=
  ⟨same, nofun⟩

/-- Of the changes pushed in a run, those delivered for a document are some, in order. If
changes supersede each other by document throughout, the last change pushed for a document
is the last delivered for it. If all changes do, at most one is ever held back and the last
change pushed is the last delivered. -/
theorem delivered_of_run (settings : DebounceSettings) (events : List DebounceEvent) :
    let last := (start settings).run events
    (last.inbox = [] → ∀ uri,
      (changesOf uri last.flush.queue).Sublist (changesOf uri (pushed events))) ∧
    (settings.scope = .perFile → KeepsScope .perFile events → last.inbox = [] → ∀ uri,
      newestOf uri last.flush.queue = newestOf uri (pushed events)) ∧
    (settings.scope = .workspace → KeepsScope .workspace events →
      last.debouncer.pending.size ≤ 1 ∧
        (last.inbox = [] → last.flush.queue.getLast? = (pushed events).getLast?)) := by
  intro last
  have keyed := keyed_start settings
  refine ⟨?_, ?_, ?_⟩
  · intro received uri
    have through := changesOf_inLine_run keyed events uri
    rwa [inLine_start, List.nil_append, ← flush_queue received] at through
  · intro perFile keeps received uri
    have through := newestOf_inLine_run keyed (inForce_start perFile) keeps uri
    rwa [inLine_start, List.nil_append, ← flush_queue received] at through
  · intro workspace keeps
    obtain ⟨size, through⟩ :=
      getLast?_inLine_run (inForce_start workspace) (Nat.zero_le 1) keeps
    refine ⟨size, ?_⟩
    intro received
    rwa [inLine_start, List.nil_append, ← flush_queue received] at through

/-- One document changes, is due while another waits, and changes again. -/
def burst : List DebounceEvent :=
  [.send (.change ⟨"a", "x", 1⟩), .send (.change ⟨"b", "y", 1⟩), .receive 0,
    .send (.change ⟨"a", "z", 2⟩), .receive 10, .fire 150, .receive 160]

/-- The last change of the document gets through, whichever changes supersede each other. -/
theorem delivered_of_burst :
    let byDocument := (start {}).run burst
    let byWorkspace := (start { scope := .workspace }).run burst
    byDocument.inbox = [] ∧ byWorkspace.inbox = [] ∧
      (changesOf "a" byDocument.flush.queue).Sublist [⟨"a", "x", 1⟩, ⟨"a", "z", 2⟩] ∧
      newestOf "a" byDocument.flush.queue = some ⟨"a", "z", 2⟩ ∧
      newestOf "b" byDocument.flush.queue = some ⟨"b", "y", 1⟩ ∧
      byWorkspace.debouncer.pending.size ≤ 1 ∧
      byWorkspace.flush.queue.getLast? = some ⟨"a", "z", 2⟩ := by
  intro byDocument byWorkspace
  have keeps : ∀ scope, KeepsScope scope burst := by
    intro scope settings mem
    simp [burst] at mem
  obtain ⟨ordered, each, -⟩ := delivered_of_run {} burst
  obtain ⟨-, -, only⟩ := delivered_of_run { scope := .workspace } burst
  obtain ⟨size, newest⟩ := only rfl (keeps _)
  exact ⟨rfl, rfl, ordered rfl "a", each rfl (keeps _) rfl "a", each rfl (keeps _) rfl "b", size,
    newest rfl⟩

end Pipeline

end LiveCheck
