import LiveCheck.Proofs.Server.Delivery
import Mathlib

/-!
When changes are delivered.

A run of the debouncer is observed as a log of what it receives and of what it delivers.
As long as the clock does not go back, and whatever is pushed and configured meanwhile, the
timer delivers a change only after the window that was in force when the change was received,
and only if nothing was received for its document since; and the deadlines of what is
delivered never go down, through to the last delivery (`punctual_run`).

Everything follows from three facts that each event keeps (`OnTime`): what is held back is
the last receipt of its document, what was delivered was due by now, and what is held back
is due no earlier than anything delivered.
-/

namespace LiveCheck

/-- A change as it was received: when, and under which window. -/
structure Receipt where
  change : Change
  now : Nat
  window : Nat
deriving DecidableEq, Repr, Inhabited

/-- What a received change is held back as. -/
def Receipt.pending (receipt : Receipt) : Pending :=
  ⟨receipt.change, receipt.now + receipt.window⟩

/-- What can be seen of a debouncer. -/
inductive Observation where
  /-- A change is received. -/
  | received (receipt : Receipt)
  /-- Changes are delivered together, by the timer at some time or by the end of the run. -/
  | delivered (timer : Option Nat) (batch : List Pending)
deriving DecidableEq, Repr, Inhabited

namespace Observation

/-- What is delivered. -/
def batch : Observation → List Pending
  | .received _ => []
  | .delivered _ batch => batch

/-- All that is delivered in a log, in order. -/
def deliveries (log : List Observation) : List Pending :=
  log.flatMap batch

/-- Nothing was received for the document of a receipt after it. -/
def LastReceived (log : List Observation) (receipt : Receipt) : Prop :=
  ∃ earlier later, log = earlier ++ .received receipt :: later ∧
    ∀ other, .received other ∈ later → other.change.uri ≠ receipt.change.uri

/-- Held back as the last receipt of its document. -/
def HeldSince (log : List Observation) (held : Pending) : Prop :=
  ∃ receipt, LastReceived log receipt ∧ held = receipt.pending

/-- Changes leave when their documents have been quiet, in the order of their deadlines. -/
structure Punctual (log : List Observation) : Prop where
  /-- What leaves is the last receipt of its document, and the timer does not let it leave
  before its deadline. -/
  quiet : ∀ before timer batch after, log = before ++ .delivered timer batch :: after →
    ∀ held ∈ batch, HeldSince before held ∧ ∀ now ∈ timer, held.deadline ≤ now
  /-- Nothing leaves after something with a later deadline. -/
  ascending : (deliveries log).Pairwise (·.deadline ≤ ·.deadline)
  /-- What leaves at once with one deadline leaves in the order of the documents. -/
  ties : ∀ timer batch, .delivered timer batch ∈ log →
    batch.Pairwise fun a b => a.deadline = b.deadline → a.change.uri < b.change.uri

variable {log more : List Observation} {receipt newer : Receipt} {held : Pending}
  {timer : Option Nat} {batch : List Pending}

theorem deliveries_append : deliveries (log ++ more) = deliveries log ++ deliveries more :=
  List.flatMap_append

theorem deliveries_received : deliveries [.received receipt] = [] := rfl

theorem deliveries_delivered : deliveries [.delivered timer batch] = batch :=
  List.append_nil batch

theorem lastReceived_received : LastReceived (log ++ [.received receipt]) receipt :=
  ⟨log, [], rfl, nofun⟩

theorem LastReceived.append (last : LastReceived log receipt)
    (quiet : ∀ other, .received other ∈ more → other.change.uri ≠ receipt.change.uri) :
    LastReceived (log ++ more) receipt := by
  obtain ⟨earlier, later, rfl, before⟩ := last
  refine ⟨earlier, later ++ more, by simp, ?_⟩
  intro other mem
  rcases List.mem_append.1 mem with mem | mem
  · exact before other mem
  · exact quiet other mem

theorem HeldSince.received (since : HeldSince log held)
    (other : newer.change.uri ≠ held.change.uri) : HeldSince (log ++ [.received newer]) held := by
  obtain ⟨receipt, last, rfl⟩ := since
  refine ⟨receipt, last.append ?_, rfl⟩
  intro receipt' mem
  cases List.mem_singleton.1 mem
  exact other

theorem HeldSince.delivered (since : HeldSince log held) :
    HeldSince (log ++ [.delivered timer batch]) held := by
  obtain ⟨receipt, last, rfl⟩ := since
  exact ⟨receipt, last.append (by simp), rfl⟩

theorem punctual_nil : Punctual [] where
  quiet := by simp
  ascending := List.Pairwise.nil
  ties := nofun

/-- Where a log is cut at one of its observations, this is the last one or an earlier one. -/
theorem eq_of_concat {before after : List Observation} {last observation : Observation}
    (cut : log ++ [last] = before ++ observation :: after) :
    (before = log ∧ observation = last) ∨
      ∃ rest, log = before ++ observation :: rest := by
  rcases List.eq_nil_or_concat after with rfl | ⟨rest, final, rfl⟩
  · obtain ⟨same, same'⟩ := List.append_inj' cut rfl
    exact Or.inl ⟨same.symm, (List.cons.inj same').1.symm⟩
  · rw [List.concat_eq_append, ← List.cons_append, ← List.append_assoc] at cut
    exact Or.inr ⟨rest, (List.append_inj' cut rfl).1⟩

theorem Punctual.received (punctual : Punctual log) : Punctual (log ++ [.received receipt]) where
  quiet before timer batch after cut := by
    rcases eq_of_concat cut with ⟨-, other⟩ | ⟨rest, earlier⟩
    · cases other
    · exact punctual.quiet before timer batch rest earlier
  ascending := by
    rw [deliveries_append, deliveries_received, List.append_nil]
    exact punctual.ascending
  ties timer batch mem := by
    rcases List.mem_append.1 mem with mem | mem
    · exact punctual.ties timer batch mem
    · cases List.mem_singleton.1 mem

/-- One more delivery is punctual if it is by itself and none before it had a later deadline. -/
theorem Punctual.delivered (punctual : Punctual log)
    (quiet : ∀ held ∈ batch, HeldSince log held ∧ ∀ now ∈ timer, held.deadline ≤ now)
    (ascending : batch.Pairwise (·.deadline ≤ ·.deadline))
    (ties : batch.Pairwise fun a b => a.deadline = b.deadline → a.change.uri < b.change.uri)
    (later : ∀ gone ∈ deliveries log, ∀ held ∈ batch, gone.deadline ≤ held.deadline) :
    Punctual (log ++ [.delivered timer batch]) where
  quiet before timer' batch' after cut := by
    rcases eq_of_concat cut with ⟨rfl, same⟩ | ⟨rest, earlier⟩
    · cases same
      exact quiet
    · exact punctual.quiet before timer' batch' rest earlier
  ascending := by
    rw [deliveries_append, deliveries_delivered, List.pairwise_append]
    exact ⟨punctual.ascending, ascending, later⟩
  ties timer' batch' mem := by
    rcases List.mem_append.1 mem with mem | mem
    · exact punctual.ties timer' batch' mem
    · cases List.mem_singleton.1 mem
      exact ties

end Observation

/-! ## The order of a delivery -/

/-- Sorting keeps the order of what it does not tell apart. -/
theorem pairwise_ties_mergeSort {α : Type*} {le : α → α → Bool}
    (trans : ∀ a b c, le a b → le b c → le a c) (total : ∀ a b, le a b || le b a)
    {before : α → α → Prop} {items : List α} (ordered : items.Pairwise before) :
    (items.mergeSort le).Pairwise fun a b => le b a → before a b := by
  induction items with
  | nil => simp
  | cons first rest ih =>
      obtain ⟨ahead, ordered⟩ := List.pairwise_cons.1 ordered
      obtain ⟨smaller, others, sorted, sortedRest, less⟩ :=
        List.mergeSort_cons trans total first rest
      have restMem : ∀ item ∈ others, item ∈ rest := by
        intro item mem
        rw [← (List.mergeSort_perm rest le).mem_iff, sortedRest]
        exact List.mem_append_right smaller mem
      have ih := ih ordered
      rw [sortedRest, List.pairwise_append] at ih
      obtain ⟨ihSmaller, ihOthers, ihAcross⟩ := ih
      rw [sorted, List.pairwise_append]
      refine ⟨ihSmaller, List.pairwise_cons.2 ⟨fun item mem _ => ahead item (restMem item mem),
        ihOthers⟩, ?_⟩
      intro item mem other mem'
      rcases List.mem_cons.1 mem' with rfl | mem'
      · intro tie
        have apart := less item mem
        rw [tie] at apart
        cases apart
      · exact ihAcross item mem other mem'

namespace Debouncer

/-- What is held back in the order in which it is delivered. -/
def heldInOrder (pending : Table Pending) : List Pending :=
  pending.values.mergeSort (fun a b => a.deadline ≤ b.deadline)

variable {pending : Table Pending} {held : Pending}

theorem inOrder_eq : inOrder pending = (heldInOrder pending).map (·.change) := rfl

theorem mem_heldInOrder :
    held ∈ heldInOrder pending ↔ ∃ uri, pending.get? uri = some held := by
  rw [heldInOrder, (List.mergeSort_perm _ _).mem_iff, Table.mem_values]

theorem mem_due {now : Nat} :
    held ∈ heldInOrder (pending.filter fun _ held => held.deadline ≤ now) ↔
      (∃ uri, pending.get? uri = some held) ∧ held.deadline ≤ now := by
  simp only [mem_heldInOrder, Table.get?_filter, Option.filter_eq_some_iff, decide_eq_true_eq,
    exists_and_right]

theorem get?_left {now : Nat} {uri : String} :
    (pending.filter fun _ held => now < held.deadline).get? uri = some held ↔
      pending.get? uri = some held ∧ now < held.deadline := by
  rw [Table.get?_filter, Option.filter_eq_some_iff, decide_eq_true_eq]

theorem ascending_heldInOrder : (heldInOrder pending).Pairwise (·.deadline ≤ ·.deadline) :=
  Table.pairwise_mergeSort Pending.deadline pending.values

theorem ties_heldInOrder (keyed : Keyed pending) :
    (heldInOrder pending).Pairwise fun a b =>
      a.deadline = b.deadline → a.change.uri < b.change.uri := by
  have byUri : pending.values.Pairwise fun a b => a.change.uri < b.change.uri := by
    rw [← List.pairwise_map (f := fun held : Pending => held.change.uri) (R := (· < ·)),
      uris_values keyed, Table.keys, List.pairwise_map]
    exact pending.ascending
  have ties := pairwise_ties_mergeSort (Table.le_key_trans Pending.deadline)
    (Table.le_key_total Pending.deadline) byUri
  exact ties.imp fun tie same => tie (decide_eq_true (Nat.le_of_eq same.symm))

end Debouncer

/-! ## Observing a run -/

/-- The time of an event, if it reads the clock. -/
def DebounceEvent.time? : DebounceEvent → Option Nat
  | .send _ => none
  | .receive now => some now
  | .fire now => some now

/-- The clock does not go back. -/
def DebounceEvent.Clocked (events : List DebounceEvent) : Prop :=
  (events.filterMap time?).Pairwise (· ≤ ·)

namespace Pipeline

open Observation (HeldSince Punctual deliveries punctual_nil deliveries_append
  deliveries_received deliveries_delivered lastReceived_received)
open Debouncer (Keyed heldInOrder inOrder_eq mem_heldInOrder mem_due get?_left
  ascending_heldInOrder ties_heldInOrder)

/-- What can be seen of an event. -/
def observe (pipeline : Pipeline) : DebounceEvent → List Observation
  | .send _ => []
  | .receive now =>
      match pipeline.inbox with
      | .change change :: _ => [.received ⟨change, now, pipeline.debouncer.settings.window⟩]
      | _ => []
  | .fire now =>
      let due := pipeline.debouncer.pending.filter fun _ held => held.deadline ≤ now
      [.delivered (some now) (heldInOrder due)]

/-- What can be seen of a run. -/
def log (pipeline : Pipeline) : List DebounceEvent → List Observation
  | [] => []
  | event :: rest => pipeline.observe event ++ (pipeline.step event).log rest

/-- What can be seen when everything held back is delivered. -/
def observeFlush (pipeline : Pipeline) : List Observation :=
  [.delivered none (heldInOrder pipeline.debouncer.pending)]

/-- The observed deliveries are what the queue gets. -/
theorem queue_step (pipeline : Pipeline) (event : DebounceEvent) :
    (pipeline.step event).queue =
      pipeline.queue ++ (deliveries (pipeline.observe event)).map (·.change) := by
  cases event with
  | send input => exact (List.append_nil _).symm
  | receive now =>
      show (pipeline.receive now).queue = _
      unfold receive observe
      rcases pipeline.inbox with _ | ⟨_ | _, rest⟩ <;> exact (List.append_nil _).symm
  | fire now =>
      rw [observe, deliveries_delivered, ← inOrder_eq]
      rfl

theorem queue_run (pipeline : Pipeline) (events : List DebounceEvent) :
    (pipeline.run events).queue =
      pipeline.queue ++ (deliveries (pipeline.log events)).map (·.change) := by
  induction events generalizing pipeline with
  | nil => exact (List.append_nil _).symm
  | cons event rest ih =>
      show ((pipeline.step event).run rest).queue = _
      rw [ih, queue_step, log, deliveries_append, List.map_append, List.append_assoc]

/-- What is held back and what was delivered, at some time of a run. -/
structure OnTime (log : List Observation) (clock : Nat) (pipeline : Pipeline) : Prop where
  keyed : Keyed pipeline.debouncer.pending
  punctual : Punctual log
  /-- What is held back is the last receipt of its document. -/
  since : ∀ uri held, pipeline.debouncer.pending.get? uri = some held → HeldSince log held
  /-- What was delivered is due by now. -/
  past : ∀ gone ∈ deliveries log, gone.deadline ≤ clock
  /-- What is held back is due no earlier than anything delivered. -/
  later : ∀ gone ∈ deliveries log, ∀ uri held,
    pipeline.debouncer.pending.get? uri = some held → gone.deadline ≤ held.deadline

variable {prior : List Observation} {clock now : Nat} {pipeline : Pipeline}
  {events : List DebounceEvent}

theorem onTime_start (settings : DebounceSettings) : OnTime [] 0 (start settings) where
  keyed := keyed_start settings
  punctual := punctual_nil
  since := nofun
  past := nofun
  later := nofun

theorem OnTime.wait (onTime : OnTime prior clock pipeline) (le : clock ≤ now) :
    OnTime prior now pipeline :=
  { onTime with past := fun gone mem => Nat.le_trans (onTime.past gone mem) le }

/-- A change that is received gets a deadline that no delivery has passed. -/
theorem OnTime.push (onTime : OnTime prior now pipeline) (change : Change)
    (rest : List DebounceInput) :
    OnTime (prior ++ [.received ⟨change, now, pipeline.debouncer.settings.window⟩]) now
      { pipeline with inbox := rest, debouncer := pipeline.debouncer.push now change } where
  keyed := Debouncer.keyed_push onTime.keyed now change
  punctual := onTime.punctual.received
  since uri held found := by
    simp only [Debouncer.push, Table.get?_insert] at found
    split at found
    · cases found
      exact ⟨_, lastReceived_received, rfl⟩
    · next other =>
      split at found
      · have own := onTime.keyed uri held found
        exact (onTime.since uri held found).received (own ▸ Ne.symm other)
      · cases found
  past gone mem := by
    rw [deliveries_append, deliveries_received, List.append_nil] at mem
    exact onTime.past gone mem
  later gone mem uri held found := by
    rw [deliveries_append, deliveries_received, List.append_nil] at mem
    simp only [Debouncer.push, Table.get?_insert] at found
    split at found
    · cases found
      exact Nat.le_trans (onTime.past gone mem) (Nat.le_add_right now _)
    · split at found
      · exact onTime.later gone mem uri held found
      · cases found

/-- What the timer delivers is due, and what it leaves is not. -/
theorem OnTime.fire (onTime : OnTime prior now pipeline) :
    OnTime (prior ++ pipeline.observe (.fire now)) now (pipeline.fire now) where
  keyed := Debouncer.keyed_filter onTime.keyed _
  punctual := by
    refine onTime.punctual.delivered ?_ ascending_heldInOrder
      (ties_heldInOrder (Debouncer.keyed_filter onTime.keyed _)) ?_
    · intro held mem
      obtain ⟨⟨uri, found⟩, due⟩ := mem_due.1 mem
      refine ⟨onTime.since uri held found, ?_⟩
      rintro _ ⟨⟩
      exact due
    · intro gone gone_mem held mem
      obtain ⟨⟨uri, found⟩, -⟩ := mem_due.1 mem
      exact onTime.later gone gone_mem uri held found
  since uri held found := (onTime.since uri held (get?_left.1 found).1).delivered
  past gone mem := by
    rw [observe, deliveries_append, deliveries_delivered] at mem
    rcases List.mem_append.1 mem with mem | mem
    · exact onTime.past gone mem
    · exact (mem_due.1 mem).2
  later gone mem uri held found := by
    obtain ⟨found, left⟩ := get?_left.1 found
    rw [observe, deliveries_append, deliveries_delivered] at mem
    rcases List.mem_append.1 mem with mem | mem
    · exact onTime.later gone mem uri held found
    · exact Nat.le_trans (mem_due.1 mem).2 (Nat.le_of_lt left)

/-- What an event at some time does, whether or not it reads the clock. -/
theorem OnTime.step (onTime : OnTime prior clock pipeline) {event : DebounceEvent}
    (later : ∀ now ∈ event.time?, clock ≤ now) :
    OnTime (prior ++ pipeline.observe event) (event.time?.getD clock) (pipeline.step event) := by
  cases event with
  | send input =>
      rw [observe, List.append_nil]
      exact { onTime with }
  | fire now => exact (onTime.wait (later now rfl)).fire
  | receive now =>
      have onTime := onTime.wait (later now rfl)
      show OnTime _ now (pipeline.receive now)
      unfold receive observe
      rcases inbox : pipeline.inbox with _ | ⟨change | settings, rest⟩
      · rw [List.append_nil]
        exact onTime
      · exact onTime.push change rest
      · rw [List.append_nil]
        exact { onTime with }

theorem OnTime.run (onTime : OnTime prior clock pipeline)
    (clocked : DebounceEvent.Clocked events)
    (later : ∀ event ∈ events, ∀ now ∈ event.time?, clock ≤ now) :
    ∃ last, OnTime (prior ++ pipeline.log events) last (pipeline.run events) := by
  induction events generalizing prior clock pipeline with
  | nil =>
      rw [log, List.append_nil]
      exact ⟨clock, onTime⟩
  | cons event rest ih =>
      have onTime := onTime.step (later event List.mem_cons_self)
      rw [log, ← List.append_assoc]
      apply ih onTime
      · exact clocked.sublist ((List.sublist_cons_self event rest).filterMap _)
      · intro other mem now at_now
        cases time : event.time? with
        | none => exact later other (List.mem_cons_of_mem _ mem) now at_now
        | some first =>
            rw [DebounceEvent.Clocked, List.filterMap_cons_some time, List.pairwise_cons] at clocked
            exact clocked.1 now (List.mem_filterMap.2 ⟨other, mem, at_now⟩)

/-- At any time all that is held back may be delivered. -/
theorem OnTime.flush (onTime : OnTime prior clock pipeline) :
    Punctual (prior ++ pipeline.observeFlush) := by
  refine onTime.punctual.delivered ?_ ascending_heldInOrder (ties_heldInOrder onTime.keyed) ?_
  · intro held mem
    obtain ⟨uri, found⟩ := mem_heldInOrder.1 mem
    exact ⟨onTime.since uri held found, nofun⟩
  · intro gone gone_mem held mem
    obtain ⟨uri, found⟩ := mem_heldInOrder.1 mem
    exact onTime.later gone gone_mem uri held found

/-- Over a run in which the clock does not go back, whether or not it ends by delivering all
that is held back, changes are delivered when their documents have been quiet and in the order
of their deadlines. What is held back keeps the deadline from its receipt; new settings change
nothing about it. -/
theorem punctual_run (settings : DebounceSettings) (events : List DebounceEvent)
    (clocked : DebounceEvent.Clocked events) :
    let log := (start settings).log events
    let last := (start settings).run events
    last.queue = (deliveries log).map (·.change) ∧
      last.flush.queue = (deliveries (log ++ last.observeFlush)).map (·.change) ∧
      Punctual log ∧ Punctual (log ++ last.observeFlush) ∧
      (∀ uri held, last.debouncer.pending.get? uri = some held → HeldSince log held) ∧
      ∀ later rest now, last.inbox = .configure later :: rest →
        (last.receive now).debouncer.pending = last.debouncer.pending := by
  intro log last
  obtain ⟨clock, onTime⟩ :=
    (onTime_start settings).run clocked fun _ _ now _ => Nat.zero_le now
  have queued : last.queue = (deliveries log).map (·.change) := queue_run (start settings) events
  refine ⟨queued, ?_, onTime.punctual, onTime.flush, onTime.since, ?_⟩
  · rw [flush, queued, deliveries_append, List.map_append, observeFlush, deliveries_delivered,
      ← inOrder_eq]
    rfl
  · intro later rest now inbox
    rw [receive, inbox]
    rfl

/-- The window shrinks between two changes; of two later ones with one deadline the timer
delivers neither. -/
def overtaking : List DebounceEvent :=
  [.send (.change ⟨"b", "x", 1⟩), .receive 0, .send (.configure { window := 10 }), .receive 5,
    .send (.change ⟨"a", "y", 1⟩), .receive 20, .fire 30, .send (.change ⟨"a", "z", 2⟩),
    .receive 140, .fire 145]

/-- The change that came second is delivered first, and the two that are left in the order of
their documents. -/
theorem punctual_overtaking :
    let log := (start {}).log overtaking
    let last := (start {}).run overtaking
    DebounceEvent.Clocked overtaking ∧ Punctual (log ++ last.observeFlush) ∧
      log = [.received ⟨⟨"b", "x", 1⟩, 0, 150⟩, .received ⟨⟨"a", "y", 1⟩, 20, 10⟩,
        .delivered (some 30) [⟨⟨"a", "y", 1⟩, 30⟩], .received ⟨⟨"a", "z", 2⟩, 140, 10⟩,
        .delivered (some 145) []] ∧
      last.observeFlush = [.delivered none [⟨⟨"a", "z", 2⟩, 150⟩, ⟨⟨"b", "x", 1⟩, 150⟩]] := by
  intro log last
  have clocked : DebounceEvent.Clocked overtaking := by
    unfold DebounceEvent.Clocked
    decide
  obtain ⟨-, -, -, punctual, -⟩ := punctual_run {} overtaking clocked
  refine ⟨clocked, punctual, ?_, ?_⟩
  · show (start {}).log overtaking = _
    cbv
  · show ((start {}).run overtaking).observeFlush = _
    cbv

end Pipeline

end LiveCheck
