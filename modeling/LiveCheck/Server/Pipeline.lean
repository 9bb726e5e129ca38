import LiveCheck.Workspace.Debouncer
import LiveCheck.Server.Workspace

/-!
The way of a change from the editor to the analysis.

A change is put into the inbox of the debouncer, which receives it, holds it back
and delivers it to a queue, from which the analysis takes batches. The three places
are kept apart, since the steps between them may happen in any order.
-/

namespace LiveCheck

/-- What is sent to the debouncer. -/
inductive DebounceInput where
  | change (change : Change)
  | configure (settings : DebounceSettings)
deriving DecidableEq, Repr, Inhabited

/-- Changes on their way. -/
structure Pipeline where
  /-- What the debouncer has not received yet, oldest first. -/
  inbox : List DebounceInput
  debouncer : Debouncer
  /-- What the analysis has not taken yet, oldest first. -/
  queue : List Change

namespace Pipeline

/-- Nothing is on its way. -/
def start (settings : DebounceSettings) : Pipeline := ⟨[], .start settings, []⟩

/-- Send something to the debouncer. -/
def send (pipeline : Pipeline) (input : DebounceInput) : Pipeline :=
  { pipeline with inbox := pipeline.inbox ++ [input] }

/-- What the debouncer does with something sent to it. -/
def handle (debouncer : Debouncer) (now : Nat) : DebounceInput → Debouncer
  | .change change => debouncer.push now change
  | .configure settings => debouncer.configure settings

/-- The debouncer receives the oldest thing sent to it. -/
def receive (pipeline : Pipeline) (now : Nat) : Pipeline :=
  match pipeline.inbox with
  | [] => pipeline
  | input :: inbox => { pipeline with inbox, debouncer := handle pipeline.debouncer now input }

/-- The debouncer receives all that was sent to it. -/
def receiveAll (pipeline : Pipeline) (now : Nat) : Pipeline :=
  { pipeline with
    inbox := []
    debouncer := pipeline.inbox.foldl (handle · now) pipeline.debouncer }

/-- The timer of the debouncer fires. -/
def fire (pipeline : Pipeline) (now : Nat) : Pipeline :=
  let (due, debouncer) := pipeline.debouncer.fire now
  { pipeline with debouncer, queue := pipeline.queue ++ due }

/-- The debouncer delivers all it holds back. -/
def flush (pipeline : Pipeline) : Pipeline :=
  { pipeline with
    debouncer := { pipeline.debouncer with pending := .empty }
    queue := pipeline.queue ++ pipeline.debouncer.flush }

/-- The analysis takes everything in the queue. -/
def takeBatch (pipeline : Pipeline) : List Change × Pipeline :=
  (Workspace.latestChanges pipeline.queue, { pipeline with queue := [] })

end Pipeline

end LiveCheck
