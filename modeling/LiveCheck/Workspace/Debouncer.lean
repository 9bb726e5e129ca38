import LiveCheck.Table

/-!
Holding back changes until a document is quiet.

A change is delivered once no other change for its key has come for the length of
the window; of several changes for one key only the latest is kept. The key is the
document, or one key stands for the whole workspace. Time is an argument of each
operation, and a change keeps the deadline it got when it came, even if the
settings change meanwhile.
-/

namespace LiveCheck

/-- The whole text of a document after an edit. -/
structure Change where
  uri : String
  text : String
  version : Int
deriving DecidableEq, Repr, Inhabited

/-- Which changes supersede each other. -/
inductive DebounceScope where
  /-- Changes of one document. -/
  | perFile
  /-- All changes. -/
  | workspace
deriving DecidableEq, Repr, Inhabited

namespace DebounceScope

/-- The name of a scope in settings. -/
def describe : DebounceScope → String
  | .perFile => "file"
  | .workspace => "workspace"

/-- The scope that a name in settings stands for. -/
def ofName? : String → Option DebounceScope
  | "file" => some .perFile
  | "per-file" => some .perFile
  | "workspace" => some .workspace
  | _ => none

/-- The text of the refusal of a name that stands for no scope. -/
def unknownMessage (name : String) : String :=
  "unknown debounce scope `" ++ name ++ "`, expected `file` or `workspace`"

end DebounceScope

/-- How long to hold changes back, in milliseconds, and which supersede each other. -/
structure DebounceSettings where
  window : Nat := 150
  scope : DebounceScope := .perFile
deriving DecidableEq, Repr, Inhabited

/-- A change that is held back until its deadline. -/
structure Pending where
  change : Change
  deadline : Nat
deriving DecidableEq, Repr, Inhabited

/-- The settings in force and the changes held back, by document. -/
structure Debouncer where
  settings : DebounceSettings
  pending : Table Pending

namespace Debouncer

/-- Nothing is held back. -/
def start (settings : DebounceSettings) : Debouncer := ⟨settings, .empty⟩

/-- A change comes at time `now`. It replaces what it supersedes. -/
def push (debouncer : Debouncer) (now : Nat) (change : Change) : Debouncer :=
  let kept := match debouncer.settings.scope with
    | .perFile => debouncer.pending
    | .workspace => .empty
  { debouncer with
    pending := kept.insert change.uri ⟨change, now + debouncer.settings.window⟩ }

/-- The settings are replaced. -/
def configure (debouncer : Debouncer) (settings : DebounceSettings) : Debouncer :=
  { debouncer with settings }

/-- Changes in the order of their deadlines, equal deadlines in the order of the
documents. -/
def inOrder (pending : Table Pending) : List Change :=
  (pending.values.mergeSort (fun a b => a.deadline ≤ b.deadline)).map (·.change)

/-- The timer fires at time `now`: every change whose deadline has come is delivered. -/
def fire (debouncer : Debouncer) (now : Nat) : List Change × Debouncer :=
  (inOrder (debouncer.pending.filter fun _ pending => pending.deadline ≤ now),
    { debouncer with pending := debouncer.pending.filter fun _ pending => now < pending.deadline })

/-- Everything held back is delivered at once. -/
def flush (debouncer : Debouncer) : List Change :=
  inOrder debouncer.pending

end Debouncer

/-- A debouncer at work between those who push changes and the one who receives
them. It stops when it has something to deliver and nobody receives it. -/
structure DebounceTask where
  /-- The debouncer, unless it has stopped. -/
  running : Option Debouncer
  /-- Whether somebody receives what is delivered. -/
  received : Bool

namespace DebounceTask

/-- Start working. -/
def start (settings : DebounceSettings) : DebounceTask :=
  ⟨some (.start settings), true⟩

/-- The text of the refusal to push to a debouncer that has stopped. -/
def closedMessage : String := "debouncer has shut down"

/-- Push a change, unless the debouncer has stopped. -/
def push? (task : DebounceTask) (now : Nat) (change : Change) : Option DebounceTask :=
  task.running.map fun debouncer => { task with running := some (debouncer.push now change) }

/-- Replace the settings, unless the debouncer has stopped. -/
def configure? (task : DebounceTask) (settings : DebounceSettings) : Option DebounceTask :=
  task.running.map fun debouncer => { task with running := some (debouncer.configure settings) }

/-- Deliver what is due. -/
def fire (task : DebounceTask) (now : Nat) : List Change × DebounceTask :=
  match task.running with
  | none => ([], task)
  | some debouncer =>
    let (due, rest) := debouncer.fire now
    if task.received then (due, { task with running := some rest })
    else ([], { task with running := if due.isEmpty then some rest else none })

/-- Nobody receives any more. -/
def hangUp (task : DebounceTask) : DebounceTask :=
  { task with received := false }

/-- Stop, and deliver all that is held back. -/
def shutdown (task : DebounceTask) : List Change × DebounceTask :=
  let rest := (task.running.map Debouncer.flush).getD []
  (if task.received then rest else [], { task with running := none })

end DebounceTask

end LiveCheck
