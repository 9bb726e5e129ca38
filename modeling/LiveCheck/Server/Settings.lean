import LiveCheck.Files.SourceFilter
import LiveCheck.Json
import LiveCheck.Workspace.Debouncer

/-!
Settings of a server and the overrides an editor may send.

Overrides are decoded as a whole before any of them is applied. They come as an
object with some of the fields, or as an array with the fields in order.
-/

namespace LiveCheck

/-- Settings of one server. -/
structure Settings where
  /-- How long a document has to be quiet, in milliseconds. -/
  debounce : Nat := 150
  scope : DebounceScope := .perFile
  /-- Extensions of source files, without the dot. -/
  extensions : List String := ["fm"]
  /-- Names of directories to pass over. Hidden ones always are. -/
  ignored : List String := ["target", "node_modules"]
deriving DecidableEq, Repr, Inhabited

/-- Why settings are refused. -/
inductive SettingsError where
  /-- The overrides do not have the form of overrides. -/
  | malformed
  | unknownScope (name : String)
  | debounceTooLong (milliseconds : Nat)
  | noExtensions
deriving DecidableEq, Repr, Inhabited

/-- The text of a refusal. -/
def SettingsError.message : SettingsError → String
  | .malformed => "invalid initialization options"
  | .unknownScope name => DebounceScope.unknownMessage name
  | .debounceTooLong milliseconds =>
    "debounce window of " ++ toString milliseconds ++ " ms is longer than the 10000 ms maximum"
  | .noExtensions => "at least one source file extension is required"

/-- The longest time that changes may be held back, in milliseconds. -/
def maxDebounce : Nat := 10000

/-- A time to hold changes back, unless it is too long. -/
def checkDebounce (milliseconds : Nat) : Except SettingsError Nat :=
  if maxDebounce < milliseconds then .error (.debounceTooLong milliseconds) else .ok milliseconds

/-- Settings that replace the current ones where they are given. -/
structure Overrides where
  debounce : Option Nat := none
  scope : Option String := none
  extensions : Option (List String) := none
  ignored : Option (List String) := none
deriving DecidableEq, Repr, Inhabited

namespace Overrides

/-- Decode a field that may be absent or null. -/
def optional (decode : Json → Option α) : Option Json → Except SettingsError (Option α)
  | none => .ok none
  | some .null => .ok none
  | some json =>
    match decode json with
    | some value => .ok (some value)
    | none => .error .malformed

/-- An integer of at most 64 bits, not negative. -/
def word? (json : Json) : Option Nat := do
  let value ← json.toInt?
  if 0 ≤ value ∧ value.toNat < UInt64.size then some value.toNat else none

/-- A list of texts. -/
def texts? (json : Json) : Option (List String) := do
  (← json.toItems?).mapM Json.toText?

/-- Decode the four fields. -/
def ofFields (debounce scope extensions ignored : Option Json) :
    Except SettingsError Overrides := do
  return {
    debounce := ← optional word? debounce
    scope := ← optional Json.toText? scope
    extensions := ← optional texts? extensions
    ignored := ← optional texts? ignored }

/-- Decode overrides. Fields that are unknown do not matter. -/
def ofJson : Json → Except SettingsError Overrides
  | .null => .ok {}
  | .object fields =>
    let field := (Json.object fields).field?
    ofFields (field "debounceMs") (field "debounceScope") (field "extensions") (field "ignoreDirs")
  | .array items =>
    if 4 < items.length then .error .malformed
    else ofFields items[0]? items[1]? items[2]? items[3]?
  | _ => .error .malformed

end Overrides

namespace Settings

/-- How changes are held back. -/
def debounceSettings (settings : Settings) : DebounceSettings :=
  ⟨settings.debounce, settings.scope⟩

/-- Which files are source files. -/
def sourceFilter (settings : Settings) : SourceFilter :=
  ⟨settings.extensions, settings.ignored⟩

/-- Replace what the overrides give. The first one that is refused decides. -/
def apply (settings : Settings) (overrides : Overrides) : Except SettingsError Settings := do
  let debounce ← match overrides.debounce with
    | none => .ok settings.debounce
    | some milliseconds => checkDebounce milliseconds
  let scope ← match overrides.scope with
    | none => .ok settings.scope
    | some name =>
      match DebounceScope.ofName? name with
      | some scope => .ok scope
      | none => .error (.unknownScope name)
  let extensions ← match overrides.extensions with
    | none => .ok settings.extensions
    | some [] => .error .noExtensions
    | some extensions => .ok extensions
  return { debounce, scope, extensions, ignored := overrides.ignored.getD settings.ignored }

/-- Decode overrides and apply them. Absent overrides change nothing. -/
def override (settings : Settings) (options : Option Json) : Except SettingsError Settings := do
  settings.apply (← match options with
    | none => .ok {}
    | some json => Overrides.ofJson json)

end Settings

end LiveCheck
