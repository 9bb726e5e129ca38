import LiveCheck.Server.Settings

/-!
The command line.

An option's value follows it as the next argument or after an equals sign. An
option waits for its value until the next option comes or the arguments end; only
then is the value looked at, so an argument that nobody knows is reported before a
bad value in front of it.
-/

namespace LiveCheck

/-- Options that take a value. -/
inductive ValueOption where
  | debounce
  | scope
  | extension
  | ignored
  | logFilter
deriving DecidableEq, Repr, Inhabited

/-- Options without a value. -/
inductive FlagOption where
  | stdio
  | help
  | version
deriving DecidableEq, Repr, Inhabited

/-- Why a command line is not carried out. -/
inductive UsageError where
  | unknownArgument
  /-- An option lacks its value. -/
  | missingValue
  /-- A value that the option does not take. -/
  | badValue
  /-- An option that may be given once is given twice. -/
  | repeated
  /-- A value for an option that takes none. -/
  | unneededValue
  | helpAsked
  | versionAsked
deriving DecidableEq, Repr, Inhabited

/-- The text of a refusal. -/
def UsageError.message : UsageError → String
  | .unknownArgument => "unexpected argument"
  | .missingValue => "an option lacks its value"
  | .badValue => "invalid value for an option"
  | .repeated => "an option is given more than once"
  | .unneededValue => "unexpected value for an option"
  | .helpAsked => "help is asked for"
  | .versionAsked => "the version is asked for"

/-- What the arguments ask for. -/
structure Invocation where
  debounce : Option Nat := none
  scope : Option DebounceScope := none
  extensions : List String := []
  ignored : List String := []
  logFilter : Option String := none
  stdio : Bool := false
deriving DecidableEq, Repr, Inhabited

namespace Invocation

/-- The settings asked for. Without any extension or ignored directory the default
ones count. -/
def settings (invocation : Invocation) : Except SettingsError Settings := do
  let default : Settings := {}
  let debounce ← checkDebounce (invocation.debounce.getD default.debounce)
  return {
    debounce
    scope := invocation.scope.getD default.scope
    extensions :=
      if invocation.extensions.isEmpty then default.extensions else invocation.extensions
    ignored := if invocation.ignored.isEmpty then default.ignored else invocation.ignored }

/-- Read a number of at most 64 bits in base ten. A plus sign may stand in front. -/
def number? (text : String) : Option Nat :=
  let digits := match text.toList with
    | '+' :: digits => digits
    | digits => digits
  if digits.isEmpty || !digits.all Char.isDigit then none
  else
    let value := digits.foldl (fun value c => value * 10 + (c.toNat - 48)) 0
    if value < UInt64.size then some value else none

/-- Take the value of an option. -/
def assign (invocation : Invocation) (option : ValueOption) (value : String) :
    Except UsageError Invocation :=
  match option with
  | .debounce =>
    if invocation.debounce.isSome then .error .repeated
    else
      match number? value with
      | some milliseconds => .ok { invocation with debounce := some milliseconds }
      | none => .error .badValue
  | .scope =>
    if invocation.scope.isSome then .error .repeated
    else
      match DebounceScope.ofName? value with
      | some scope => .ok { invocation with scope := some scope }
      | none => .error .badValue
  | .extension => .ok { invocation with extensions := invocation.extensions ++ [value] }
  | .ignored => .ok { invocation with ignored := invocation.ignored ++ [value] }
  | .logFilter =>
    if invocation.logFilter.isSome then .error .repeated
    else .ok { invocation with logFilter := some value }

/-- Take an option without a value. -/
def raise (invocation : Invocation) : FlagOption → Except UsageError Invocation
  | .stdio => if invocation.stdio then .error .repeated else .ok { invocation with stdio := true }
  | .help => .error .helpAsked
  | .version => .error .versionAsked

end Invocation

namespace CommandLine

/-- An option that is not settled yet. -/
inductive Open where
  | none
  /-- The option waits for its value. -/
  | waiting (option : ValueOption)
  /-- The option has its value, which has not been looked at. -/
  | filled (option : ValueOption) (value : String)
deriving DecidableEq, Repr, Inhabited

/-- The arguments read so far. After a bare `--` nothing is read as an option. -/
structure State where
  invocation : Invocation := {}
  pending : Open := .none
  optionsEnded : Bool := false
deriving DecidableEq, Repr, Inhabited

/-- Settle the open option. -/
def State.settle (state : State) : Except UsageError Invocation :=
  match state.pending with
  | .none => .ok state.invocation
  | .waiting _ => .error .missingValue
  | .filled option value => state.invocation.assign option value

/-- An option by what may follow it. -/
inductive Switch where
  | value (option : ValueOption)
  | flag (option : FlagOption)

/-- The option with a long name. -/
def long? : String → Option Switch
  | "debounce-ms" => some (.value .debounce)
  | "debounce-scope" => some (.value .scope)
  | "extension" => some (.value .extension)
  | "ignore-dir" => some (.value .ignored)
  | "log-filter" => some (.value .logFilter)
  | "stdio" => some (.flag .stdio)
  | "help" => some (.flag .help)
  | "version" => some (.flag .version)
  | _ => none

/-- The option with a one-letter name. -/
def short? : Char → Option FlagOption
  | 'h' => some .help
  | 'V' => some .version
  | _ => none

/-- The name of a long option and the value after an equals sign. -/
def splitValue (argument : List Char) : String × Option String :=
  let name := argument.takeWhile (· != '=')
  (String.ofList name,
    match argument.drop name.length with
    | [] => none
    | _ :: value => some (String.ofList value))

/-- Read a long option. -/
def readLong (state : State) (name : String) (value : Option String) :
    Except UsageError State :=
  match long? name, value with
  | none, _ => .error .unknownArgument
  | some (.flag _), some _ => .error .unneededValue
  | some (.flag flag), none => do
    let invocation ← state.settle
    return { state with invocation := ← invocation.raise flag, pending := .none }
  | some (.value option), some value => do
    let invocation ← state.settle
    return { state with invocation := ← invocation.assign option value, pending := .none }
  | some (.value option), none => do
    return { state with invocation := ← state.settle, pending := .waiting option }

/-- Read a one-letter option. -/
def readShort (state : State) (letter : Char) : Except UsageError State :=
  match short? letter with
  | none => .error .unknownArgument
  | some flag => do
    let invocation ← state.settle
    return { state with invocation := ← invocation.raise flag, pending := .none }

/-- Read an argument that is no option: the value of an option that waits for one. -/
def readValue (state : State) (value : String) : Except UsageError State :=
  match state.pending with
  | .waiting option => .ok { state with pending := .filled option value }
  | _ => .error .unknownArgument

/-- Read one argument. -/
def read (state : State) (argument : String) : Except UsageError State :=
  if state.optionsEnded then .error .unknownArgument
  else
    match argument.toList with
    | ['-', '-'] => .ok { state with optionsEnded := true }
    | '-' :: '-' :: rest =>
      let (name, value) := splitValue rest
      readLong state name value
    | '-' :: letter :: _ => readShort state letter
    | _ => readValue state argument

/-- What is shown when help is asked for. -/
def help : String :=
  "Formality language server\n\n" ++
  "Usage: fm-lsp [OPTIONS]\n\n" ++
  "Options:\n" ++
  "  --debounce-ms <MS>        Quiet time before an edit is analyzed\n" ++
  "  --debounce-scope <SCOPE>  Debounce per file or across the whole workspace\n" ++
  "  --extension <EXT>         Source file extension, repeatable\n" ++
  "  --ignore-dir <NAME>       Directory name to skip, repeatable\n" ++
  "  --log-filter <FILTER>     Log filter\n" ++
  "  -h, --help                Print help\n" ++
  "  -V, --version             Print version\n"

/-- Read the arguments of a command line. -/
def parse (arguments : List String) : Except UsageError Invocation := do
  (← arguments.foldlM read {}).settle

end CommandLine

end LiveCheck
