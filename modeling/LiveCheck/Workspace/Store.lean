import LiveCheck.Workspace.Definition

/-!
The definitions of all files and the global table made from them.

The store keeps what each file contributed at its last successful parse, stamped
with the time of that parse. When two files define one name the newest parse wins.
The loser is not forgotten: once the winner drops the name, the newest of the
remaining definitions is reinstated.
-/

namespace LiveCheck

/-- What a file contributes: its definitions and the time of the parse. -/
structure Contribution (δ : Type) where
  definitions : Table δ
  stamp : Nat

/-- Contributions of files, the global table, the files ever parsed and the time. -/
structure Store (δ : Type) where
  files : Table (Contribution δ)
  globals : Table δ
  known : NameSet
  clock : Nat

/-- The names that a parse affected. -/
structure Affected where
  /-- The names the file defines now. -/
  added : NameSet
  /-- The names the file defined before and no longer does. -/
  removed : NameSet
  /-- The names taken over from another file. -/
  overridden : NameSet

/-- Every name whose global definition may have changed. -/
def Affected.names (affected : Affected) : NameSet :=
  affected.added.union affected.removed

/-- A file left out of a rebuild, since `name` belongs to `owner` already. -/
structure NameClash where
  file : String
  name : String
  owner : String
deriving DecidableEq, Repr, Inhabited

/-- The text of a clash. -/
def NameClash.message (clash : NameClash) : String :=
  clash.file ++ ": `" ++ clash.name ++ "` is already defined in " ++ clash.owner

namespace Store

variable {δ : Type} [Definition δ]

/-- No files. -/
def empty : Store δ := ⟨.empty, .empty, .empty, 0⟩

/-- What a file contributed at its last successful parse. -/
def fileDefinitions? (store : Store δ) (uri : String) : Option (Table δ) :=
  (store.files.get? uri).map (·.definitions)

/-- The newer of a stamped definition of `name` and the one a contribution has. -/
def newer (name : String) (best : Option (Nat × δ)) (contribution : Contribution δ) :
    Option (Nat × δ) :=
  match contribution.definitions.get? name with
  | none => best
  | some definition =>
    match best with
    | none => some (contribution.stamp, definition)
    | some (stamp, held) =>
      if stamp ≤ contribution.stamp then some (contribution.stamp, definition)
      else some (stamp, held)

/-- The definition of `name` in the contribution with the latest stamp. -/
def newest? (files : Table (Contribution δ)) (name : String) : Option δ :=
  (files.values.foldl (newer name) none).map (·.2)

/-- Take `name` back from `uri`, if it holds it, and reinstate the newest
definition among `files`. -/
def withdraw (files : Table (Contribution δ)) (uri : String) (globals : Table δ) (name : String) :
    Table δ :=
  if owner? globals name = some uri then
    match newest? files name with
    | none => globals.erase name
    | some definition => globals.insert name definition
  else globals

/-- Give every name of a table its definition there. -/
def takeOver (globals definitions : Table δ) : Table δ :=
  definitions.entries.foldl (fun globals (name, definition) => globals.insert name definition)
    globals

/-- Replace what `uri` contributes. Its old names are withdrawn before its new
ones take over. -/
def record (store : Store δ) (uri : String) (definitions : Table δ) : Affected × Store δ :=
  let old := ((store.fileDefinitions? uri).getD .empty).keys
  let files := store.files.erase uri
  let globals := old.foldl (withdraw files uri) store.globals
  let overridden := definitions.keys.filter fun name =>
    (owner? globals name).any (· != uri)
  let affected := {
    added := .ofList definitions.keys
    removed := .ofList (old.filter fun name => !definitions.contains name)
    overridden := .ofList overridden }
  (affected, {
    files := files.insert uri ⟨definitions, store.clock + 1⟩
    globals := takeOver globals definitions
    known := store.known.add uri
    clock := store.clock + 1 })

/-- The first name of a file that is taken, with its owner. -/
def clash? (globals definitions : Table δ) : Option (String × String) :=
  definitions.keys.findSome? fun name => (owner? globals name).map (name, ·)

/-- Merge one file into a rebuild, unless one of its names is taken. -/
def accept (state : List NameClash × Store δ) (file : String × Table δ) :
    List NameClash × Store δ :=
  let (clashes, store) := state
  let (uri, definitions) := file
  let known := store.known.add uri
  match clash? store.globals definitions with
  | some (name, owner) => (clashes ++ [⟨uri, name, owner⟩], { store with known })
  | none =>
    (clashes, {
      files := store.files.insert uri ⟨definitions, store.clock + 1⟩
      globals := takeOver store.globals definitions
      known
      clock := store.clock + 1 })

/-- Rebuild the global table from the given files alone, in ascending order of
their addresses. A file with a name that is taken already is left out whole. -/
def rebuild (store : Store δ) (files : List (String × Table δ)) :
    List NameClash × Store δ :=
  (files.mergeSort (fun a b => a.1 ≤ b.1)).foldl accept
    ([], { store with files := .empty, globals := .empty })

/-- Every definition that another file's definition hides, with the file that
holds its name. -/
def hidden (store : Store δ) : List (δ × String) :=
  store.files.values.flatMap fun contribution =>
    contribution.definitions.values.filterMap fun definition =>
      match owner? store.globals (Definition.name definition) with
      | some owner => if owner = Definition.file definition then none else some (definition, owner)
      | none => none

/-- The global names outside `uri` whose definitions mention one of `names`. -/
def mentioning (store : Store δ) (names : NameSet) (uri : String) : List String :=
  (store.globals.entries.filter fun (_, definition) =>
    Definition.file definition != uri &&
      (Definition.references definition).any names.contains).map (·.1)

/-- The global names that one of `files` holds. -/
def namesIn (store : Store δ) (files : NameSet) : List String :=
  (store.globals.entries.filter fun (_, definition) =>
    files.contains (Definition.file definition)).map (·.1)

end Store

end LiveCheck
