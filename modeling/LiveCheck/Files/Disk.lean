import LiveCheck.Files.Access
import LiveCheck.Files.Node

/-!
A file system.

A path is followed name by name from the root, through the links that it meets. It
leads to a node, or to a free name in a directory, or nowhere.
-/

namespace LiveCheck

/-- A file system, by its root directory. -/
structure Disk where
  root : Node

/-- Why a path leads nowhere. -/
inductive LookupError where
  | missing
  /-- The path goes through something that is no directory or through too many links,
  or it is too long, or has a name that is. -/
  | blocked
deriving DecidableEq, Repr, Inhabited

/-- Where a path leads. The trail of a node is its names from the root, last first. -/
inductive Spot where
  | taken (trail : List FileName) (node : Node)
  /-- A name that the directory at a trail does not have. -/
  | free (trail : List FileName) (name : FileName)

namespace Disk

/-- An empty file system. -/
def empty : Disk := ⟨.directory []⟩

/-- The number of links that a path may lead through. -/
def maxLinks : Nat := 40

/-- The number of bytes that a name may have. -/
def maxName : Nat := 255

/-- The number of bytes that a path may have. -/
def maxPath : Nat := 4095

/-- Whether a path is short enough to be looked up. -/
def fits (path : FilePath) : Bool :=
  path.bytes.length ≤ maxPath

/-- Whether a path can be looked up: it is not too long and has no zero in it. -/
def isNameable (path : FilePath) : Bool :=
  fits path && !path.bytes.contains 0

/-! ## Following a path -/

/-- Follow the pieces of a path from the directory `here`, whose own names are
`trail`, last first. Links are answered by `jump`. -/
def walk (disk : Disk)
    (jump : (target : FilePath) → (rest : List FileName) → Except LookupError Spot)
    (trail : List FileName) : (here : Node) → List FileName → Except LookupError Spot
  | here, [] => .ok (.taken trail here)
  | here, piece :: rest =>
    match here with
    | .directory entries =>
      if piece.bytes = [] ∨ piece = .here then disk.walk jump trail here rest
      else if piece = .up then
        let trail := trail.drop 1
        match disk.root.descend? trail.reverse with
        | some parent => disk.walk jump trail parent rest
        | none => .error .missing
      else if maxName < piece.bytes.length then .error .blocked
      else
        match entries.lookup piece with
        | none => if rest.isEmpty then .ok (.free trail piece) else .error .missing
        | some (.link target) => jump target rest
        | some child => disk.walk jump (piece :: trail) child rest
    | _ => .error .blocked

/-- Follow the pieces of an absolute path, through fewer than `links` links. -/
def follow (disk : Disk) : (links : Nat) → List FileName → Except LookupError Spot
  | 0, _ => .error .blocked
  | links + 1, pieces =>
    disk.walk (fun target rest => disk.follow links (target.pieces ++ rest)) [] disk.root pieces

/-- Where some pieces lead from the root. -/
def spotOf (disk : Disk) (pieces : List FileName) : Except LookupError Spot :=
  disk.follow (maxLinks + 1) pieces

/-- Where an absolute path leads. -/
def resolve (disk : Disk) (path : FilePath) : Except LookupError Spot :=
  if !isNameable path then .error .blocked
  else if path.isAbsolute then disk.spotOf path.pieces
  else .error .missing

/-- The node that an absolute path leads to. -/
def find (disk : Disk) (path : FilePath) : Except LookupError Node :=
  match disk.resolve path with
  | .ok (.taken _ node) => .ok node
  | .ok (.free _ _) => .error .missing
  | .error error => .error error

/-! ## Changes

What cannot be done leaves a disk as it is. -/

/-- Put a node into the directory at a trail, in place of what has the name there. -/
def insert (disk : Disk) (trail : List FileName) (name : FileName) (node : Node) : Disk :=
  ⟨disk.root.changeEntries (fun entries => (name, node) :: entries.filter (·.1 != name))
    trail.reverse⟩

/-- Take a name from the directory at a trail. -/
def erase (disk : Disk) (trail : List FileName) (name : FileName) : Disk :=
  ⟨disk.root.changeEntries (·.filter (·.1 != name)) trail.reverse⟩

/-- The steps of a path below the root, without those that lead nowhere. -/
def steps (path : FilePath) : List FileName :=
  path.components.filterMap fun component =>
    match component with
    | .name name => some name
    | .up => some .up
    | _ => none

/-- The directory that holds what some steps lead to, with its trail and the last step. A
link at the end is not followed. -/
def holder? (disk : Disk) (steps : List FileName) : Option (List FileName × Node × FileName) :=
  match steps.getLast?, disk.spotOf steps.dropLast with
  | some name, .ok (.taken trail (.directory entries)) =>
    if name = .up || maxName < name.bytes.length then none
    else some (trail, .directory entries, name)
  | _, _ => none

/-- Whether the last piece of a path is a name. -/
def endsInName (path : FilePath) : Bool :=
  path.pieces.getLast?.any fun piece => !([⟨[]⟩, .here, .up].contains piece)

/-- Put a node where there is none. -/
def add (disk : Disk) (steps : List FileName) (node : Node) : Disk :=
  match disk.holder? steps with
  | some (trail, holder, name) =>
    if (holder.entries.lookup name).isNone then disk.insert trail name node else disk
  | none => disk

/-- Make the directories that some steps lead through behind those before. -/
def makeDirectoriesFrom (before : List FileName) : List FileName → Disk → Disk
  | [], disk => disk
  | step :: rest, disk =>
    makeDirectoriesFrom (before ++ [step]) rest (disk.add (before ++ [step]) (.directory []))

/-- Make the directories on the way to a path. -/
def makeWay (disk : Disk) (path : FilePath) : Disk :=
  if isNameable path then makeDirectoriesFrom [] (steps path).dropLast disk else disk

/-- Whether a path ends in a dot, slashes apart. -/
def endsInDot (path : FilePath) : Bool :=
  (path.pieces.reverse.dropWhile (·.bytes.isEmpty)).head? = some .here

/-- Make the directories of a path. A dot at its end is in the last of them, so that one must
be there. -/
def makeDirectories (disk : Disk) (path : FilePath) : Disk :=
  let disk := disk.makeWay path
  if isNameable path && !endsInDot path then disk.add (steps path) (.directory []) else disk

/-- Write a file, in a directory that is made. Links are followed. -/
def write (disk : Disk) (path : FilePath) (content : ByteArray) : Disk :=
  let disk := disk.makeWay path
  match disk.resolve path with
  | .ok (.taken (name :: trail) (.file _)) => disk.insert trail name (.file content)
  | .ok (.free trail name) => disk.insert trail name (.file content)
  | _ => disk

/-- Make a link, in a directory that is made. -/
def makeLink (disk : Disk) (path target : FilePath) : Disk :=
  let disk := disk.makeWay path
  if isNameable path && endsInName path then disk.add (steps path) (.link target) else disk

/-- Remove a file or a link. -/
def remove (disk : Disk) (path : FilePath) : Disk :=
  if isNameable path && endsInName path then
    match disk.holder? (steps path) with
    | some (trail, holder, name) =>
      match holder.entries.lookup name with
      | some (.directory _) => disk
      | _ => disk.erase trail name
    | none => disk
  else disk

/-! ## Reading -/

/-- The text of a file. -/
def read (disk : Disk) (path : FilePath) : Except FileError String :=
  match disk.find path with
  | .error .missing => .error (.notFound path)
  | .ok (.file content) =>
    match String.fromUTF8? content with
    | some text => .ok text
    | none => .error (.unreadable path)
  | _ => .error (.unreadable path)

end Disk

end LiveCheck
