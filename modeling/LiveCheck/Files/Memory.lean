import LiveCheck.Files.Access

/-!
Files kept in memory, in path order.

Paths that have the same components are one path. A file keeps the spelling of its
path when its text is replaced.
-/

namespace LiveCheck

/-- A file with its path as it was given. -/
structure StoredFile where
  path : FilePath
  text : String
deriving DecidableEq, Repr, Inhabited

/-- Files in ascending path order. -/
structure StoredFiles where
  files : List StoredFile
deriving DecidableEq, Repr, Inhabited

namespace StoredFiles

/-- No files. -/
def empty : StoredFiles := ⟨[]⟩

/-- Put a file at its place. If there is one at that path, `replace` says what
becomes of the two. -/
def place (replace : StoredFile → StoredFile → StoredFile) (file : StoredFile) :
    List StoredFile → List StoredFile
  | [] => [file]
  | first :: rest =>
    if file.path.before first.path then file :: first :: rest
    else if file.path.same first.path then replace first file :: rest
    else first :: place replace file rest

/-- Add a file or replace the text of the file at that path. -/
def insert (files : StoredFiles) (path : FilePath) (text : String) : StoredFiles :=
  ⟨place (fun old new => { old with text := new.text }) ⟨path, text⟩ files.files⟩

/-- The given files; of two at one path the later stays as it is. -/
def ofList (files : List (FilePath × String)) : StoredFiles :=
  ⟨files.foldl (fun files (path, text) => place (fun _ new => new) ⟨path, text⟩ files) []⟩

/-- The text of the file at a path. -/
def get? (files : StoredFiles) (path : FilePath) : Option String :=
  (files.files.find? fun file => file.path.same path).map (·.text)

/-- Drop the file at a path. -/
def erase (files : StoredFiles) (path : FilePath) : StoredFiles :=
  ⟨files.files.filter fun file => !file.path.same path⟩

/-- The paths of all files, in path order. -/
def paths (files : StoredFiles) : List FilePath :=
  files.files.map (·.path)

/-- The paths of the files at or below a root, in path order. -/
def list (files : StoredFiles) (root : FilePath) : List FilePath :=
  files.paths.filter root.isUnder

/-- The text of a file. -/
def read (files : StoredFiles) (path : FilePath) : Except FileError String :=
  match files.get? path with
  | some text => .ok text
  | none => .error (.notFound path)

/-- Access to the files. -/
def access (files : StoredFiles) : FileAccess where
  list root := .files (files.list root)
  read := files.read

end StoredFiles

end LiveCheck
