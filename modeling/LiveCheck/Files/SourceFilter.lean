import LiveCheck.Files.Disk

/-!
The source files of a directory tree.

`SourceFilter.list` walks a directory depth first with siblings in the order of
their names. Hidden and ignored directories are passed over, and so are links,
except that the root of a walk may be one. Only a name that is a text tells that a directory
is hidden or ignored. A directory that cannot be opened is skipped.
-/

namespace LiveCheck

/-- Which files are source files: their extensions, and the names of directories to
pass over. -/
structure SourceFilter where
  extensions : List String := ["fm"]
  ignored : List String := ["target", "node_modules"]
deriving DecidableEq, Repr, Inhabited

namespace SourceFilter

/-- Whether a path has one of the extensions. -/
def isSource (filter : SourceFilter) (path : FilePath) : Bool :=
  (path.extension?.bind FileName.text?).any filter.extensions.contains

/-- Whether a directory is passed over. -/
def isIgnored (filter : SourceFilter) (name : FileName) : Bool :=
  name.text?.any fun text => text.startsWith "." || filter.ignored.contains text

/-- The files of all entries of a directory, in the order of the entries' names. -/
def gather (found : List (FileName × List FilePath)) : List FilePath :=
  (found.mergeSort (fun a b => a.1.bytes ≤ b.1.bytes)).flatMap (·.2)

mutual

/-- The source files at or below a node that is met at `path` under `name`. -/
def visit (filter : SourceFilter) (path : FilePath) (name : FileName) : Node → List FilePath
  | .file _ => if filter.isSource path then [path] else []
  | .directory entries =>
    if filter.isIgnored name || !Disk.fits path then [] else gather (filter.visitAll path entries)
  | .link _ => []

/-- The source files of each entry of the directory at `path`, with its name. -/
def visitAll (filter : SourceFilter) (path : FilePath) :
    List (FileName × Node) → List (FileName × List FilePath)
  | [] => []
  | (name, node) :: rest =>
    (name, filter.visit (path.join name) name node) :: filter.visitAll path rest

end

/-- The source files below a root directory. There are none if the root is no
directory. -/
def list (filter : SourceFilter) (disk : Disk) (root : FilePath) : List FilePath :=
  match disk.find root with
  | .ok (.directory entries) => gather (filter.visitAll root entries)
  | _ => []

/-- Access to the source files of a disk. -/
def access (filter : SourceFilter) (disk : Disk) : FileAccess where
  list root := .files (filter.list disk root)
  read := disk.read

end SourceFilter

end LiveCheck
