import LiveCheck.Files.Path

/-!
Access to the files of a workspace.

The files below a root can be listed, and a file can be read. Either may fail, and a
listing may also break down in the middle.
-/

namespace LiveCheck

/-- Why a file cannot be read. -/
inductive FileError where
  | notFound (path : FilePath)
  /-- The file is there and cannot be read as text. -/
  | unreadable (path : FilePath)
deriving DecidableEq, Repr, Inhabited

/-- The text of a failure to find a file. -/
def FileError.message : FileError → String
  | .notFound path => "no such file: " ++ path.shown
  | .unreadable path => "cannot read " ++ path.shown

/-- What listing a root comes to. -/
inductive Listing where
  | files (paths : List FilePath)
  | failed
  | crashed
deriving DecidableEq, Repr, Inhabited

/-- Listing and reading files. -/
structure FileAccess where
  /-- The files below a root, in a stable order. -/
  list : (root : FilePath) → Listing
  /-- The text of a file. -/
  read : (path : FilePath) → Except FileError String

end LiveCheck
