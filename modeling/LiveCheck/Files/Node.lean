import LiveCheck.Files.Path

/-!
Trees of files, directories and links.
-/

namespace LiveCheck

/-- A file, a directory, or a link to another path. -/
inductive Node where
  | file (content : ByteArray)
  | directory (entries : List (FileName × Node))
  | link (target : FilePath)

namespace Node

instance : Inhabited Node := ⟨.directory []⟩

/-- The entries of a directory; anything else has none. -/
def entries : Node → List (FileName × Node)
  | .directory entries => entries
  | _ => []

/-- The node reached from here by some names, without following links. -/
def descend? : List FileName → Node → Option Node
  | [], node => some node
  | name :: rest, node => (node.entries.lookup name).bind (descend? rest)

/-- Change the entries of the directory at the end of some names. -/
def changeEntries (change : List (FileName × Node) → List (FileName × Node)) :
    List FileName → Node → Node
  | [], .directory entries => .directory (change entries)
  | name :: rest, .directory entries =>
    .directory (entries.map fun (key, child) =>
      (key, if key = name then changeEntries change rest child else child))
  | _, node => node

end Node

end LiveCheck
