import LiveCheck.Text.Bytes

/-!
The names of files, and file paths.

A name is made of bytes. Most names are the UTF-8 of a text, but a disk takes others as well. A
path is made of names with slashes between them and compared by its components: repeated and
trailing slashes do not count, and neither does a dot inside it. Two dots are a component like
any other.
-/

namespace LiveCheck

/-! ## Names -/

/-- The name of a file or a directory. -/
structure FileName where
  bytes : List UInt8
deriving DecidableEq, Repr, Inhabited

namespace FileName

/-- The name that a text is. -/
def ofText (text : String) : FileName := ⟨bytesOf text⟩

instance : Coe String FileName := ⟨ofText⟩

/-- The text of a name, if it has one. -/
def text? (name : FileName) : Option String := textOf? name.bytes

/-- The byte between names. -/
def slash : UInt8 := 47

/-- The byte before an extension. -/
def dot : UInt8 := 46

/-- The name of a directory in itself. -/
def here : FileName := ⟨[dot]⟩

/-- The name of the directory above. -/
def up : FileName := ⟨[dot, dot]⟩

/-- What follows the last dot of a name, unless that dot begins the name. -/
def extension? (name : FileName) : Option FileName :=
  let after := name.bytes.reverse.takeWhile (· != dot)
  match name.bytes.reverse.drop after.length with
  | [] => none
  | [_] => none
  | _ => some ⟨after.reverse⟩

end FileName

/-! ## Components -/

/-- A part of a path. -/
inductive Component where
  /-- The slash an absolute path begins with. -/
  | root
  /-- The dot a relative path may begin with. -/
  | here
  /-- Two dots. -/
  | up
  | name (name : FileName)
deriving DecidableEq, Repr, Inhabited

namespace Component

/-- The rank of the kind of a component. -/
def rank : Component → Nat
  | .root => 0
  | .here => 1
  | .up => 2
  | .name _ => 3

/-- The bytes of a component. -/
def bytes : Component → List UInt8
  | .root => [FileName.slash]
  | .here => FileName.here.bytes
  | .up => FileName.up.bytes
  | .name ⟨bytes⟩ => bytes

/-- Components are ordered by kind, names by their bytes. -/
def before : Component → Component → Bool
  | .name a, .name b => a.bytes < b.bytes
  | a, b => a.rank < b.rank

end Component

/-! ## Paths -/

/-- The path of a file or a directory. -/
structure FilePath where
  bytes : List UInt8
deriving DecidableEq, Repr, Inhabited

namespace FilePath

/-- The path that a text is. -/
def ofText (text : String) : FilePath := ⟨bytesOf text⟩

instance : Coe String FilePath := ⟨ofText⟩

/-- The pieces of a path between slashes. -/
def pieces (path : FilePath) : List FileName :=
  (path.bytes.splitOn FileName.slash).map FileName.mk

/-- The component that a piece after the first place stands for. -/
def inner? (piece : FileName) : Option Component :=
  if piece.bytes = [] ∨ piece = .here then none
  else if piece = .up then some .up
  else some (.name piece)

/-- The component that the first piece of a path stands for. -/
def first? (piece : FileName) : Option Component :=
  if piece.bytes = [] then some .root
  else if piece = .here then some .here
  else inner? piece

/-- The components of a path. -/
def components (path : FilePath) : List Component :=
  match path.bytes, path.pieces with
  | _ :: _, first :: rest => (first? first).toList ++ rest.filterMap inner?
  | _, _ => []

/-- Whether two paths have the same components. -/
def same (a b : FilePath) : Bool :=
  components a = components b

/-- Whether one list of components comes before another: the first difference
decides, and a beginning comes before its continuations. -/
def beforeComponents : List Component → List Component → Bool
  | _, [] => false
  | [], _ :: _ => true
  | a :: as, b :: bs => a.before b || (a = b && beforeComponents as bs)

/-- Whether one path comes before another. -/
def before (a b : FilePath) : Bool :=
  beforeComponents (components a) (components b)

/-- Whether `path` is `root` or lies below it. -/
def isUnder (root path : FilePath) : Bool :=
  (components root).isPrefixOf (components path)

/-- Whether a path begins at the root. -/
def isAbsolute (path : FilePath) : Bool :=
  (components path).head? = some .root

/-- A path with one more name. A slash at its end is not doubled. -/
def join (path : FilePath) (name : FileName) : FilePath :=
  if path.bytes.getLast?.all (· == FileName.slash) then ⟨path.bytes ++ name.bytes⟩
  else ⟨path.bytes ++ FileName.slash :: name.bytes⟩

/-- The name at the end of a path. -/
def fileName? (path : FilePath) : Option FileName :=
  match (components path).getLast? with
  | some (.name name) => some name
  | _ => none

/-- The extension of the name at the end of a path. -/
def extension? (path : FilePath) : Option FileName :=
  (fileName? path).bind FileName.extension?

/-! ## Showing a path -/

/-- The number of bytes of a character whose first byte is `lead`, and one if there is none. -/
def width (lead : UInt8) : Nat :=
  if 0xC2 ≤ lead && lead ≤ 0xDF then 2
  else if 0xE0 ≤ lead && lead ≤ 0xEF then 3
  else if 0xF0 ≤ lead && lead ≤ 0xF4 then 4
  else 1

/-- Whether a byte can be the second of a character whose first byte is `lead`. -/
def canFollow (lead byte : UInt8) : Bool :=
  (if lead = 0xE0 then 0xA0 else if lead = 0xF0 then 0x90 else 0x80) ≤ byte &&
    byte ≤ (if lead = 0xED then 0x9F else if lead = 0xF4 then 0x8F else 0xBF)

/-- Behind `lead`, the number of bytes that go on with its character, which may be broken off. -/
def tailLength (lead : UInt8) : List UInt8 → Nat
  | second :: more =>
    if 1 < width lead && canFollow lead second then
      1 + ((more.take (width lead - 2)).takeWhile fun byte => 0x80 ≤ byte && byte ≤ 0xBF).length
    else 0
  | [] => 0

/-- Some bytes as text, with a mark in place of what is no character. -/
def lossy : List UInt8 → List Char
  | [] => []
  | lead :: rest =>
    let tail := tailLength lead rest
    ((textOf? (lead :: rest.take tail)).map String.toList).getD ['\uFFFD'] ++
      lossy (rest.drop tail)
termination_by bytes => bytes.length
decreasing_by simp only [List.length_drop, List.length_cons]; omega

/-- A path as it is shown. -/
def shown (path : FilePath) : String :=
  (textOf? path.bytes).getD (String.ofList (lossy path.bytes))

end FilePath

end LiveCheck
