import LiveCheck.Span
import LiveCheck.Text.Bytes

/-!
Byte offsets and editor positions.

An editor counts lines from zero and columns in UTF-16 units. A line ends with a
line feed, a carriage return, or the two together. `Lines` finds the starts
of all lines once and then answers any number of questions.
-/

namespace LiveCheck

/-- A line and a column, both counted from zero; columns count UTF-16 units. -/
structure Position where
  line : Nat
  character : Nat
deriving DecidableEq, Repr, Inhabited

/-- The places from `start` up to `stop`. -/
structure Range where
  start : Position
  stop : Position
deriving DecidableEq, Repr, Inhabited

/-- Whether a character ends a line. -/
def isLineBreak (c : Char) : Bool :=
  c == '\n' || c == '\r'

/-- The offsets right after each line break of a text that begins at `offset`. -/
def breaks (offset : Nat) : List Char → List Nat
  | [] => []
  | '\r' :: '\n' :: rest => (offset + 2) :: breaks (offset + 2) rest
  | c :: rest =>
    if isLineBreak c then (offset + 1) :: breaks (offset + 1) rest
    else breaks (offset + c.utf8Size) rest

/-- A text with the offsets at which its lines start. -/
structure Lines where
  chars : List Char
  starts : List Nat
deriving DecidableEq, Repr, Inhabited

namespace Lines

/-- Index a text. -/
def ofText (text : String) : Lines :=
  ⟨text.toList, 0 :: breaks 0 text.toList⟩

/-- The position of the byte at `offset`. An offset past the end stands for the
end, one inside a character for its start. -/
def position (index : Lines) (offset : Nat) : Position :=
  let offset := floorBoundary offset index.chars
  let begun := index.starts.takeWhile (· ≤ offset)
  let start := begun.getLastD 0
  ⟨begun.length - 1, unitLength (takeBytes (offset - start) (dropBytes start index.chars))⟩

/-- The characters of a line that starts at `start`, without its line break. -/
def content (index : Lines) (start : Nat) : List Char :=
  (dropBytes start index.chars).takeWhile (fun c => !isLineBreak c)

/-- The number of bytes before the first character of a line that begins at or
after column `character`. -/
def columnBytes (character : Nat) : List Char → Nat
  | [] => 0
  | c :: rest =>
    if character = 0 then 0 else c.utf8Size + columnBytes (character - unitSize c) rest

/-- The offset of a position. A line past the end stands for the end of the text,
a column past the end of a line for the end of that line. -/
def offset (index : Lines) (position : Position) : Nat :=
  match index.starts[position.line]? with
  | none => byteLength index.chars
  | some start => start + columnBytes position.character (index.content start)

/-- The positions of both ends of a span. -/
def range (index : Lines) (span : Span) : Range :=
  ⟨index.position span.start, index.position span.stop⟩

end Lines

/-- The position of a byte offset in `text`. -/
def positionAt (text : String) (offset : Nat) : Position :=
  (Lines.ofText text).position offset

/-- The byte offset of a position in `text`. -/
def offsetAt (text : String) (position : Position) : Nat :=
  (Lines.ofText text).offset position

end LiveCheck
