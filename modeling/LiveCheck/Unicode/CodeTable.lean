import LiveCheck.Text.Digits

/-!
Tables of code points.

A table is written as text, with blanks or line breaks between its rows. A row begins with a code
point, or with the first and the last of a range, in hexadecimal digits. It may go on with
what these code points go to:

* `300-314=E6`: every one to the same images;
* `41-5A:61`: the first to the image, and each later one as far behind it;
* `182-184/183`: the same for the first, the third and so on, and nothing for the others;
* `31A>E8.D8`: this code point and those that follow it to the images in turn.

Several images are parted by dots.
-/

namespace LiveCheck

/-- How the code points of a row go to its images. -/
inductive RowRule where
  | same
  | shifted
  | shiftedAlternately
  | inTurn
deriving DecidableEq, Repr, Inhabited

/-- A row of a table. -/
structure CodeRow where
  first : Nat
  last : Nat
  rule : RowRule
  images : List Nat
deriving DecidableEq, Repr, Inhabited

namespace CodeRow

/-- What a row says of a code point. -/
def images? (row : CodeRow) (code : Nat) : Option (List Nat) :=
  if row.first ≤ code && code ≤ row.last then
    let place := code - row.first
    match row.rule with
    | .same => some row.images
    | .shifted => some (row.images.map (· + place))
    | .shiftedAlternately =>
      if place % 2 = 0 then some (row.images.map (· + place)) else none
    | .inTurn => (row.images[place]?).map fun image => [image]
  else none

/-- The rule that a mark stands for. -/
def rule? : Char → Option RowRule
  | '=' => some .same
  | ':' => some .shifted
  | '/' => some .shiftedAlternately
  | '>' => some .inTurn
  | _ => none

/-- A number at the beginning of a row, and what follows it. -/
def readNumber (cs : List Char) : Nat × List Char :=
  let digits := cs.takeWhile fun c => (digitValue? c).isSome
  ((ofDigits? 16 digits).getD 0, cs.drop digits.length)

/-- The images that follow the mark of a row. -/
def readImages (cs : List Char) : List Nat :=
  ((String.ofList cs).splitOn ".").map fun image => (readNumber image.toList).1

/-- The row that some characters write. -/
def ofChars (cs : List Char) : CodeRow :=
  let (first, rest) := readNumber cs
  let (last, rest) := match rest with
    | '-' :: rest => readNumber rest
    | rest => (first, rest)
  match rest with
  | [] => ⟨first, last, .same, []⟩
  | mark :: rest =>
    let images := readImages rest
    match (rule? mark).getD .same with
    | .inTurn => ⟨first, first + images.length - 1, .inTurn, images⟩
    | rule => ⟨first, last, rule, images⟩

end CodeRow

/-- A table of code points. -/
structure CodeTable where
  rows : List CodeRow
deriving DecidableEq, Repr, Inhabited

namespace CodeTable

/-- The rows of a written table. -/
def writtenRows (text : String) : List String :=
  ((text.splitOn "\n").flatMap (·.splitOn " ")).filter fun row => !row.isEmpty

/-- The table that a text writes. -/
def ofText (text : String) : CodeTable :=
  ⟨(writtenRows text).map fun row => CodeRow.ofChars row.toList⟩

/-- What the table says of a character, by the first row that says anything. -/
def find? (table : CodeTable) (c : Char) : Option (List Nat) :=
  table.rows.findSome? (·.images? c.toNat)

/-- Whether the table has a character. -/
def contains (table : CodeTable) (c : Char) : Bool :=
  (table.find? c).isSome

/-- The characters that a character goes to. -/
def images? (table : CodeTable) (c : Char) : Option (List Char) :=
  (table.find? c).map (·.map Char.ofNat)

/-- The character whose only images are these. -/
def source? (table : CodeTable) (images : List Char) : Option Char :=
  let codes := images.map Char.toNat
  (table.rows.find? fun row => row.rule = .same && row.images = codes).map fun row =>
    Char.ofNat row.first

end CodeTable

end LiveCheck
