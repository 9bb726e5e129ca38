import LiveCheck.Domain.Letters
import LiveCheck.Domain.Punycode
import LiveCheck.Unicode.Direction
import LiveCheck.Unicode.Joining

/-!
Domain names.

A name is a list of labels with dots between them. Its normal form has letters of
ASCII only: a label with other letters is written as `xn--` and its Punycode. Such
a label must be one that its own letters would have been written as.
-/

namespace LiveCheck

namespace Domain

/-- Characters of ASCII that a name may not have. -/
def isForbidden (c : Char) : Bool :=
  c.toNat ≤ 0x20 || c.toNat = 0x7F ||
    ['%', '#', '/', ':', '<', '>', '?', '@', '[', '\\', ']', '^', '|'].contains c

/-- Whether a character is of ASCII. -/
def isPlain (c : Char) : Bool :=
  c.toNat < 0x80

/-- What a label in Punycode begins with. -/
def codedMark : List Char := ['x', 'n', '-', '-']

/-- The length that a label may have before it is written in Punycode. -/
def maxLetters : Nat := 1000

/-- The length that a label in Punycode may have behind its mark. -/
def maxCoded : Nat := 2000

/-! ## Labels -/

/-- The joiners of zero width. -/
def isJoiner (c : Char) : Bool :=
  c.toNat = 0x200C || c.toNat = 0x200D

/-- The class of marks that silence the vowel of a letter. -/
def viramaClass : Nat := 9

/-- Whether a joiner may stand where it does; `before` holds what is before it, last
first. It may follow a virama, and a joiner that keeps two letters apart may stand
between letters that would join. -/
def mayJoin (joiner : Char) (before after : List Char) : Bool :=
  match before with
  | [] => false
  | last :: _ =>
    combiningClass last = viramaClass ||
      (joiner.toNat = 0x200C && (before.dropWhile isTransparent).head?.any joinsNext &&
        (after.dropWhile isTransparent).head?.any joinsPrevious)

/-- Whether all joiners may stand where they do. -/
def joinersFit (before : List Char) : List Char → Bool
  | [] => true
  | c :: rest => (!isJoiner c || mayJoin c before rest) && joinersFit (c :: before) rest

/-- Whether a label with letters beyond ASCII is well formed. -/
def isLabel (letters : List Char) : Bool :=
  letters.length ≤ maxLetters && !letters.head?.any isMark && joinersFit [] letters

/-- A label: its letters, and how it is written. -/
structure Label where
  letters : List Char
  written : List Char
deriving DecidableEq, Repr, Inhabited

/-- The label that Punycode stands for. It is written in ASCII, and its last character is not a
hyphen. -/
def codedLabel? (coded : List Char) : Option Label := do
  if maxCoded < coded.length || coded.getLast?.all (· == '-') || !coded.all isPlain then none
  let letters ← Punycode.decode? coded
  let isNormal := normal? letters = some letters
  if isNormal && !letters.any (fun c => isForbidden c || c == '.') && isLabel letters then
    return ⟨letters, codedMark ++ coded⟩
  else none

/-- The label that a part of a name in normal form stands for. -/
def label? (part : List Char) : Option Label :=
  if codedMark.isPrefixOf part then codedLabel? (part.drop codedMark.length)
  else if part.all isPlain then some ⟨part, part⟩
  else if isLabel part then some ⟨part, codedMark ++ Punycode.encode part⟩
  else none

/-! ## Directions -/

/-- Whether a label whose first letter runs to the right may have a direction inside. -/
def fitsRightward : Direction → Bool
  | .leftward => false
  | .arabicNumber => false
  | _ => true

/-- Whether a label whose first letter runs to the left may have a direction inside. -/
def fitsLeftward (direction : Direction) : Bool :=
  direction != .rightward

/-- Whether the letters of a label run in one direction. The first is a letter, and the last
one, marks apart, a letter or a digit. A label that runs to the left has digits of one kind. -/
def runsOneWay (label : List Direction) : Bool :=
  match label, label.reverse.find? (· != .mark) with
  | .rightward :: _, some last =>
    label.all fitsRightward && (last == .rightward || last == .europeanNumber)
  | .leftward :: _, some last =>
    label.all fitsLeftward && last != .neutral &&
      !(label.contains .europeanNumber && label.contains .arabicNumber)
  | [], _ => true
  | _, _ => false

/-- Whether a direction makes a name one that runs to the left somewhere. -/
def turnsLeft (direction : Direction) : Bool :=
  direction == .leftward || direction == .arabicNumber

/-- Whether every label runs in one direction, if any letter runs to the left. -/
def isWellDirected (labels : List (List Char)) : Bool :=
  let directions := labels.map (·.map directionOf)
  !directions.any (·.any turnsLeft) || directions.all runsOneWay

/-! ## Names -/

/-- The parts of a text between dots. -/
def splitDots (cs : List Char) : List (List Char) :=
  ((String.ofList cs).splitOn ".").map String.toList

/-- The normal form of a name, if it is one. -/
def ofText? (name : List Char) : Option String := do
  let name ← normal? name
  if name.any isForbidden then none
  let labels ← (splitDots name).mapM label?
  if isWellDirected (labels.map (·.letters)) then
    return ".".intercalate (labels.map fun label => String.ofList label.written)
  else none

end Domain

end LiveCheck
