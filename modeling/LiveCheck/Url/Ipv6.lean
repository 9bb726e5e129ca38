import LiveCheck.Text.Digits

/-!
Internet addresses of eight pieces.

Each piece has sixteen bits. A run of zero pieces may be left out once, which two colons
show, and the last two pieces may be written as four decimal bytes. In the normal form the
first longest run of at least two zeros is left out and every piece is hexadecimal.
-/

namespace LiveCheck

/-- An address of eight pieces. -/
structure Ipv6 where
  pieces : List Nat
  length_eq : pieces.length = 8
deriving DecidableEq, Repr

namespace Ipv6

/-- The number of pieces. -/
def size : Nat := 8

/-! ## Reading -/

/-- The value of a piece of one to four digits. -/
def piece? (digits : String) : Option Nat :=
  if digits.isEmpty || 4 < digits.length then none else ofDigits? 16 digits.toList

/-- The value of a decimal byte without needless zeros. -/
def byte? (digits : String) : Option Nat := do
  let value ← if digits.isEmpty then none else ofDigits? 10 digits.toList
  if value < 256 && (digits.length = 1 || !digits.startsWith "0") then return value else none

/-- The two pieces of four decimal bytes. -/
def bytePieces? (text : String) : Option (List Nat) := do
  match ← (text.splitOn ".").mapM byte? with
  | [a, b, c, d] => return [a * 256 + b, c * 256 + d]
  | _ => none

/-- The pieces of a list of words. The last word may be decimal bytes. -/
def wordPieces? : List String → Option (List Nat)
  | [] => some []
  | [word] => if word.contains '.' then bytePieces? word else (piece? word).map fun n => [n]
  | word :: rest => do return (← piece? word) :: (← wordPieces? rest)

/-- The pieces of a stretch of an address between double colons. -/
def pieces? (text : String) : Option (List Nat) :=
  if text.isEmpty then some [] else wordPieces? (text.splitOn ":")

/-- Eight pieces as an address. -/
def ofPieces? (pieces : List Nat) : Option Ipv6 :=
  if h : pieces.length = 8 then some ⟨pieces, h⟩ else none

/-- The address that a text writes. Where pieces are left out there is at least one. -/
def ofText? (text : String) : Option Ipv6 :=
  match text.splitOn "::" with
  | [whole] => (pieces? whole).bind ofPieces?
  | [left, right] => do
    if left.contains '.' then none
    let left ← pieces? left
    let right ← pieces? right
    let given := left.length + right.length
    if given < size then ofPieces? (left ++ List.replicate (size - given) 0 ++ right) else none
  | _ => none

/-! ## Writing -/

/-- The number of zeros at the beginning of a list. -/
def leadingZeros (pieces : List Nat) : Nat :=
  (pieces.takeWhile (· == 0)).length

/-- Where the first longest run of zeros begins and how long it is; `place` is the place of
the first piece. -/
def longestRun (place : Nat) : List Nat → Nat × Nat
  | [] => (place, 0)
  | piece :: rest =>
    let here := leadingZeros (piece :: rest)
    let later := longestRun (place + 1) rest
    if later.2 ≤ here then (place, here) else later

/-- Pieces with colons between them. -/
def joined (pieces : List Nat) : String :=
  ":".intercalate (pieces.map fun piece => String.ofList (Nat.toDigits 16 piece))

/-- An address as written. -/
def text (address : Ipv6) : String :=
  let (place, length) := longestRun 0 address.pieces
  if length < 2 then joined address.pieces
  else joined (address.pieces.take place) ++ "::" ++ joined (address.pieces.drop (place + length))

end Ipv6

end LiveCheck
