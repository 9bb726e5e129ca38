import LiveCheck.Text.Digits

/-!
Internet addresses of four bytes.

An address is written as its four bytes in decimal, but read from fewer numbers too,
of which the last fills all bytes that are left, and a number may also be hexadecimal
or octal: `127.1`, `0x7f.1` and `017700000001` are all `127.0.0.1`.
-/

namespace LiveCheck

/-- An address of four bytes, the first of them highest. -/
structure Ipv4 where
  bits : UInt32
deriving DecidableEq, Repr, Inhabited

namespace Ipv4

/-- The number of addresses. -/
def count : Nat := UInt32.size

/-- The number that a part of an address writes. -/
def number? : List Char → Option Nat
  | [] => none
  | '0' :: 'x' :: digits => ofDigits? 16 digits
  | '0' :: 'X' :: digits => ofDigits? 16 digits
  | '0' :: c :: digits => ofDigits? 8 (c :: digits)
  | digits => ofDigits? 10 digits

/-- The parts of a name between dots. A dot at its end parts nothing. -/
def parts (name : List Char) : List (List Char) :=
  let all := (String.ofList name).splitOn "." |>.map String.toList
  if all.getLast? = some [] then all.dropLast else all

/-- Whether a name is to be read as an address, since its last part is a number or
at least all digits. -/
def isNumeric (name : List Char) : Bool :=
  match (parts name).getLast? with
  | none => false
  | some [] => false
  | some last => last.all Char.isDigit || (number? last).isSome

/-- The number that some bytes and a last number make together, where `room` is the
count of numbers there is room for. -/
def join? : (room : Nat) → List Nat → Option Nat
  | _, [] => none
  | room, [last] => if last < room then some last else none
  | room, byte :: rest =>
    if byte < 256 then (join? (room / 256) rest).map (byte * (room / 256) + ·) else none

/-- The address that a name writes. -/
def ofText? (name : List Char) : Option Ipv4 := do
  let numbers ← (parts name).mapM number?
  if numbers.length ≤ 4 then return ⟨(← join? count numbers).toUInt32⟩ else none

/-- An address as written. -/
def text (address : Ipv4) : String :=
  let byte (unit : Nat) : String := toString (address.bits.toNat / unit % 256)
  byte 16777216 ++ "." ++ byte 65536 ++ "." ++ byte 256 ++ "." ++ byte 1

end Ipv4

end LiveCheck
