/-!
Numbers written in digits of a base up to sixteen.
-/

namespace LiveCheck

/-- The value of a digit, in either case. -/
def digitValue? (c : Char) : Option Nat :=
  if '0' ≤ c && c ≤ '9' then some (c.toNat - 48)
  else if 'a' ≤ c && c ≤ 'f' then some (c.toNat - 87)
  else if 'A' ≤ c && c ≤ 'F' then some (c.toNat - 55)
  else none

/-- The digit of a value, in lower case. -/
def lowerDigit (n : Nat) : Char :=
  if n < 10 then Char.ofNat (48 + n) else Char.ofNat (87 + n)

/-- The digit of a value, in upper case. -/
def upperDigit (n : Nat) : Char :=
  if n < 10 then Char.ofNat (48 + n) else Char.ofNat (55 + n)

/-- The number so far with one more digit, if that is a digit of the base. -/
def addDigit? (base number : Nat) (c : Char) : Option Nat :=
  (digitValue? c).bind fun digit =>
    if digit < base then some (number * base + digit) else none

/-- The number that some characters write, if all are digits of the base. No digits
write zero. -/
def ofDigits? (base : Nat) (cs : List Char) : Option Nat :=
  cs.foldlM (addDigit? base) 0

end LiveCheck
