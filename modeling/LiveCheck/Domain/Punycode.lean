/-!
Text in letters, digits and hyphens alone.

The characters of ASCII are written first, with a hyphen behind them. Every other
character follows, in the order of their code points, as a number: how many steps
lie between it and the one before, where a step is one place in the text or, past its end, the
next code point. Numbers are written in base thirty-six, lowest digit first, and a digit below
the threshold of its column is the last one. Thresholds follow the size of the
numbers, so that numbers of one size are short.
-/

namespace LiveCheck

namespace Punycode

/-- The number of digits. -/
def base : Nat := 36

/-- The first code point that is written as a number. -/
def firstCode : Nat := 0x80

/-- The bias that the first number is written with. -/
def firstBias : Nat := 72

/-- The digit of a value: the letters, then the figures. -/
def digit (value : Nat) : Char :=
  if value < 26 then Char.ofNat (0x61 + value) else Char.ofNat (0x30 + (value - 26))

/-- The value of a digit, in either case. -/
def digitValue? (c : Char) : Option Nat :=
  if 'a' ≤ c && c ≤ 'z' then some (c.toNat - 0x61)
  else if 'A' ≤ c && c ≤ 'Z' then some (c.toNat - 0x41)
  else if '0' ≤ c && c ≤ '9' then some (c.toNat - 0x30 + 26)
  else none

/-- The threshold of a column. Columns are counted in steps of `base`. -/
def threshold (bias column : Nat) : Nat :=
  if column ≤ bias then 1 else if bias + 26 ≤ column then 26 else column - bias

theorem threshold_pos (bias column : Nat) : 0 < threshold bias column := by
  unfold threshold
  split
  · decide
  · split <;> omega

/-- The bias for numbers of a size, where `bias` is counted so far. -/
def settle (bias size : Nat) : Nat :=
  if 455 < size then settle (bias + base) (size / 35) else bias + base * size / (size + 38)
termination_by size
decreasing_by exact Nat.div_lt_self (by omega) (by decide)

/-- The bias for the number after one: `count` is the number of characters
by then. The first number is far above those that follow. -/
def nextBias (number count : Nat) (isFirst : Bool) : Nat :=
  let size := if isFirst then number / 700 else number / 2
  settle 0 (size + size / count)

/-! ## Writing -/

/-- A number in digits. -/
def numberDigits (bias column number : Nat) : List Char :=
  let least := threshold bias column
  if number < least then [digit number]
  else
    digit (least + (number - least) % (base - least)) ::
      numberDigits bias (column + base) ((number - least) / (base - least))
termination_by number
decreasing_by
  have := threshold_pos bias column
  have := Nat.div_le_self (number - threshold bias column) (base - threshold bias column)
  omega

/-- What is written so far: the digits, the steps since the last number, the bias and
the count of characters. -/
structure Writing where
  digits : List Char
  steps : Nat
  bias : Nat
  count : Nat
deriving Repr, Inhabited

/-- Pass one character while the characters of code point `code` are written. -/
def Writing.pass (plain code : Nat) (writing : Writing) (c : Char) : Writing :=
  if c.toNat < code then { writing with steps := writing.steps + 1 }
  else if c.toNat = code then
    { digits := writing.digits ++ numberDigits writing.bias base writing.steps
      steps := 0
      bias := nextBias writing.steps (writing.count + 1) (writing.count = plain)
      count := writing.count + 1 }
  else writing

/-- Write the characters of each code point in turn; `code` is the code point that
comes next. -/
def writeCodes (cs : List Char) (plain : Nat) (code : Nat) (writing : Writing) :
    List Nat → Writing
  | [] => writing
  | next :: rest =>
    let start := { writing with steps := writing.steps + (next - code) * (writing.count + 1) }
    let done := cs.foldl (Writing.pass plain next) start
    writeCodes cs plain (next + 1) { done with steps := done.steps + 1 } rest

/-- A list in ascending order without repetitions. -/
def distinct (codes : List Nat) : List Nat :=
  (codes.mergeSort (· ≤ ·)).eraseReps

/-- A text in letters, digits and hyphens. -/
def encode (cs : List Char) : List Char :=
  let plain := cs.filter fun c => c.toNat < firstCode
  let codes := distinct ((cs.map Char.toNat).filter (firstCode ≤ ·))
  let start : Writing := ⟨[], 0, firstBias, plain.length⟩
  (if plain.isEmpty then [] else plain ++ ['-']) ++
    (writeCodes cs plain.length firstCode start codes).digits

/-! ## Reading -/

/-- What is read so far: the text, the code point and the place of the last character, the
bias, and of the number being read its value with that place, its next
column and what a digit there counts. -/
structure Reading where
  text : List Char
  code : Nat := firstCode
  place : Nat := 0
  bias : Nat := firstBias
  value : Nat := 0
  column : Nat := base
  weight : Nat := 1
deriving Repr, Inhabited

/-- Put in the character that a finished number stands for. -/
def Reading.finish? (reading : Reading) : Option Reading :=
  let count := reading.text.length + 1
  let code := reading.code + reading.value / count
  let place := reading.value % count
  if code.isValidChar then
    some { text := reading.text.take place ++ Char.ofNat code :: reading.text.drop place
           code
           place := place + 1
           bias := nextBias (reading.value - reading.place) count (reading.place = 0)
           value := place + 1 }
  else none

/-- Read one digit. -/
def Reading.digit? (reading : Reading) (c : Char) : Option Reading := do
  let digit ← digitValue? c
  let least := threshold reading.bias reading.column
  let reading := { reading with value := reading.value + digit * reading.weight }
  if digit < least then reading.finish?
  else
    return { reading with
      column := reading.column + base
      weight := reading.weight * (base - least) }

/-- The text that letters, digits and hyphens stand for. -/
def decode? (cs : List Char) : Option (List Char) := do
  let digits := (cs.reverse.takeWhile (· != '-')).reverse
  let plain := (cs.take (cs.length - digits.length)).dropLast
  if plain.isEmpty && digits.length < cs.length then none
  let start : Reading := { text := plain }
  let reading ← digits.foldlM Reading.digit? start
  if reading.column = base then return reading.text else none

end Punycode

end LiveCheck
