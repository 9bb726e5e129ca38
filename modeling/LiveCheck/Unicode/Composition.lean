import LiveCheck.Unicode.Composition.Data

/-!
The composed form of a text.

Two texts that show the same letters and marks may differ in how these are made up. To
compare them every character is decomposed as far as it goes, the marks on a letter are put
in the order of their classes, and what can be composed is composed again.
-/

namespace LiveCheck

/-- The class of a character among marks. -/
def combiningClass (c : Char) : Nat :=
  ((combiningClasses.find? c).bind (·.head?)).getD 0

/-! ## Syllables

A Korean syllable stands for two or three letters. The syllables are in the order of their
letters, so no table is needed. -/

/-- The first syllable. -/
def firstSyllable : Nat := 0xAC00

/-- The place before the first letter that ends a syllable. -/
def noFinal : Nat := 0x11A7

/-- The letters of a syllable. -/
def syllableLetters? (c : Char) : Option (List Char) :=
  let place := c.toNat - firstSyllable
  if firstSyllable ≤ c.toNat && place < 19 * 21 * 28 then
    let lead := Char.ofNat (0x1100 + place / (21 * 28))
    let vowel := Char.ofNat (0x1161 + place / 28 % 21)
    let final := if place % 28 = 0 then [] else [Char.ofNat (noFinal + place % 28)]
    some (lead :: vowel :: final)
  else none

/-- The syllable that two letters make, or a syllable of two letters and a third. -/
def syllable? (a b : Char) : Option Char :=
  let lead := a.toNat - 0x1100
  let vowel := b.toNat - 0x1161
  let place := a.toNat - firstSyllable
  if 0x1100 ≤ a.toNat && lead < 19 && 0x1161 ≤ b.toNat && vowel < 21 then
    some (Char.ofNat (firstSyllable + (lead * 21 + vowel) * 28))
  else if firstSyllable ≤ a.toNat && place < 19 * 21 * 28 && place % 28 = 0 &&
      noFinal < b.toNat && b.toNat < noFinal + 28 then
    some (Char.ofNat (a.toNat + (b.toNat - noFinal)))
  else none

/-! ## Decomposition -/

/-- What a character stands for, one step on. -/
def expansion? (c : Char) : Option (List Char) :=
  syllableLetters? c <|> composites.images? c <|> variants.images? c

/-- Decompose a character, in at most some steps. -/
def decomposeIn : (steps : Nat) → Char → List Char
  | 0, c => [c]
  | steps + 1, c =>
    match expansion? c with
    | some parts => parts.flatMap (decomposeIn steps)
    | none => [c]

/-- Decompose a character as far as it goes. No character takes more than three
steps. -/
def decompose (c : Char) : List Char :=
  decomposeIn 4 c

/-! ## Order -/

/-- Put a character before others, behind those marks at their beginning that are of a lower
class. -/
def placeMark (c : Char) : List Char → List Char
  | [] => [c]
  | d :: rest =>
    if 0 < combiningClass d && combiningClass d < combiningClass c then d :: placeMark c rest
    else c :: d :: rest

/-- Put the marks on each letter in the order of their classes. -/
def reorder (cs : List Char) : List Char :=
  cs.foldr placeMark []

/-! ## Composition -/

/-- The character that two compose to. -/
def pair? (a b : Char) : Option Char :=
  syllable? a b <|> composites.source? [a, b]

/-- Compose what follows a letter with it. Of the marks that stay, `kept` holds those
read so far, last first; one of them bars all that are not of a higher class. -/
def composeWith (letter : Char) (kept : List Char) : List Char → List Char
  | [] => letter :: kept.reverse
  | c :: rest =>
    let barred := kept.head?.any fun mark => combiningClass c ≤ combiningClass mark
    match if barred then none else pair? letter c with
    | some joined => composeWith joined kept rest
    | none =>
      if combiningClass c = 0 then letter :: kept.reverse ++ composeWith c [] rest
      else composeWith letter (c :: kept) rest

/-- Compose all letters with their marks. -/
def compose : List Char → List Char
  | [] => []
  | c :: rest => if combiningClass c = 0 then composeWith c [] rest else c :: compose rest

/-- The composed form of a text. -/
def composed (cs : List Char) : List Char :=
  compose (reorder (cs.flatMap decompose))

end LiveCheck
