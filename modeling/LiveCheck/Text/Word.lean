import LiveCheck.Span
import LiveCheck.Text.Blank
import LiveCheck.Text.Bytes

/-!
The word under a cursor.

A word is a longest run of characters without a delimiter. It need not be an
identifier: punctuation such as a colon may stick to its end, so a word offers
two candidates for the name it stands for.
-/

namespace LiveCheck

/-- Characters between words: blanks, brackets, commas and exclamation marks. -/
def isDelimiter (c : Char) : Bool :=
  isBlank c || ['(', ')', '{', '}', '<', '>', ',', '!'].contains c

/-- A run of characters without a delimiter, at its place in a text. -/
structure Word where
  chars : List Char
  span : Span
deriving DecidableEq, Repr, Inhabited

namespace Word

/-- The characters of a word as text. -/
def text (word : Word) : String :=
  String.ofList word.chars

/-- The word that a cursor at `offset` touches. -/
def at? (text : String) (offset : Nat) : Option Word :=
  let before := takeBytes offset text.toList
  let after := dropBytes offset text.toList
  let cursor := byteLength before
  let left := (before.reverse.takeWhile (fun c => !isDelimiter c)).reverse
  let right := after.takeWhile (fun c => !isDelimiter c)
  if left.isEmpty && right.isEmpty then none
  else some ⟨left ++ right, ⟨cursor - byteLength left, cursor + byteLength right⟩⟩

/-- Punctuation that may follow a name inside a word. -/
def isTrailing (c : Char) : Bool :=
  c == ':' || c == '.' || c == ';'

/-- The names a word may stand for: as written, then without one mark at its end. -/
def candidates (word : Word) : List String :=
  match word.chars.reverse with
  | last :: c :: rest =>
    if isTrailing last then [word.text, String.ofList (c :: rest).reverse] else [word.text]
  | _ => [word.text]

end Word

end LiveCheck
