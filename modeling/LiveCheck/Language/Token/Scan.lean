import LiveCheck.Language.Token
import LiveCheck.Text.Bytes

/-!
Splitting a text into tokens.

The scanner reads one character at a time and remembers only what it is in the
middle of: nothing, a word, a slash that may open a comment, or a comment. Its
state after a text does not depend on what follows, so scanning two texts in a
row is scanning the second from the state the first leaves behind.
-/

namespace LiveCheck

namespace Scanner

/-- Characters between tokens: space, tab, line feed, form feed and carriage return. -/
def isSpace (c : Char) : Bool :=
  c == ' ' || c == '\t' || c == '\r' || c == '\n' || c == '\x0c'

/-- Characters a word may start with. -/
def isWordStart (c : Char) : Bool :=
  c.isAlpha || c == '_'

/-- Characters a word may go on with. -/
def isWordPart (c : Char) : Bool :=
  c.isAlphanum || c == '_' || c == '.'

/-- The kind of a whole word: a keyword or an identifier. -/
def wordKind (word : String) : TokenKind :=
  if word = "type" then .typeKeyword
  else if word = "case" then .caseKeyword
  else .ident word

/-- The kind of a character that is a token by itself. -/
def punctuation? : Char → Option TokenKind
  | '(' => some .leftParen
  | ')' => some .rightParen
  | '{' => some .leftBrace
  | '}' => some .rightBrace
  | ':' => some .colon
  | ',' => some .comma
  | _ => none

/-- What the scanner is in the middle of. -/
inductive State where
  /-- Between tokens. -/
  | between
  /-- In a word that began at `start`; `read` holds its characters, last first. -/
  | word (start : Nat) (read : List Char)
  /-- After a slash at `start` that may open a comment. -/
  | slash (start : Nat)
  /-- In a comment, which ends before the next line feed. -/
  | comment
deriving DecidableEq, Repr, Inhabited

/-- The token of a word that spans `start` to `stop`. -/
def wordToken (start stop : Nat) (read : List Char) : Token :=
  ⟨wordKind (String.ofList read.reverse), ⟨start, stop⟩⟩

/-- The token of a slash that opens no comment. -/
def slashToken (start : Nat) : Token :=
  ⟨.invalid, ⟨start, start + 1⟩⟩

/-- Read `c` at `offset` when no token is open. -/
def begin (offset : Nat) (c : Char) : List Token × State :=
  if isSpace c then ([], .between)
  else if c = '/' then ([], .slash offset)
  else if isWordStart c then ([], .word offset [c])
  else ([⟨(punctuation? c).getD .invalid, ⟨offset, offset + c.utf8Size⟩⟩], .between)

/-- Read `c` at `offset`: the tokens that are now complete and the next state. -/
def step (state : State) (offset : Nat) (c : Char) : List Token × State :=
  match state with
  | .between => begin offset c
  | .word start read =>
    if isWordPart c then ([], .word start (c :: read))
    else
      let next := begin offset c
      (wordToken start offset read :: next.1, next.2)
  | .slash start =>
    if c = '/' then ([], .comment)
    else
      let next := begin offset c
      (slashToken start :: next.1, next.2)
  | .comment => ([], if c = '\n' then .between else .comment)

/-- The token still open when the text ends at `offset`. -/
def finish (offset : Nat) : State → List Token
  | .between => []
  | .word start read => [wordToken start offset read]
  | .slash start => [slashToken start]
  | .comment => []

/-- The tokens of the text `cs`, which starts at `offset`, read from `state`. -/
def scan (state : State) (offset : Nat) : List Char → List Token
  | [] => finish offset state
  | c :: rest =>
    let next := step state offset c
    next.1 ++ scan next.2 (offset + c.utf8Size) rest

end Scanner

/-- The tokens of `text`, without the end of file. -/
def lexemes (text : String) : List Token :=
  Scanner.scan .between 0 text.toList

/-- The token that stands at the end of `text`. -/
def endToken (text : String) : Token :=
  ⟨.endOfFile, .empty (byteLength text.toList)⟩

/-- Every token of `text`, the last one being the end of file. -/
def tokenize (text : String) : List Token :=
  lexemes text ++ [endToken text]

end LiveCheck
