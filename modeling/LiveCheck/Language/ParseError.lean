import LiveCheck.Language.Token

/-!
Why a file does not parse.

Parsing stops at its first error. An error names the place where it arose and
what would have been accepted there.
-/

namespace LiveCheck

/-- What the grammar asks for at some place. -/
inductive Expected where
  | definition
  | identifier
  | symbol (kind : TokenKind)
deriving DecidableEq, Repr, Inhabited

/-- How error messages name what was asked for. -/
def Expected.describe : Expected → String
  | .definition => "a definition"
  | .identifier => "identifier"
  | .symbol kind => kind.describe

/-- The deepest nesting of terms, a function body being at depth one. -/
def maxDepth : Nat := 256

/-- The first error of a text. -/
inductive ParseError where
  | unexpectedToken (span : Span) (found : TokenKind) (expected : Expected)
  | unexpectedEnd (span : Span) (expected : Expected)
  | invalidCharacter (span : Span)
  | duplicate (span : Span) (name : String)
  | tooDeep (span : Span)
deriving DecidableEq, Repr, Inhabited

namespace ParseError

/-- The error of meeting `token` where something else was asked for. The end of
the text and invalid characters have errors of their own. -/
def unexpected (token : Token) (expected : Expected) : ParseError :=
  match token.kind with
  | .endOfFile => .unexpectedEnd token.span expected
  | .invalid => .invalidCharacter token.span
  | kind => .unexpectedToken token.span kind expected

/-- The place of an error. -/
def span : ParseError → Span
  | .unexpectedToken span _ _ => span
  | .unexpectedEnd span _ => span
  | .invalidCharacter span => span
  | .duplicate span _ => span
  | .tooDeep span => span

/-- The byte at which parsing stopped. -/
def offset (error : ParseError) : Nat :=
  error.span.start

/-- The text of an error. -/
def message : ParseError → String
  | .unexpectedToken _ found expected =>
    "unexpected " ++ found.describe ++ ", expected " ++ expected.describe
  | .unexpectedEnd _ expected => "unexpected end of file, expected " ++ expected.describe
  | .invalidCharacter _ => "invalid character"
  | .duplicate _ name => "duplicate definition: " ++ name
  | .tooDeep _ => "terms nested deeper than " ++ toString maxDepth ++ " levels"

end ParseError

end LiveCheck
