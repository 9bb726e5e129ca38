import LiveCheck.Span

/-!
Tokens of the Formality language.

A file is read as a sequence of words, brackets and separators. Words are
keywords or dotted identifiers such as `Bool.not`. A character the language
has no use for is a token of its own, so that it can be reported where it stands.
-/

namespace LiveCheck

/-- What a token is. -/
inductive TokenKind where
  | typeKeyword
  | caseKeyword
  | ident (name : String)
  | leftParen
  | rightParen
  | leftBrace
  | rightBrace
  | colon
  | comma
  | invalid
  | endOfFile
deriving DecidableEq, Repr, Inhabited

/-- How error messages name a token. -/
def TokenKind.describe : TokenKind → String
  | .typeKeyword => "`type`"
  | .caseKeyword => "`case`"
  | .ident name => "identifier `" ++ name ++ "`"
  | .leftParen => "`(`"
  | .rightParen => "`)`"
  | .leftBrace => "`\x7b`"
  | .rightBrace => "`\x7d`"
  | .colon => "`:`"
  | .comma => "`,`"
  | .invalid => "invalid character"
  | .endOfFile => "end of file"

/-- A token and the bytes it covers. -/
structure Token where
  kind : TokenKind
  span : Span
deriving DecidableEq, Repr, Inhabited

end LiveCheck
