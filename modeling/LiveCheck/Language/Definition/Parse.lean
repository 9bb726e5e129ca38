import LiveCheck.Language.Definition
import LiveCheck.Language.ParseError
import LiveCheck.Language.Token.Scan

/-!
Parsing a file into its definitions.

```text
File   := Item*
Item   := "type" Ident "{" [Ctor ("," Ctor)* [","]] "}"
        | Ident [Params] ":" Ident Term
Ctor   := Ident [Params]
Params := "(" [Param ("," Param)* [","]] ")"
Param  := Ident ":" Ident
Term   := Ident | Ident "(" [Term ("," Term)* [","]] ")"
        | "case" Ident "{" [Arm ("," Arm)* [","]] "}"
Arm    := Ident ":" Term
```

A parser takes the tokens that are left and gives back a shorter list, and says
so in its type; loops over a list of items end for that reason. Terms may nest
`maxDepth` deep. No two definitions of a file may have the same name.
-/

namespace LiveCheck

namespace Parser

/-- A parsed value and the tokens after it, fewer than the tokens before. -/
structure Read (α : Type) (tokens : List Token) where
  value : α
  rest : List Token
  shorter : rest.length < tokens.length

/-- A parser of values of type `α`. The end of file is not among the tokens; it
is given apart, as the token that follows the last one. -/
abbrev Reader (α : Type) := (tokens : List Token) → Except ParseError (Read α tokens)

/-- The next token. -/
def peek (eof : Token) : List Token → Token
  | [] => eof
  | token :: _ => token

/-- Refuse the next token. -/
def refuse (eof : Token) (expected : Expected) (tokens : List Token) : Except ParseError α :=
  .error (.unexpected (peek eof tokens) expected)

/-- Read an identifier. -/
def ident (eof : Token) : Reader Ident
  | ⟨.ident name, span⟩ :: rest => .ok ⟨⟨name, span⟩, rest, by simp⟩
  | tokens => refuse eof .identifier tokens

/-- Read a given keyword, bracket or separator. -/
def symbol (eof : Token) (kind : TokenKind) : Reader Span
  | ⟨found, span⟩ :: rest =>
    if found = kind then .ok ⟨span, rest, by simp⟩
    else refuse eof (.symbol kind) (⟨found, span⟩ :: rest)
  | [] => refuse eof (.symbol kind) []

/-- Whether the next token is of the given kind. -/
def startsWith (kind : TokenKind) : List Token → Bool
  | token :: _ => token.kind = kind
  | [] => false

/-- Read items separated by commas, where a comma may follow the last one, up to
and including the symbol that closes the list. Gives the place of that symbol too. -/
def listUntil (eof : Token) (close : TokenKind) (item : Reader α) :
    Reader (List α × Span) := fun tokens =>
  if startsWith close tokens then
    match symbol eof close tokens with
    | .error error => .error error
    | .ok closed => .ok ⟨([], closed.value), closed.rest, closed.shorter⟩
  else
    match item tokens with
    | .error error => .error error
    | .ok first =>
      match symbol eof .comma first.rest with
      | .ok comma =>
        have fewer : comma.rest.length < tokens.length :=
          Nat.lt_trans comma.shorter first.shorter
        match listUntil eof close item comma.rest with
        | .error error => .error error
        | .ok more =>
          .ok ⟨(first.value :: more.value.1, more.value.2), more.rest,
            Nat.lt_trans more.shorter fewer⟩
      | .error _ =>
        match symbol eof close first.rest with
        | .error error => .error error
        | .ok closed =>
          .ok ⟨([first.value], closed.value), closed.rest,
            Nat.lt_trans closed.shorter first.shorter⟩
termination_by tokens => tokens.length

/-- Read `name: Type`. -/
def param (eof : Token) : Reader Param := fun tokens => do
  let name ← ident eof tokens
  let colon ← symbol eof .colon name.rest
  let type ← ident eof colon.rest
  return ⟨⟨name.value, type.value⟩, type.rest,
    Nat.lt_trans type.shorter (Nat.lt_trans colon.shorter name.shorter)⟩

/-- Read a name and the parameter list that may follow it. -/
def head (eof : Token) : Reader (Ident × List Param) := fun tokens => do
  let name ← ident eof tokens
  if startsWith .leftParen name.rest then
    let opened ← symbol eof .leftParen name.rest
    let params ← listUntil eof .rightParen (param eof) opened.rest
    return ⟨(name.value, params.value.1), params.rest,
      Nat.lt_trans params.shorter (Nat.lt_trans opened.shorter name.shorter)⟩
  else
    return ⟨(name.value, []), name.rest, name.shorter⟩

/-- Read an arm of a case distinction, whose body `body` reads. -/
def branch (eof : Token) (body : Reader Term) : Reader (Branch Term) := fun tokens => do
  let ctor ← ident eof tokens
  let colon ← symbol eof .colon ctor.rest
  let term ← body colon.rest
  return ⟨⟨ctor.value, term.value⟩, term.rest,
    Nat.lt_trans term.shorter (Nat.lt_trans colon.shorter ctor.shorter)⟩

/-- Read a term that may nest `depth` deep. -/
def term (eof : Token) : (depth : Nat) → Reader Term
  | 0 => fun tokens => .error (.tooDeep (peek eof tokens).span)
  | depth + 1 => fun tokens => do
    if startsWith .caseKeyword tokens then
      let keyword ← symbol eof .caseKeyword tokens
      let scrutinee ← ident eof keyword.rest
      let opened ← symbol eof .leftBrace scrutinee.rest
      let branches ← listUntil eof .rightBrace (branch eof (term eof depth)) opened.rest
      return ⟨.case scrutinee.value branches.value.1 (keyword.value.merge branches.value.2),
        branches.rest,
        Nat.lt_trans branches.shorter (Nat.lt_trans opened.shorter
          (Nat.lt_trans scrutinee.shorter keyword.shorter))⟩
    else
      let func ← ident eof tokens
      if startsWith .leftParen func.rest then
        let opened ← symbol eof .leftParen func.rest
        let args ← listUntil eof .rightParen (term eof depth) opened.rest
        return ⟨.app func.value args.value.1 (func.value.span.merge args.value.2), args.rest,
          Nat.lt_trans args.shorter (Nat.lt_trans opened.shorter func.shorter)⟩
      else
        return ⟨.ref func.value, func.rest, func.shorter⟩

/-- A file under its address, with its text. -/
structure Source where
  uri : String
  text : String

/-- A definition as parsed from a file. -/
def Source.define (source : Source) (name : String) (origin extent : Span) (body : Def.Body) :
    Def :=
  { name, file := source.uri, source := source.text, origin, extent, body }

/-- The definitions of a type item: the type, then its constructors under their
qualified names. -/
def Source.defineType (source : Source) (extent : Span) (name : Ident)
    (ctors : List (Ident × List Param)) : List Def :=
  let qualified (ctor : Ident × List Param) := name.name ++ "." ++ ctor.1.name
  source.define name.name name.span extent (.type (ctors.map qualified)) ::
    ctors.map fun ctor =>
      source.define (qualified ctor) ctor.1.span extent (.ctor name ctor.2)

/-- Read a type item. -/
def typeItem (eof : Token) (source : Source) : Reader (List Def) := fun tokens => do
  let keyword ← symbol eof .typeKeyword tokens
  let name ← ident eof keyword.rest
  let opened ← symbol eof .leftBrace name.rest
  let ctors ← listUntil eof .rightBrace (head eof) opened.rest
  let extent := keyword.value.merge ctors.value.2
  return ⟨source.defineType extent name.value ctors.value.1, ctors.rest,
    Nat.lt_trans ctors.shorter (Nat.lt_trans opened.shorter
      (Nat.lt_trans name.shorter keyword.shorter))⟩

/-- Read a function item. -/
def funcItem (eof : Token) (source : Source) : Reader (List Def) := fun tokens => do
  let head ← head eof tokens
  let colon ← symbol eof .colon head.rest
  let ret ← ident eof colon.rest
  let body ← term eof maxDepth ret.rest
  let (name, params) := head.value
  let extent := name.span.merge body.value.span
  return ⟨[source.define name.name name.span extent (.func params ret.value body.value)],
    body.rest,
    Nat.lt_trans body.shorter (Nat.lt_trans ret.shorter
      (Nat.lt_trans colon.shorter head.shorter))⟩

/-- Read one item. -/
def item (eof : Token) (source : Source) : Reader (List Def) := fun tokens =>
  match (peek eof tokens).kind with
  | .typeKeyword => typeItem eof source tokens
  | .ident _ => funcItem eof source tokens
  | _ => refuse eof .definition tokens

/-- The names `seen` together with those of further definitions, unless one of
these was seen before. -/
def declare (seen : List String) : List Def → Except ParseError (List String)
  | [] => .ok seen
  | definition :: rest =>
    if definition.name ∈ seen then .error (.duplicate definition.origin definition.name)
    else declare (definition.name :: seen) rest

/-- Read items up to the end of the file. -/
def items (eof : Token) (source : Source) (seen : List String) (tokens : List Token) :
    Except ParseError (List Def) :=
  if tokens.isEmpty then .ok []
  else
    match item eof source tokens with
    | .error error => .error error
    | .ok first =>
      match declare seen first.value with
      | .error error => .error error
      | .ok seen =>
        have := first.shorter
        (items eof source seen first.rest).map (first.value ++ ·)
termination_by tokens.length

end Parser

/-- The definitions of the file `uri` with the given text, in source order. -/
def parse (uri text : String) : Except ParseError (List Def) :=
  Parser.items (endToken text) ⟨uri, text⟩ [] (lexemes text)

end LiveCheck
