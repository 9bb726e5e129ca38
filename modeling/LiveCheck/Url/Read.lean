import LiveCheck.Url

/-!
Reading addresses.

A text without a scheme is no address. How the rest is read depends on the scheme.
Addresses of files may have a host and begin with the letter of a drive. Some schemes have
hosts of their own and a number that these are usually reached under. In both, backslashes
are slashes. In any other scheme little has a meaning. Line breaks and tabs are not part of
an address, but in the path of a file they can keep the letter of a drive apart.
-/

namespace LiveCheck

/-- How the addresses of a scheme are read. -/
inductive SchemeKind where
  | file
  | hosted (usualNumber : Nat)
  | plain
deriving DecidableEq, Repr, Inhabited

namespace Url

/-- The kind of a scheme. -/
def kindOf : (scheme : String) → SchemeKind
  | "file" => .file
  | "ftp" => .hosted 21
  | "http" => .hosted 80
  | "https" => .hosted 443
  | "ws" => .hosted 80
  | "wss" => .hosted 443
  | _ => .plain

/-! ## Parts of a text -/

/-- Drop blanks and controls around an address. -/
def trim (text : String) : List Char :=
  let isOuter (c : Char) : Bool := c.toNat ≤ 0x20
  ((text.toList.dropWhile isOuter).reverse.dropWhile isOuter).reverse

/-- Whether a character may be part of a scheme. -/
def isSchemePart (c : Char) : Bool :=
  c.isAlphanum || c == '+' || c == '-' || c == '.'

/-- The scheme in lower case, and what follows its colon. -/
def splitScheme? (cs : List Char) : Option (String × List Char) :=
  let written := cs.takeWhile fun c => isSchemePart c || Route.isBreak c
  let scheme := Route.withoutBreaks written
  match scheme, cs.drop written.length with
  | first :: _, ':' :: rest =>
    if first.isAlpha then some (String.ofList (scheme.map Char.toLower), rest) else none
  | _, _ => none

/-- What is before the first of a mark, and what is after it. -/
def splitFirst (mark : Char) (cs : List Char) : List Char × Option (List Char) :=
  let before := cs.takeWhile (· != mark)
  (before, match cs.drop before.length with
    | [] => none
    | _ :: after => some after)

/-- What is before the last of a mark, if there is one, and what is after it. -/
def splitLast (mark : Char) (cs : List Char) : Option (List Char) × List Char :=
  let (after, before) := splitFirst mark cs.reverse
  (before.map List.reverse, after.reverse)

/-- Backslashes as slashes. -/
def forwardSlashes (cs : List Char) : List Char :=
  cs.map fun c => if c = '\\' then '/' else c

/-! ## Authorities -/

/-- The user and the password before an at sign. -/
def readUser (cs : List Char) : String × String :=
  let (user, password) := splitFirst ':' cs
  (Escape.escape Escape.isUserEscaped user, Escape.escape Escape.isUserEscaped (password.getD []))

/-- The characters of a host, up to a colon that is not in brackets. -/
def hostChars (inBrackets : Bool) : List Char → List Char
  | [] => []
  | c :: rest =>
    if c = ':' && !inBrackets then []
    else c :: hostChars (c = '[' || (inBrackets && c != ']')) rest

/-- The greatest number that a host may be reached under. -/
def maxPortNumber : Nat := 65535

/-- The number behind a host, unless it is the usual one, and what follows it. Only a
backslash may follow; it belongs to the path. -/
def readPortNumber? (usual : Option Nat) : List Char → Option (Option Nat × List Char)
  | ':' :: cs => do
    let digits := cs.takeWhile Char.isDigit
    let rest := cs.drop digits.length
    if !rest.head?.all (· == '\\') then none
    let number ← ofDigits? 10 digits
    if maxPortNumber < number then none
    return (if digits.isEmpty || some number = usual then none else some number, rest)
  | _ => some (none, [])

/-- The authority that a text writes, and what of the text belongs to the path. `isLast` says
that nothing follows the text. -/
def readAuthority? (kind : SchemeKind) (isLast : Bool) (cs : List Char) :
    Option (Authority × List Char) := do
  let (login, place) := splitLast '@' cs
  let (user, password) := readUser (login.getD [])
  let chars := hostChars false place
  let usual := match kind with
    | .hosted usualNumber => some usualNumber
    | _ => none
  let (portNumber, rest) ← readPortNumber? usual (place.drop chars.length)
  let anonymous : Bool := user.isEmpty && password.isEmpty
  if !chars.isEmpty then
    let host ← if kind = .plain then Host.ofPlainText? chars else Host.ofText? chars
    return ({ user, password, host, portNumber }, rest)
  else if kind = .plain && place.isEmpty && anonymous && (login != some [] || isLast) then
    return ({}, rest)
  else none

/-! ## Addresses -/

/-- What a text writes behind the scheme, up to the query. -/
abbrev Body := Option Authority × Route

/-- Read the path of a file behind the slash. A drive takes the place of a host. -/
def fileBody (host : Option Host) (path : List Char) : Body :=
  let trail := Route.Trail.ofChars true path
  let host := if trail.isOnDrive then none else host
  (some { host }, .segments (Route.dropEmpty trail.segments.reverse))

/-- What follows a slash at the beginning. -/
def afterSlash? (cs : List Char) : Option (List Char) :=
  match cs.dropWhile Route.isBreak with
  | '/' :: rest => some rest
  | _ => none

/-- Read the address of a file behind two slashes. The local host is not written, and the
letter of a drive is no host. -/
def readFilePlace? (cs : List Char) : Option Body := do
  let (place, path) := splitFirst '/' cs
  let name := Route.withoutBreaks place
  if name.isEmpty || Route.isDrive name then return fileBody none cs
  let host ← Host.ofText? name
  if host.isLocal then return fileBody none (cs.dropWhile (· != '/'))
  return fileBody (some host) (path.getD [])

/-- Read the address of a file. -/
def readFile? (cs : List Char) : Option Body :=
  let cs := forwardSlashes cs
  match afterSlash? cs with
  | none => some (fileBody none cs)
  | some path =>
    match afterSlash? path with
    | none => some (fileBody none path)
    | some place => readFilePlace? place

/-- Read an address of a scheme with hosts of its own. Slashes before the host do not
count. -/
def readHosted? (usualNumber : Nat) (cs : List Char) : Option Body := do
  let (place, path) := splitFirst '/' ((forwardSlashes cs).dropWhile (· == '/'))
  let (authority, _) ← readAuthority? (.hosted usualNumber) path.isNone place
  return (some authority, .segments (Route.segmentsOf (path.getD [])))

/-- Read an address of any other scheme. `isLast` says that neither a query nor a fragment
follows. -/
def readPlain? (isLast : Bool) (cs : List Char) : Option Body :=
  match cs with
  | '/' :: '/' :: rest => do
    let (place, path) := splitFirst '/' rest
    let (authority, left) ← readAuthority? .plain (path.isNone && isLast) place
    let segments := if left.isEmpty then (path.map Route.segmentsOf).getD []
      else Route.segmentsOf (left ++ (path.map ('/' :: ·)).getD [])
    return (some authority, .segments segments)
  | '/' :: path => some (none, .segments (Route.segmentsOf path))
  | text => some (none, .rootless (Escape.escape Escape.isControl text))

/-- The address that a text writes, if it is one. -/
def ofText? (text : String) : Option Url := do
  let (scheme, rest) ← splitScheme? (trim text)
  let kind := kindOf scheme
  let (rest, fragment) := splitFirst '#' rest
  let (body, query) := splitFirst '?' rest
  let (authority, path) ← match kind with
    | .file => readFile? body
    | .hosted usualNumber => readHosted? usualNumber (Route.withoutBreaks body)
    | .plain => readPlain? (query.isNone && fragment.isNone) (Route.withoutBreaks body)
  let escape (isEscaped : Char → Bool) (cs : List Char) : String :=
    Escape.escape isEscaped (Route.withoutBreaks cs)
  return { scheme, authority, path
           query := query.map (escape (Escape.isQueryEscaped (kind != .plain)))
           fragment := fragment.map (escape Escape.isFragmentEscaped) }

end Url

end LiveCheck
