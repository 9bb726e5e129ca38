import LiveCheck.Url.Escape

/-!
Paths of addresses.

The path of most addresses is a list of segments, each behind a slash. Segments of one or two
dots stand for the directory itself and the one above; they are resolved, except that nothing
leads above the letter of a drive. The path of a file may begin with such a letter. What a line
break or a tab keeps apart from it there is a segment of its own, and is not resolved.
-/

namespace LiveCheck

/-- The path of an address. -/
inductive Route where
  /-- Text that does not begin with a slash, as in `untitled:draft`. -/
  | rootless (text : String)
  /-- Segments, each after a slash. -/
  | segments (list : List String)
deriving DecidableEq, Repr, Inhabited

namespace Route

/-- A path as written. -/
def text : Route → String
  | .rootless text => text
  | .segments list => String.join (list.map ("/" ++ ·))

/-! ## Segments -/

/-- Whether a segment stands for the directory itself. -/
def isSingleDot (segment : String) : Bool :=
  [".", "%2e", "%2E"].contains segment

/-- Whether a segment stands for the directory above. -/
def isDoubleDot (segment : String) : Bool :=
  ["..", ".%2e", ".%2E", "%2e.", "%2E.", "%2e%2e", "%2e%2E", "%2E%2e", "%2E%2E"].contains segment

/-- Whether some characters are the letter of a drive with its mark. -/
def isDrive : List Char → Bool
  | [letter, mark] => letter.isAlpha && (mark == ':' || mark == '|')
  | _ => false

/-- Whether a segment is the letter of a drive, perhaps with a backslash and more
behind it. -/
def startsWithDrive (segment : String) : Bool :=
  let cs := segment.toList
  isDrive (cs.take 2) && (cs.drop 2).head?.all (· == '\\')

/-- The segments of the directory above, last first. -/
def above : List String → List String
  | [] => []
  | last :: rest => if startsWithDrive last then last :: rest else rest

/-- The letter of a drive with a colon as its mark. -/
def normalDrive (segment : String) : String :=
  String.ofList (segment.toList.take 1 ++ [':'])

/-! ## Pieces -/

/-- Whether a character breaks a line or is a tab. -/
def isBreak (c : Char) : Bool :=
  c == '\t' || c == '\n' || c == '\r'

/-- Characters without line breaks and tabs. -/
def withoutBreaks (cs : List Char) : List Char :=
  cs.filter fun c => !isBreak c

/-- What a path has between two slashes. -/
inductive Piece where
  /-- A segment. -/
  | whole (segment : String)
  /-- The letter of a drive with its colon, and what a break keeps apart from it. -/
  | broken (drive behind : String)
deriving DecidableEq, Repr, Inhabited

/-- A segment that some characters write. -/
def segmentOf (cs : List Char) : String :=
  Escape.escape Escape.isPathEscaped cs

/-- The piece that some characters write. Breaks have no meaning, except for one between the
colon of a drive and more characters. -/
def Piece.ofChars (cs : List Char) : Piece :=
  let isBroken := ((cs.dropWhile (· != ':')).drop 1).head?.any isBreak
  match withoutBreaks cs with
  | letter :: ':' :: next :: rest =>
    if isBroken && letter.isAlpha then
      .broken (String.ofList [letter, ':']) (segmentOf (next :: rest))
    else .whole (segmentOf (letter :: ':' :: next :: rest))
  | segment => .whole (segmentOf segment)

/-! ## Trails -/

/-- A path that is followed from its beginning. -/
structure Trail where
  /-- The segments so far, last first. -/
  segments : List String := []
  /-- Whether the first segment is a drive that takes the place of a host. -/
  isOnDrive : Bool := false
deriving DecidableEq, Repr, Inhabited

namespace Trail

/-- Go to the directory above. -/
def leave (trail : Trail) : Trail :=
  { trail with segments := above trail.segments }

/-- Go to a segment. -/
def visit (trail : Trail) (segment : String) : Trail :=
  { trail with segments := segment :: trail.segments }

/-- Enter a directory. The path of a file may begin with the letter of a drive, which then has
a colon. -/
def enter (isFile : Bool) (trail : Trail) (segment : String) : Trail :=
  if isFile && trail.segments.isEmpty && isDrive segment.toList then
    ⟨[normalDrive segment], true⟩
  else trail.visit segment

/-- Enter a directory that a break keeps apart from the letter of a drive. At the beginning of
the path of a file both are segments, whatever they are, and the host stays. -/
def enterBroken (isFile : Bool) (trail : Trail) (drive behind : String) : Trail :=
  if isFile && trail.segments.isEmpty then (trail.visit drive).visit behind
  else trail.visit (drive ++ behind)

/-- Follow a segment. A dot segment at the end leaves an empty segment. -/
def follow (isFile isLast : Bool) (trail : Trail) (segment : String) : Trail :=
  if isDoubleDot segment then if isLast then trail.leave.visit "" else trail.leave
  else if isSingleDot segment then if isLast then trail.visit "" else trail
  else trail.enter isFile segment

/-- Follow the pieces of a path. -/
def followAll (isFile : Bool) (trail : Trail) : List Piece → Trail
  | [] => trail
  | .whole segment :: rest => (trail.follow isFile rest.isEmpty segment).followAll isFile rest
  | .broken drive behind :: rest => (trail.enterBroken isFile drive behind).followAll isFile rest

/-- The trail of the path that some characters write. -/
def ofChars (isFile : Bool) (cs : List Char) : Trail :=
  followAll isFile {} (((String.ofList cs).splitOn "/").map fun piece => Piece.ofChars piece.toList)

end Trail

/-- The segments that some characters write in an address that is none of a file, with dot
segments resolved. -/
def segmentsOf (cs : List Char) : List String :=
  (Trail.ofChars false cs).segments.reverse

/-- The segments without the empty ones at the beginning. One segment is left. -/
def dropEmpty : List String → List String
  | "" :: second :: rest => dropEmpty (second :: rest)
  | list => list

end Route

end LiveCheck
