import LiveCheck.Text.Blank
import LiveCheck.Text.Bytes
import LiveCheck.Workspace.Engine

/-!
Outlines: a language of one definition to a line, for trying out a workspace.

A line `name: other another` defines `name` by mentioning other names; all a check
asks is that these are defined. A line that starts with an exclamation mark does
not parse. Checking a definition named `panic` or `internal` fails, each in its own
way, so that a workspace can be tried with an engine that fails.
-/

namespace LiveCheck

/-- A definition of an outline. -/
structure OutlineItem where
  name : String
  file : String
  source : String
  origin : Span
  extent : Span
  /-- The names mentioned, with their places. -/
  mentions : List (String × Span)
  checked : Bool
deriving DecidableEq, Repr, Inhabited

namespace Outline

instance : Definition OutlineItem where
  name := OutlineItem.name
  file := OutlineItem.file
  origin := OutlineItem.origin
  extent := OutlineItem.extent
  source := OutlineItem.source
  references item := item.mentions.map (·.1)
  signature item := item.name ++ if item.checked then " (checked)" else ""
  binder? item name := if name = "self" then some ("self: " ++ item.name) else none
  kind _ := .function

/-! ## Lines and words -/

/-- The parts of a text between separators, each with the offset at which it
begins; the text itself begins at `offset`. -/
def split (separator : Char) (offset : Nat) : List Char → List (Nat × List Char)
  | [] => [(offset, [])]
  | c :: rest =>
    if c = separator then (offset, []) :: split separator (offset + c.utf8Size) rest
    else
      match split separator (offset + c.utf8Size) rest with
      | [] => [(offset, [c])]
      | (_, part) :: parts => (offset, c :: part) :: parts

/-- The words of a line that begins at `offset`, separated by single spaces. -/
def words (offset : Nat) (line : List Char) : List (Nat × List Char) :=
  (split ' ' offset line).filter fun (_, word) => !word.isEmpty

/-- A word without the colons at its end. -/
def trimColons (word : List Char) : List Char :=
  (word.reverse.dropWhile (· == ':')).reverse

/-- The text and the place of characters that begin at `offset`. -/
def placed (offset : Nat) (cs : List Char) : String × Span :=
  (String.ofList cs, ⟨offset, offset + byteLength cs⟩)

/-- The definition of a line that begins at `offset`. A line without words has none. -/
def item? (uri text : String) (offset : Nat) (line : List Char) : Option OutlineItem :=
  match words offset line with
  | [] => none
  | (start, head) :: mentioned =>
    let (name, origin) := placed start (trimColons head)
    some {
      name, file := uri, source := text, origin
      extent := ⟨offset, offset + byteLength line⟩
      mentions := mentioned.map fun (start, word) => placed start word
      checked := false }

/-- The definitions of some lines, where `seen` holds the names of those before. -/
def parseLines (uri text : String) (seen : List String) :
    List (Nat × List Char) → Except Rejection (List OutlineItem)
  | [] => .ok []
  | (offset, line) :: rest =>
    if line.all isBlank then parseLines uri text seen rest
    else if line.head? = some '!' then .error ⟨offset, "unexpected `!`"⟩
    else
      match item? uri text offset line with
      | none => parseLines uri text seen rest
      | some item =>
        if item.name ∈ seen then .error ⟨item.origin.start, "duplicate `" ++ item.name ++ "`"⟩
        else (parseLines uri text (item.name :: seen) rest).map (item :: ·)

/-! ## Checking -/

/-- The records of names that are not defined. -/
def undefinedRecords (globals : Table OutlineItem) (item : OutlineItem) : List Record :=
  (item.mentions.filter fun (name, _) => !globals.contains name).map fun (name, span) =>
    .error item.file span ("Undefined reference: " ++ name ++ "\n")

/-- Check one definition. -/
def check (globals : Table OutlineItem) (item : OutlineItem) :
    Except EngineFailure (OutlineItem × List Record) :=
  if item.name = "panic" then .error (.panicked "cannot check `panic`")
  else if item.name = "internal" then .error (.internal "unhandled definition")
  else .ok ({ item with checked := true }, undefinedRecords globals item)

/-- Parsing and checking of outlines. -/
def engine : Engine OutlineItem where
  parse uri text :=
    match parseLines uri text [] (split '\n' 0 text.toList) with
    | .ok items => .parsed items
    | .error failure => .failed failure
  check names globals := do
    let checked ← (names.filterMap globals.get?).mapM (check globals)
    return ⟨checked.map (·.1), checked.flatMap (·.2)⟩

end Outline

end LiveCheck
