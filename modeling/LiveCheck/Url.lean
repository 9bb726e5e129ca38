import LiveCheck.Files.Path
import LiveCheck.Url.Host
import LiveCheck.Url.Route

/-!
Addresses of documents.

An address has a scheme and a path, and perhaps an authority, a query and a fragment. It is
kept in its normal form: dot segments are resolved, hosts are in their normal form,
and characters that do not belong in an address are written as percent escapes.
-/

namespace LiveCheck

/-- Who answers for an address: a user at a host, reached under a number. -/
structure Authority where
  user : String := ""
  password : String := ""
  /-- No host is this computer, or none at all. -/
  host : Option Host := none
  /-- The number behind the host, unless it is the usual one of the scheme. -/
  portNumber : Option Nat := none
deriving DecidableEq, Repr

/-- An address in normal form. -/
structure Url where
  scheme : String
  authority : Option Authority
  path : Route
  query : Option String := none
  fragment : Option String := none
deriving DecidableEq, Repr

namespace Authority

/-- The user and the password as written. -/
def credentials (authority : Authority) : String :=
  authority.user ++ (if authority.password.isEmpty then "" else ":" ++ authority.password)

/-- An authority as written. -/
def text (authority : Authority) : String :=
  (if authority.credentials.isEmpty then "" else authority.credentials ++ "@") ++
    (authority.host.map Host.text).getD "" ++
    (authority.portNumber.map fun number => ":" ++ toString number).getD ""

end Authority

namespace Url

/-! ## Writing -/

/-- The path as written. Where nothing is before it, it does not look like an authority. -/
def pathText (url : Url) : String :=
  match url.authority, url.path with
  | none, .segments ("" :: second :: rest) => "/." ++ Route.text (.segments ("" :: second :: rest))
  | _, path => path.text

/-- An address as written. -/
def text (url : Url) : String :=
  url.scheme ++ ":" ++ (url.authority.map ("//" ++ ·.text)).getD "" ++ url.pathText ++
    (url.query.map ("?" ++ ·)).getD "" ++ (url.fragment.map ("#" ++ ·)).getD ""

/-! ## Files -/

/-- The segment of a component of a file path. -/
def segmentOf (component : Component) : String :=
  Escape.escapeBytes Escape.isNameEscaped component.bytes

/-- The address of a file. A relative path has none. -/
def ofFilePath? (path : FilePath) : Option Url :=
  match path.components with
  | .root :: rest =>
    let segments := if rest.isEmpty then [""] else rest.map segmentOf
    some { scheme := "file", authority := some {}, path := .segments segments }
  | _ => none

/-- Whether an address is on this computer. -/
def isLocal (url : Url) : Bool :=
  (url.authority.bind (·.host)).all Host.isLocal

/-- Some bytes, with a slash behind them if they end in the letter of a drive. -/
def closeDrive (bytes : List UInt8) : List UInt8 :=
  match bytes.reverse with
  | mark :: letter :: _ :: _ =>
    if Route.isDrive [Char.ofNat letter.toNat, Char.ofNat mark.toNat] then bytes ++ [FileName.slash]
    else bytes
  | _ => bytes

/-- The path of the file that an address names. -/
def toFilePath? (url : Url) : Option FilePath :=
  match url.path with
  | .segments (first :: rest) =>
    if url.isLocal then
      let bytes := (first :: rest).flatMap fun segment =>
        FileName.slash :: Escape.unescape segment.toList
      some ⟨closeDrive bytes⟩
    else none
  | _ => none

end Url

end LiveCheck
