import LiveCheck.Table
import LiveCheck.Text.Position

/-!
The current text of every document.

A document is open in the editor or a snapshot of a file. The editor's copy
counts: opening a document hides its snapshot, and closing it puts a snapshot in
its place.
-/

namespace LiveCheck

/-- A text with the editor's version of it. -/
structure Document where
  text : String
  version : Int
deriving DecidableEq, Repr, Inhabited

/-- Where a document's text comes from. -/
inductive Document.Origin where
  | editor
  | disk
deriving DecidableEq, Repr, Inhabited

/-- Why an operation on a document is refused. -/
inductive EditRefusal where
  | notOpen (uri : String)
  | staleVersion (uri : String) (version current : Int)
deriving DecidableEq, Repr, Inhabited

/-- The text of a refusal. -/
def EditRefusal.message : EditRefusal → String
  | .notOpen uri => "document is not open: " ++ uri
  | .staleVersion uri version current =>
    "stale edit for " ++ uri ++ ": version " ++ toString version ++ " is not newer than " ++
      toString current

/-- The documents open in the editor and the snapshots of all other files. -/
structure Documents where
  opened : Table Document
  snapshots : Table String
deriving Inhabited

namespace Documents

/-- No documents. -/
def empty : Documents := ⟨.empty, .empty⟩

/-- A document is opened in the editor. -/
def openWith (documents : Documents) (uri text : String) (version : Int) : Documents :=
  ⟨documents.opened.insert uri ⟨text, version⟩, documents.snapshots.erase uri⟩

/-- The text of an open document is replaced. Versions have to increase. -/
def edit (documents : Documents) (uri text : String) (version : Int) :
    Except EditRefusal Documents :=
  match documents.opened.get? uri with
  | none => .error (.notOpen uri)
  | some document =>
    if version ≤ document.version then .error (.staleVersion uri version document.version)
    else .ok { documents with opened := documents.opened.insert uri ⟨text, version⟩ }

/-- A document is closed in the editor. The snapshot is the file's text, or the
editor's last text if the file could not be read. -/
def close (documents : Documents) (uri : String) (snapshot : Option String) :
    Except EditRefusal Documents :=
  match documents.opened.get? uri with
  | none => .error (.notOpen uri)
  | some document =>
    .ok ⟨documents.opened.erase uri, documents.snapshots.insert uri (snapshot.getD document.text)⟩

/-- A file was read. Its text counts unless the document is open. -/
def load (documents : Documents) (uri text : String) : Documents :=
  if documents.opened.contains uri then documents
  else { documents with snapshots := documents.snapshots.insert uri text }

/-- Whether a document is open in the editor. -/
def isOpen (documents : Documents) (uri : String) : Bool :=
  documents.opened.contains uri

/-- The copy of a document that counts: the editor's, or else its snapshot. Snapshots have
version zero. -/
def get? (documents : Documents) (uri : String) : Option (Document.Origin × Document) :=
  ((documents.opened.get? uri).map fun document => (.editor, document)).or
    ((documents.snapshots.get? uri).map fun text => (.disk, ⟨text, 0⟩))

/-- The current text of a document. -/
def text? (documents : Documents) (uri : String) : Option String :=
  ((documents.opened.get? uri).map (·.text)).or (documents.snapshots.get? uri)

/-- The editor's version of an open document. -/
def version? (documents : Documents) (uri : String) : Option Int :=
  (documents.opened.get? uri).map (·.version)

/-- The position of a byte offset in the current text of a document. -/
def position? (documents : Documents) (uri : String) (offset : Nat) : Option Position :=
  (documents.text? uri).map (positionAt · offset)

/-- Every document with its origin: open ones first, each group in ascending order.
Snapshots have version zero. -/
def toList (documents : Documents) : List (String × Document.Origin × Document) :=
  documents.opened.entries.map (fun (uri, document) => (uri, .editor, document)) ++
    documents.snapshots.entries.map (fun (uri, text) => (uri, .disk, ⟨text, 0⟩))

/-- Every document with its current text, in the order of `toList`. -/
def texts (documents : Documents) : List (String × String) :=
  documents.toList.map fun (uri, _, document) => (uri, document.text)

/-- The number of documents. -/
def size (documents : Documents) : Nat :=
  documents.opened.size + documents.snapshots.size

/-- Whether there is no document. -/
def isEmpty (documents : Documents) : Bool :=
  documents.opened.isEmpty && documents.snapshots.isEmpty

end Documents

end LiveCheck
