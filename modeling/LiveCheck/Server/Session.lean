import LiveCheck.Language.Engine
import LiveCheck.Server.Pipeline
import LiveCheck.Server.Settings

/-!
A session with an editor.

The editor connects first; before that nothing else is answered, and after it asked
to shut down nothing is. Edits go through the pipeline to the analysis,
while questions are answered at once from what is known.
-/

namespace LiveCheck

/-- What the editor asks for. Documents are named by addresses. -/
inductive Request where
  | connect (folders : List String) (root : Option String) (options : Option Json)
  | hover (uri : String) (position : Position)
  | definition (uri : String) (position : Position)
  | completion (uri : String) (position : Position)
  | shutdown

/-- What the editor tells. -/
inductive Notice where
  | initialized
  | opened (uri text : String) (version : Int)
  /-- The whole text after each of some edits. -/
  | changed (uri : String) (version : Int) (texts : List String)
  | closed (uri : String)

/-- A definition offered while typing. -/
structure Completion where
  label : String
  kind : DefinitionKind
  detail : String
deriving DecidableEq, Repr, Inhabited

/-- An answer to the editor. -/
inductive Answer where
  | capabilities
  | hover (shown : Option String)
  | definition (target : Option (String × Range))
  | completion (items : List Completion)
  | stopped

/-- Why a request is refused. -/
inductive Refusal where
  /-- The editor has not connected. -/
  | notConnected
  /-- The editor has connected already, or the session is shut down. -/
  | invalidRequest
  /-- The request names a document by something that is no address. -/
  | invalidParams
deriving DecidableEq, Repr, Inhabited

/-- The number of a refusal in messages. -/
def Refusal.code : Refusal → Int
  | .notConnected => -32002
  | .invalidRequest => -32600
  | .invalidParams => -32602

/-- What is sent to the editor without being asked for. -/
inductive Outgoing where
  | log (message : String)
  | publish (publication : Publication)
deriving DecidableEq, Repr, Inhabited

/-- How far a session has come. -/
inductive Phase where
  | fresh
  | ready
  | stopped
deriving DecidableEq, Repr, Inhabited

/-- A session with an editor. -/
structure Session where
  phase : Phase
  settings : Settings
  /-- The folders to load. -/
  roots : List FilePath
  workspace : Workspace Def
  pipeline : Pipeline

namespace Session

/-- A session that has not begun. -/
def start (settings : Settings) : Session :=
  ⟨.fresh, settings, [], .empty, .start settings.debounceSettings⟩

/-- The diagnostics last published for a document. -/
def published? (session : Session) (uri : String) : Option (List Diagnostic) :=
  (Url.ofText? uri).bind fun url => session.workspace.published.get? url.text

/-! ## Analysis -/

/-- Publications as they are sent. -/
def outgoing (sent : List Publication) : List Outgoing :=
  sent.map .publish

/-- Analyze what is in the queue. -/
def work (session : Session) : List Outgoing × Session :=
  let (batch, pipeline) := session.pipeline.takeBatch
  let (sent, workspace) := session.workspace.changes formality batch
  (outgoing sent, { session with pipeline, workspace })

/-- Let everything happen that is due at time `now`. -/
def catchUp (session : Session) (now : Nat) : List Outgoing × Session :=
  { session with pipeline := (session.pipeline.receiveAll now).fire now }.work

/-- Send a change on its way. -/
def submit (session : Session) (uri text : String) (version : Int) : Session :=
  { session with pipeline := session.pipeline.send (.change ⟨uri, text, version⟩) }

/-! ## Notices -/

/-- Load the folders and analyze all files in them. -/
def begin (session : Session) (disk : Disk) : List Outgoing × Session :=
  let access := session.settings.sourceFilter.access disk
  let (sent, workspace) := session.workspace.startup formality access session.roots
  (.log "Formality language server initialized" :: outgoing sent, { session with workspace })

/-- A document is opened. What was last published for it is sent again, for its new
version, until it has been analyzed. -/
def recordOpened (session : Session) (uri text : String) (version : Int) :
    List Outgoing × Session :=
  let documents := session.workspace.documents.openWith uri text version
  (((session.workspace.published.get? uri).map fun diagnostics =>
      Outgoing.publish ⟨uri, some version, diagnostics⟩).toList,
    { session with workspace := { session.workspace with documents } })

/-- A document is opened and its text sent on its way. -/
def opened (session : Session) (uri text : String) (version : Int) : List Outgoing × Session :=
  let (sent, session) := session.recordOpened uri text version
  (sent, session.submit uri text version)

/-- A document is edited. An edit that is not newer than the last one is dropped; an
edit of a document that is not open opens it. -/
def changed (session : Session) (uri text : String) (version : Int) : Session :=
  match session.workspace.documents.edit uri text version with
  | .ok documents =>
    { session with workspace := { session.workspace with documents } }.submit uri text version
  | .error (.staleVersion ..) => session
  | .error (.notOpen _) =>
    let documents := session.workspace.documents.openWith uri text version
    { session with workspace := { session.workspace with documents } }.submit uri text version

/-- A document is closed, where `snapshot` is the text of its file. If that is not
the text the editor had, it is sent on its way. -/
def closed (session : Session) (uri : String) (snapshot : Option String) : Session :=
  match session.workspace.documents.close uri snapshot with
  | .error _ => session
  | .ok documents =>
    let before := session.workspace.documents.text? uri
    let after := documents.text? uri
    let session := { session with workspace := { session.workspace with documents } }
    match after with
    | some text => if before = some text then session else session.submit uri text 0
    | none => session

/-- Take a notice of an editor that may give one. -/
def heed (session : Session) (disk : Disk) : Notice → List Outgoing × Session
  | .initialized => session.begin disk
  | .opened uri text version =>
    match Url.ofText? uri with
    | some url => session.opened url.text text version
    | none => ([], session)
  | .changed uri version texts =>
    match Url.ofText? uri, texts.getLast? with
    | some url, some text => ([], session.changed url.text text version)
    | _, _ => ([], session)
  | .closed uri =>
    match Url.ofText? uri with
    | some url =>
      let snapshot := url.toFilePath?.bind fun path => (disk.read path).toOption
      ([], session.closed url.text snapshot)
    | none => ([], session)

/-- Take a notice at time `now` and let everything happen that is due then. -/
def notify (session : Session) (disk : Disk) (now : Nat) (notice : Notice) :
    List Outgoing × Session :=
  match session.phase with
  | .ready =>
    let (sent, session) := session.heed disk notice
    let (more, session) := session.catchUp now
    (sent ++ more, session)
  | _ => ([], session)

/-- Time passes. -/
def tick (session : Session) (now : Nat) : List Outgoing × Session :=
  match session.phase with
  | .stopped => ([], session)
  | _ => session.catchUp now

/-! ## Requests -/

/-- The folders to load: those the editor names, or else the root it names. -/
def rootsOf (folders : List Url) (root : Option Url) : List FilePath :=
  match folders.filterMap Url.toFilePath? with
  | [] => (root.bind Url.toFilePath?).toList
  | paths => paths

/-- Connect, with the folders and the overrides the editor sends. Overrides that are
refused change nothing. -/
def connect (session : Session) (roots : List FilePath) (options : Option Json) : Session :=
  let session := { session with phase := .ready, roots }
  match session.settings.override options with
  | .ok settings =>
    { session with
      settings
      pipeline := session.pipeline.send (.configure settings.debounceSettings) }
  | .error _ => session

/-- The text of a document and the offset of a position in it. -/
def locate (session : Session) (uri : String) (position : Position) : Option (String × Nat) :=
  (session.workspace.documents.text? uri).map fun text => (text, offsetAt text position)

/-- What to show at a position. -/
def hover (session : Session) (uri : String) (position : Position) : Option String := do
  let (text, offset) ← session.locate uri position
  session.workspace.analyzer.hover uri text offset

/-- Where the definition is that a position refers to. -/
def definition (session : Session) (uri : String) (position : Position) :
    Option (String × Range) := do
  let (text, offset) ← session.locate uri position
  let definition ← session.workspace.analyzer.definition text offset
  let current := (session.workspace.documents.text? definition.file).getD definition.source
  let url ← Url.ofText? definition.file
  return (url.text, (Lines.ofText current).range definition.origin)

/-- Everything that may be typed. -/
def completion (session : Session) : List Completion :=
  session.workspace.analyzer.completions.map fun definition =>
    ⟨definition.name, Definition.kind definition, definition.signature⟩

/-- Deliver what is held back, analyze it, and end. -/
def finish (session : Session) (now : Nat) : List Outgoing × Session :=
  let pipeline := (session.pipeline.receiveAll now).flush
  { session with phase := .stopped, pipeline }.work

/-- Answer a request in a session that is ready. -/
def answer (session : Session) (now : Nat) :
    Request → Except Refusal (Answer × List Outgoing × Session)
  | .connect .. => .error .invalidRequest
  | .hover uri position =>
    match Url.ofText? uri with
    | some url => .ok (.hover (session.hover url.text position), [], session)
    | none => .error .invalidParams
  | .definition uri position =>
    match Url.ofText? uri with
    | some url => .ok (.definition (session.definition url.text position), [], session)
    | none => .error .invalidParams
  | .completion uri _ =>
    match Url.ofText? uri with
    | some _ => .ok (.completion session.completion, [], session)
    | none => .error .invalidParams
  | .shutdown =>
    let (sent, session) := session.finish now
    .ok (.stopped, sent, session)

/-- Answer a request at time `now`. -/
def request (session : Session) (now : Nat) (request : Request) :
    Except Refusal (Answer × List Outgoing × Session) :=
  match session.phase, request with
  | .fresh, .connect folders root options =>
    match folders.mapM Url.ofText?, root.mapM Url.ofText? with
    | some folders, some root =>
      let (sent, session) := (session.connect (rootsOf folders root) options).catchUp now
      .ok (.capabilities, sent, session)
    | _, _ => .error .invalidParams
  | .fresh, _ => .error .notConnected
  | .ready, request => session.answer now request
  | .stopped, _ => .error .invalidRequest

end Session

end LiveCheck
