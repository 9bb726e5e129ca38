import LiveCheck.Json.Read
import LiveCheck.Server.Wire

/-!
Messages of an editor, read from JSON, and what is sent back.

A message with an `id` is a request and gets a reply under that `id`; one without
is a notice. A request that nobody knows gets a reply as well, while an unknown
notice is passed over.
-/

namespace LiveCheck

/-- A message of an editor. -/
inductive Message where
  | ask (id : Json) (request : Request)
  /-- A request that cannot be understood, with the number of the reason. -/
  | refused (id : Json) (code : Int)
  | tell (notice : Notice)
  /-- A notice that does not matter here. -/
  | ignored
  /-- The editor asks the program to end. -/
  | exit

namespace Message

/-! ## Reading -/

/-- The document that a message is about. -/
def document? (params : Json) : Option String := do
  (← params.member? ["textDocument", "uri"]).toText?

/-- The version of that document. -/
def version? (params : Json) : Option Int := do
  (← params.member? ["textDocument", "version"]).toInt?

/-- The place in that document. -/
def position? (params : Json) : Option Position := do
  let line ← (← params.member? ["position", "line"]).toInt?
  let character ← (← params.member? ["position", "character"]).toInt?
  return ⟨line.toNat, character.toNat⟩

/-- The texts in one field of the items of an array. -/
def textsIn? (array : Json) (field : String) : Option (List String) := do
  (← array.toItems?).mapM fun item => (item.field? field).bind Json.toText?

/-- The addresses of the folders, which may be absent. -/
def folders (params : Json) : List String :=
  ((params.field? "workspaceFolders").bind fun array => textsIn? array "uri").getD []

/-- The request with the given name. -/
def request? (method : String) (params : Json) : Option Request :=
  match method with
  | "initialize" =>
    some (.connect (folders params) ((params.field? "rootUri").bind Json.toText?)
      (params.field? "initializationOptions"))
  | "textDocument/hover" => return .hover (← document? params) (← position? params)
  | "textDocument/definition" => return .definition (← document? params) (← position? params)
  | "textDocument/completion" => return .completion (← document? params) (← position? params)
  | "shutdown" => some .shutdown
  | _ => none

/-- The notice with the given name. -/
def notice? (method : String) (params : Json) : Option Notice :=
  match method with
  | "initialized" => some .initialized
  | "textDocument/didOpen" => do
    let text ← (← params.member? ["textDocument", "text"]).toText?
    return .opened (← document? params) text (← version? params)
  | "textDocument/didChange" => do
    let texts ← textsIn? (← params.field? "contentChanges") "text"
    return .changed (← document? params) (← version? params) texts
  | "textDocument/didClose" => return .closed (← document? params)
  | _ => none

/-- The names of all requests. -/
def methods : List String :=
  ["initialize", "textDocument/hover", "textDocument/definition", "textDocument/completion",
    "shutdown"]

/-- The number of the refusal of a request that nobody knows. -/
def unknownMethod : Int := -32601

/-- The message that a value stands for. -/
def ofJson (json : Json) : Message :=
  let method := ((json.field? "method").bind Json.toText?).getD ""
  let params := (json.field? "params").getD .null
  match json.field? "id" with
  | some id =>
    match request? method params with
    | some request => .ask id request
    | none =>
      .refused id (if methods.contains method then Refusal.invalidParams.code else unknownMethod)
  | none =>
    if method = "exit" then .exit
    else ((notice? method params).map .tell).getD .ignored

/-! ## Replies -/

/-- A message with the mark that all messages have. -/
def mark (fields : List (String × Json)) : Json :=
  .object (("jsonrpc", "2.0") :: fields)

/-- What is sent without being asked for. -/
def unasked (outgoing : Outgoing) : Json :=
  let (method, params) := Wire.outgoing outgoing
  mark [("method", method), ("params", params)]

/-- The refusal of a request. -/
def refusal (id : Json) (code : Int) : Json :=
  mark [("id", id), ("error", .object [("code", code), ("message", "request refused")])]

/-- Handle a message at time `now`: what is sent back, and the session after it. -/
def handle (session : Session) (disk : Disk) (now : Nat) : Message → List Json × Session
  | .ask id request =>
    match session.request now request with
    | .ok (answer, sent, session) =>
      (sent.map unasked ++ [mark [("id", id), ("result", Wire.answer answer)]], session)
    | .error reason => ([refusal id reason.code], session)
  | .refused id code => ([refusal id code], session)
  | .tell notice =>
    let (sent, session) := session.notify disk now notice
    (sent.map unasked, session)
  | .ignored => ([], session)
  | .exit => ([], session)

/-! ## Framing -/

/-- The length that a header line announces. -/
def contentLength? (line : String) : Option Nat :=
  match line.splitOn ":" with
  | [name, value] =>
    if name.toLower = "content-length" then ((Json.ofText? value).bind Json.toInt?).map Int.toNat
    else none
  | _ => none

/-- A value as sent: its length in bytes, a blank line, and its text. -/
def frame (json : Json) : String :=
  let body := json.render
  "Content-Length: " ++ toString body.utf8ByteSize ++ "\r\n\r\n" ++ body

end Message

end LiveCheck
