import LiveCheck.Server.CommandLine
import LiveCheck.Server.Message

/-!
The program: a session with an editor over standard input and output.

It works on the documents that the editor opens; the disk it gives to the session
is empty.
-/

namespace LiveCheck

namespace Program

/-- Read header lines up to a blank one. There is no result if the input ends. -/
partial def readHeaders (input : IO.FS.Stream) (length : Nat) : IO (Option Nat) := do
  let line ← input.getLine
  if line.isEmpty then return none
  if line.toList.all isBlank then return some length
  readHeaders input ((Message.contentLength? line).getD length)

/-- Read bytes until none are missing or the input ends. -/
partial def readBytes (input : IO.FS.Stream) (missing : Nat) (read : ByteArray) :
    IO ByteArray := do
  if missing = 0 then return read
  let more ← input.read missing.toUSize
  if more.isEmpty then return read
  readBytes input (missing - more.size) (read ++ more)

/-- Read one message. There is none if the input ends. -/
def readMessage (input : IO.FS.Stream) : IO (Option Message) := do
  match ← readHeaders input 0 with
  | none => return none
  | some length =>
    let body := String.fromUTF8? (← readBytes input length .empty)
    return some (((body.bind Json.ofText?).map Message.ofJson).getD .ignored)

/-- Send some messages. -/
def send (output : IO.FS.Stream) (messages : List Json) : IO Unit := do
  for message in messages do
    output.putStr (Message.frame message)
  output.flush

/-- Let time pass until a message has come. -/
partial def waitFor (output : IO.FS.Stream) (next : Task (Except IO.Error (Option Message)))
    (session : Session) : IO Session := do
  if ← IO.hasFinished next then return session
  let (sent, session) := session.tick (← IO.monoMsNow)
  send output (sent.map Message.unasked)
  IO.sleep 5
  waitFor output next session

/-- Serve an editor until it asks to end or the input ends. -/
partial def serve (input output : IO.FS.Stream) (session : Session) : IO Unit := do
  let next ← IO.asTask (readMessage input)
  let session ← waitFor output next session
  match next.get with
  | .ok (some .exit) => return ()
  | .ok (some message) =>
    let (sent, session) := message.handle session .empty (← IO.monoMsNow)
    send output sent
    serve input output session
  | _ => return ()

/-- Complain on the error output. -/
def complain (message : String) : IO UInt32 := do
  (← IO.getStderr).putStr ("fm-lsp: " ++ message ++ "\n")
  return 2

/-- Carry out a command line. -/
def run (arguments : List String) : IO UInt32 := do
  match CommandLine.parse arguments with
  | .error .helpAsked =>
    (← IO.getStdout).putStr CommandLine.help
    return 0
  | .error .versionAsked =>
    (← IO.getStdout).putStr "fm-lsp 0.1.0\n"
    return 0
  | .error error => complain error.message
  | .ok invocation =>
    match invocation.settings with
    | .error error => complain error.message
    | .ok settings =>
      serve (← IO.getStdin) (← IO.getStdout) (.start settings)
      return 0

end Program

end LiveCheck

/-- Serve an editor as the command line says. -/
def main (arguments : List String) : IO UInt32 :=
  LiveCheck.Program.run arguments
