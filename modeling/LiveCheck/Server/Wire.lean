import LiveCheck.Json
import LiveCheck.Server.Session

/-!
What is sent to an editor, as JSON.

Positions, diagnostics and answers have the form that the Language Server Protocol
gives them. What is absent is left out.
-/

namespace LiveCheck

namespace Wire

/-- A position. -/
def position (position : Position) : Json :=
  .object [("line", position.line), ("character", position.character)]

/-- A range. -/
def range (range : Range) : Json :=
  .object [("start", position range.start), ("end", position range.stop)]

/-- The number of a severity. -/
def severityNumber : Severity → Nat
  | .error => 1
  | .warning => 2
  | .info => 3
  | .hint => 4

/-- A diagnostic. -/
def diagnostic (diagnostic : Diagnostic) : Json :=
  .object [("range", range diagnostic.range), ("severity", severityNumber diagnostic.severity),
    ("source", "formality"), ("message", diagnostic.message)]

/-- A list of diagnostics. -/
def diagnostics (list : List Diagnostic) : Json :=
  .array (list.map diagnostic)

/-- The number of the kind of a completion. -/
def kindNumber : DefinitionKind → Nat
  | .type => 7
  | .constructor => 4
  | .function => 3

/-- A completion. -/
def completion (completion : Completion) : Json :=
  .object [("label", completion.label), ("kind", kindNumber completion.kind),
    ("detail", completion.detail)]

/-- A line of the language as marked-up text. -/
def codeBlock (line : String) : String :=
  "```formality\n" ++ line ++ "\n```"

/-- What a server can do. -/
def capabilities : Json :=
  .object [
    ("capabilities", .object [
      ("textDocumentSync", (1 : Nat)),
      ("hoverProvider", true),
      ("completionProvider", .object [("resolveProvider", false)]),
      ("definitionProvider", true)]),
    ("serverInfo", .object [("name", "fm-lsp"), ("version", "0.1.0")])]

/-- The answer to a request. -/
def answer : Answer → Json
  | .capabilities => capabilities
  | .hover none => .null
  | .hover (some line) =>
    .object [("contents", .object [("kind", "markdown"), ("value", codeBlock line)])]
  | .definition none => .null
  | .definition (some (uri, target)) => .object [("uri", uri), ("range", range target)]
  | .completion items => .array (items.map completion)
  | .stopped => .null

/-- The name and the content of a message that nobody asked for. -/
def outgoing : Outgoing → String × Json
  | .log message => ("window/logMessage", .object [("type", (3 : Nat)), ("message", message)])
  | .publish publication =>
    let version : List (String × Json) := match publication.version with
      | some version => [("version", version)]
      | none => []
    ("textDocument/publishDiagnostics",
      .object ([("uri", (publication.url : Json)),
        ("diagnostics", diagnostics publication.diagnostics)] ++ version))

end Wire

end LiveCheck
