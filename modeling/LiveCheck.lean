import LiveCheck.Domain.Letters
import LiveCheck.Domain.Name
import LiveCheck.Domain.Punycode
import LiveCheck.Files.Access
import LiveCheck.Files.Disk
import LiveCheck.Files.Memory
import LiveCheck.Files.Node
import LiveCheck.Files.Path
import LiveCheck.Files.SourceFilter
import LiveCheck.Json
import LiveCheck.Json.Read
import LiveCheck.Language.Definition
import LiveCheck.Language.Definition.Parse
import LiveCheck.Language.Engine
import LiveCheck.Language.ParseError
import LiveCheck.Language.Scope
import LiveCheck.Language.Token
import LiveCheck.Language.Token.Scan
import LiveCheck.Language.TypeError
import LiveCheck.Language.Typing
import LiveCheck.Main
import LiveCheck.Outline
import LiveCheck.Proofs.Analyzer.Collisions
import LiveCheck.Proofs.Analyzer.Completeness
import LiveCheck.Proofs.Analyzer.Confluence
import LiveCheck.Proofs.Analyzer.Definition
import LiveCheck.Proofs.Analyzer.Failures
import LiveCheck.Proofs.Analyzer.Hidden
import LiveCheck.Proofs.Analyzer.Hover
import LiveCheck.Proofs.Analyzer.Incremental
import LiveCheck.Proofs.Analyzer.Interleaving
import LiveCheck.Proofs.Analyzer.Merge
import LiveCheck.Proofs.Analyzer.Recovery
import LiveCheck.Proofs.Analyzer.Repeated
import LiveCheck.Proofs.Analyzer.Report
import LiveCheck.Proofs.Analyzer.UpToDate
import LiveCheck.Proofs.Diagnostic
import LiveCheck.Proofs.Documents
import LiveCheck.Proofs.Documents.History
import LiveCheck.Proofs.Engine.Local
import LiveCheck.Proofs.Files.Listing
import LiveCheck.Proofs.Files.Memory
import LiveCheck.Proofs.Files.Path
import LiveCheck.Proofs.Language.Declared
import LiveCheck.Proofs.Language.Earliest
import LiveCheck.Proofs.Language.Grammar
import LiveCheck.Proofs.Language.Joined
import LiveCheck.Proofs.Language.Lexemes
import LiveCheck.Proofs.Language.Nesting
import LiveCheck.Proofs.Language.Parts
import LiveCheck.Proofs.Language.Places
import LiveCheck.Proofs.Language.Readers
import LiveCheck.Proofs.Language.Recognition
import LiveCheck.Proofs.Language.Runs
import LiveCheck.Proofs.Language.Sentences
import LiveCheck.Proofs.Language.Shift
import LiveCheck.Proofs.Language.Unambiguous
import LiveCheck.Proofs.Language.Viable
import LiveCheck.Proofs.Language.Walks
import LiveCheck.Proofs.Language.Words
import LiveCheck.Proofs.Server.Deadlines
import LiveCheck.Proofs.Server.Delivery
import LiveCheck.Proofs.Server.Edits
import LiveCheck.Proofs.Server.Handlers
import LiveCheck.Proofs.Server.Pipeline
import LiveCheck.Proofs.Server.Publish
import LiveCheck.Proofs.Server.Shown
import LiveCheck.Proofs.Store.Coherent
import LiveCheck.Proofs.Store.Disjoint
import LiveCheck.Proofs.Store.Each
import LiveCheck.Proofs.Store.Effect
import LiveCheck.Proofs.Store.Newest
import LiveCheck.Proofs.Store.Rebuild
import LiveCheck.Proofs.Store.Record
import LiveCheck.Proofs.Table
import LiveCheck.Proofs.Text.Checked
import LiveCheck.Proofs.Text.Coordinates
import LiveCheck.Proofs.Text.Cut
import LiveCheck.Proofs.Text.Encoding
import LiveCheck.Proofs.Text.LineBreaks
import LiveCheck.Proofs.Text.Lines
import LiveCheck.Proofs.Text.Word
import LiveCheck.Proofs.Typing.Acceptance
import LiveCheck.Proofs.Typing.CleanReport
import LiveCheck.Proofs.Typing.Context
import LiveCheck.Proofs.Typing.ErrorPlaces
import LiveCheck.Proofs.Typing.Examination
import LiveCheck.Proofs.Typing.Judgement
import LiveCheck.Proofs.Typing.Reads
import LiveCheck.Proofs.Typing.Soundness
import LiveCheck.Proofs.Typing.Undefined
import LiveCheck.Server.CommandLine
import LiveCheck.Server.Message
import LiveCheck.Server.Pipeline
import LiveCheck.Server.Session
import LiveCheck.Server.Settings
import LiveCheck.Server.Wire
import LiveCheck.Server.Workspace
import LiveCheck.Span
import LiveCheck.Table
import LiveCheck.Text.Blank
import LiveCheck.Text.Bytes
import LiveCheck.Text.Digits
import LiveCheck.Text.Position
import LiveCheck.Text.Word
import LiveCheck.Unicode.CodeTable
import LiveCheck.Unicode.Composition
import LiveCheck.Unicode.Composition.Data
import LiveCheck.Unicode.Direction
import LiveCheck.Unicode.Joining
import LiveCheck.Unicode.Marks
import LiveCheck.Url
import LiveCheck.Url.Escape
import LiveCheck.Url.Host
import LiveCheck.Url.Ipv4
import LiveCheck.Url.Ipv6
import LiveCheck.Url.Read
import LiveCheck.Url.Route
import LiveCheck.Workspace.Analyzer
import LiveCheck.Workspace.Debouncer
import LiveCheck.Workspace.Definition
import LiveCheck.Workspace.Diagnostic
import LiveCheck.Workspace.Documents
import LiveCheck.Workspace.Engine
import LiveCheck.Workspace.Store
