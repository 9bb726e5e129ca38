import LiveCheck.Workspace.Definition
import LiveCheck.Workspace.Diagnostic

/-!
Language engines: a parser and a checker.

The workspace works with any engine. An engine may fail in the middle of a
request, by giving up or by panicking; the failure is a value like any other.
-/

namespace LiveCheck

/-- Why a file has no definitions: the message and the offset where parsing stopped. -/
structure Rejection where
  offset : Nat
  message : String
deriving DecidableEq, Repr, Inhabited

/-- How an engine fails to answer. -/
inductive EngineFailure where
  /-- The engine met a case it does not handle. -/
  | internal (message : String)
  /-- The engine panicked. -/
  | panicked (message : String)
deriving DecidableEq, Repr, Inhabited

/-- The text of a failure. -/
def EngineFailure.message : EngineFailure → String
  | .internal message => "engine reported an internal error: " ++ message
  | .panicked message => "engine panicked: " ++ message

/-- What parsing a file comes to. -/
inductive ParseOutcome (δ : Type) where
  | parsed (definitions : List δ)
  | failed (failure : Rejection)
  | crashed (error : EngineFailure)

/-- What checking comes to: the definitions as checked, and every diagnostic. -/
structure CheckResult (δ : Type) where
  definitions : List δ
  report : List Record

/-- A parser and a checker of one language. -/
structure Engine (δ : Type) where
  /-- Parse a text as the content of a file. -/
  parse : (uri text : String) → ParseOutcome δ
  /-- Check the named definitions against all definitions. -/
  check : (names : List String) → (globals : Table δ) → Except EngineFailure (CheckResult δ)

end LiveCheck
