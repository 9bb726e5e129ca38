import LiveCheck.Span
import LiveCheck.Table
import LiveCheck.Text.Position

/-!
Diagnostics: as reported, by byte offsets in a file, and as shown, by positions in
an editor.

`diagnosticsByFile` turns a report into one list per known file. A known file without
records gets an empty list, which is how an editor learns that earlier
diagnostics are gone.
-/

namespace LiveCheck

/-- How serious a diagnostic is. -/
inductive Severity where
  | error
  | warning
  | info
  | hint
deriving DecidableEq, Repr, Inhabited

/-- A diagnostic of a file, placed by byte offsets. -/
structure Record where
  file : String
  severity : Severity
  span : Span
  message : String
deriving DecidableEq, Repr, Inhabited

/-- An error at `span` in `file`. -/
def Record.error (file : String) (span : Span) (message : String) : Record :=
  ⟨file, .error, span, message⟩

/-- A diagnostic placed in an editor. -/
structure Diagnostic where
  range : Range
  severity : Severity
  message : String
deriving DecidableEq, Repr, Inhabited

/-- Place a record by means of `resolve`, which turns an offset in a file into a
position. -/
def Record.resolve (resolve : String → Nat → Position) (record : Record) : Diagnostic :=
  ⟨⟨resolve record.file record.span.start, resolve record.file record.span.stop⟩,
    record.severity, record.message⟩

/-- Append a value to the list stored under a key that is there already. -/
def appendAt (table : Table (List α)) (key : String) (value : α) : Table (List α) :=
  match table.get? key with
  | none => table
  | some values => table.insert key (values ++ [value])

/-- The diagnostics of every known file, in the order of the records. Records of
other files are dropped. -/
def diagnosticsByFile (records : List Record) (known : NameSet)
    (resolve : String → Nat → Position) : Table (List Diagnostic) :=
  records.foldl (fun table record => appendAt table record.file (record.resolve resolve))
    (known.mapValues fun _ _ => [])

end LiveCheck
