import LiveCheck.Span
import LiveCheck.Table

/-!
What the workspace knows about a definition, whatever language it is written in.

Definitions are stored, looked up and shown through this interface only.
-/

namespace LiveCheck

/-- What kind of thing a definition names, for presentation. -/
inductive DefinitionKind where
  | type
  | constructor
  | function
deriving DecidableEq, Repr, Inhabited

/-- A named definition of a file. -/
class Definition (δ : Type) where
  /-- The name, which is global. -/
  name : δ → String
  /-- The file that holds the definition. -/
  file : δ → String
  /-- The place of the name in the file. -/
  origin : δ → Span
  /-- The place of the whole definition. -/
  extent : δ → Span
  /-- The text of the file when it was parsed. -/
  source : δ → String
  /-- The global names the definition mentions. -/
  references : δ → List String
  /-- The line shown for the definition. -/
  signature : δ → String
  /-- The line shown for a name bound inside the definition. -/
  binder? : δ → String → Option String
  /-- What the definition names. -/
  kind : δ → DefinitionKind

/-- Definitions by name; of two with one name the later stays. -/
def tableOf [Definition δ] (definitions : List δ) : Table δ :=
  Table.ofList (definitions.map fun definition => (Definition.name definition, definition))

/-- The file that holds the definition of `name` in a table. -/
def owner? [Definition δ] (table : Table δ) (name : String) : Option String :=
  (table.get? name).map Definition.file

end LiveCheck
