import LiveCheck.Language.Definition.Parse
import LiveCheck.Language.Typing
import LiveCheck.Workspace.Engine

/-!
The engine of the Formality language.

It never fails in the middle of a request: a text parses or does not, and every
definition can be checked.
-/

namespace LiveCheck

instance : Definition Def where
  name := Def.name
  file := Def.file
  origin := Def.origin
  extent := Def.extent
  source := Def.source
  references definition := definition.references.toList
  signature := Def.signature
  binder? := Def.binder?
  kind definition :=
    match definition.body with
    | .type _ => .type
    | .ctor _ _ => .constructor
    | .func _ _ _ => .function

/-- The diagnostics of a checked definition. -/
def Def.records (definition : Def) (errors : List TypeError) : List Record :=
  errors.map fun error => .error definition.file error.span error.message

/-- Parsing and checking of Formality files. -/
def formality : Engine Def where
  parse uri text :=
    match LiveCheck.parse uri text with
    | .ok definitions => .parsed definitions
    | .error error => .failed ⟨error.offset, error.message⟩
  check names globals :=
    let judged := Typing.judgeAll names globals.get?
    .ok ⟨judged.map (·.1), judged.flatMap fun (definition, errors) => definition.records errors⟩

end LiveCheck
