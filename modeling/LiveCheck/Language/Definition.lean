import LiveCheck.Span
import LiveCheck.Table

/-!
Definitions of the Formality language and the terms they are made of.

A file is a list of items. A `type` item defines the type and one definition per
constructor, under the qualified names `Bool.true`, `Bool.false`; a function item
defines one name. A definition keeps the text of its file, so that it can be
located after the file has changed.
-/

namespace LiveCheck

/-- A name as written at some place. -/
structure Ident where
  name : String
  span : Span
deriving DecidableEq, Repr, Inhabited

/-- A name with its type: a parameter of a function or a field of a constructor. -/
structure Param where
  name : Ident
  type : Ident
deriving DecidableEq, Repr, Inhabited

/-- One arm of a case distinction, for the constructor `ctor`. -/
structure Branch (τ : Type) where
  ctor : Ident
  body : τ

/-- Terms: a name, a call, or a case distinction on a name. -/
inductive Term where
  | ref (ident : Ident)
  | app (func : Ident) (args : List Term) (span : Span)
  | case (scrutinee : Ident) (branches : List (Branch Term)) (span : Span)

/-- The bytes a term covers. -/
def Term.span : Term → Span
  | .ref ident => ident.span
  | .app _ _ span => span
  | .case _ _ span => span

/-- What a definition defines. -/
inductive Def.Body where
  /-- A type with the qualified names of its constructors. -/
  | type (ctors : List String)
  /-- A constructor of the type `owner`. -/
  | ctor (owner : Ident) (fields : List Param)
  /-- A function with its result type and its body. -/
  | func (params : List Param) (ret : Ident) (body : Term)

/-- How far a definition has been checked. -/
inductive Def.State where
  | parsed
  | checked
  | failed
deriving DecidableEq, Repr, Inhabited

/-- A named definition of a file. -/
structure Def where
  name : String
  /-- The file that holds the definition. -/
  file : String
  /-- The whole text of the file when it was parsed. -/
  source : String
  /-- The place of the defined name. -/
  origin : Span
  /-- The place of the whole item. -/
  extent : Span
  body : Def.Body
  state : Def.State := .parsed

/-! ## Names a definition mentions -/

mutual

/-- The names used in a term that are not among `locals`, in order of use. -/
def Term.mentions (locals : List String) : Term → List String
  | .ref ident => free locals ident.name
  | .app func args _ => free locals func.name ++ Term.mentionsArgs locals args
  | .case scrutinee branches _ =>
    free locals scrutinee.name ++ Term.mentionsBranches locals branches
where
  /-- The name itself unless it is local. -/
  free (locals : List String) (name : String) : List String :=
    if name ∈ locals then [] else [name]

/-- `Term.mentions` for the arguments of a call. -/
def Term.mentionsArgs (locals : List String) : List Term → List String
  | [] => []
  | arg :: rest => arg.mentions locals ++ Term.mentionsArgs locals rest

/-- `Term.mentions` for the bodies of the arms of a case distinction. -/
def Term.mentionsBranches (locals : List String) : List (Branch Term) → List String
  | [] => []
  | ⟨_, body⟩ :: rest => body.mentions locals ++ Term.mentionsBranches locals rest

end

namespace Def

/-- The parameters of a function or the fields of a constructor. -/
def params (definition : Def) : List Param :=
  match definition.body with
  | .type _ => []
  | .ctor _ fields => fields
  | .func params _ _ => params

/-- The names a definition mentions, with repetitions and its own. -/
def mentions (definition : Def) : List String :=
  match definition.body with
  | .type ctors => ctors
  | .ctor owner fields => owner.name :: fields.map (·.type.name)
  | .func params ret body =>
    params.map (·.type.name) ++ ret.name :: body.mentions (params.map (·.name.name))

/-- The names other than its own that have to be resolved to check a
definition. Parameters are not among them. -/
def references (definition : Def) : NameSet :=
  (NameSet.ofList definition.mentions).erase definition.name

/-! ## Presentation -/

/-- A parameter as shown to the reader. -/
def showParam (param : Param) : String :=
  param.name.name ++ ": " ++ param.type.name

/-- A parameter list in parentheses. -/
def showParams (params : List Param) : String :=
  "(" ++ ", ".intercalate (params.map showParam) ++ ")"

/-- The part of a qualified name after its last dot. -/
def shortName (name : String) : String :=
  String.ofList (name.toList.reverse.takeWhile (· != '.')).reverse

/-- The type of the parameter or field `name`, as shown on hover. -/
def binder? (definition : Def) (name : String) : Option String :=
  (definition.params.find? (·.name.name == name)).map showParam

/-- The one-line summary of a definition. -/
def signature (definition : Def) : String :=
  match definition.body with
  | .type ctors =>
    let listed := ",".intercalate (ctors.map (fun ctor => " " ++ shortName ctor))
    "type " ++ definition.name ++ " \x7b" ++ listed ++ " \x7d"
  | .ctor owner [] => definition.name ++ ": " ++ owner.name
  | .ctor owner fields => definition.name ++ showParams fields ++ ": " ++ owner.name
  | .func params ret _ => definition.name ++ showParams params ++ ": " ++ ret.name

end Def

end LiveCheck
