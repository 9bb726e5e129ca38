import LiveCheck.Language.Definition
import LiveCheck.Language.Scope
import LiveCheck.Language.TypeError

/-!
Type checking.

A definition is checked against the signatures of the definitions it mentions;
types are compared by name. A term whose place asks for a type is checked against
it (`Typing.check`), any other term has its type inferred (`Typing.infer`). A bare
name that is bound nowhere is read as a constructor of the type asked for, so that
`false` stands for `Bool.false` where a `Bool` belongs.

Both functions recurse on the term alone and see the other definitions only
through a lookup function.
-/

namespace LiveCheck

/-- The definitions in view, by name. -/
abbrev Globals := String → Option Def

/-- What a call needs to know: the types of the parameters and of the result. -/
structure CallType where
  params : List String
  ret : String
deriving DecidableEq, Repr, Inhabited

/-- What a global name is in a term. -/
inductive Meaning where
  | undefined
  | type
  | callable (callable : CallType)

/-- A constructor of a type under its short name, with its fields and their types. -/
structure Variant where
  name : String
  fields : List (String × String)
deriving DecidableEq, Repr, Inhabited

/-- The type of the name a case distinction is on, with its constructors. -/
structure Scrutinee where
  type : String
  variants : List Variant
deriving DecidableEq, Repr, Inhabited

namespace Typing

/-! ## Names -/

/-- What `name` means where a term is asked for. -/
def meaning (globals : Globals) (name : String) : Meaning :=
  match globals name with
  | none => .undefined
  | some definition =>
    match definition.body with
    | .type _ => .type
    | .ctor owner fields => .callable ⟨fields.map (·.type.name), owner.name⟩
    | .func params ret _ => .callable ⟨params.map (·.type.name), ret.name⟩

/-- The errors of a type annotation. -/
def annotationErrors (globals : Globals) (type : Ident) : List TypeError :=
  match globals type.name with
  | none => [.undefined type.span type.name]
  | some definition =>
    match definition.body with
    | .type _ => []
    | _ => [.notAType type.span type.name]

/-- The type of a name used as a term. A local name hides a global one. -/
def inferRef (globals : Globals) (scope : Scope) (ident : Ident) : Except TypeError String :=
  match scope.lookup ident.name with
  | some type => .ok type
  | none =>
    match meaning globals ident.name with
    | .callable ⟨[], ret⟩ => .ok ret
    | .callable ⟨params, _⟩ => .error (.missingArguments ident.span ident.name params.length)
    | .type => .error (.notATerm ident.span ident.name)
    | .undefined => .error (.undefined ident.span ident.name)

/-- The signature of the function or constructor that a call names. -/
def callee (globals : Globals) (scope : Scope) (func : Ident) : Except TypeError CallType :=
  match scope.lookup func.name with
  | some _ => .error (.notAFunction func.span func.name)
  | none =>
    match meaning globals func.name with
    | .callable callable => .ok callable
    | .type => .error (.notAFunction func.span func.name)
    | .undefined => .error (.undefined func.span func.name)

/-- Whether `name` is a constructor without fields of the type `type`. -/
def isConstant (globals : Globals) (type name : String) : Bool :=
  match globals (type ++ "." ++ name) with
  | some definition =>
    match definition.body with
    | .ctor _ [] => true
    | _ => false
  | none => false

/-- The error, if any, of finding `detected` where `expected` is asked for. -/
def compare (scope : Scope) (span : Span) (expected detected : String) : List TypeError :=
  if detected = expected then [] else [.mismatch span expected detected scope.context]

/-- The errors of a name where a type is asked for. -/
def checkRef (globals : Globals) (scope : Scope) (expected : String) (ident : Ident) :
    List TypeError :=
  if (scope.lookup ident.name).isNone && (globals ident.name).isNone then
    if isConstant globals expected ident.name then []
    else [.undefined ident.span ident.name]
  else
    match inferRef globals scope ident with
    | .ok detected => compare scope ident.span expected detected
    | .error error => [error]

/-- The error, if any, of the number of arguments of a call. -/
def checkArity (span : Span) (name : String) (expected found : Nat) : List TypeError :=
  if expected = found then [] else [.arity span name expected found]

/-! ## Case distinctions -/

/-- What follows `stem` in a text that begins with it. -/
def dropStem? : (stem text : List Char) → Option (List Char)
  | [], text => some text
  | _ :: _, [] => none
  | a :: stem, b :: text => if a = b then dropStem? stem text else none

/-- The name of a constructor inside its type: without the type and the dot, if it
has them in front. -/
def variantName (type ctor : String) : String :=
  match dropStem? (type ++ ".").toList ctor.toList with
  | some short => String.ofList short
  | none => ctor

/-- A constructor of `type` with its fields. -/
def variant (globals : Globals) (type ctor : String) : Variant :=
  let fields := match globals ctor with
    | some definition =>
      match definition.body with
      | .ctor _ fields => fields.map fun field => (field.name.name, field.type.name)
      | _ => []
    | none => []
  ⟨variantName type ctor, fields⟩

/-- The type a case distinction is on. There is none if the name has no type,
which is an error, or if its type is not defined, which its annotation reports. -/
def scrutinize (globals : Globals) (scope : Scope) (ident : Ident) :
    List TypeError × Option Scrutinee :=
  match inferRef globals scope ident with
  | .error error => ([error], none)
  | .ok type =>
    match globals type with
    | some definition =>
      match definition.body with
      | .type ctors => ([], some ⟨type, ctors.map (variant globals type)⟩)
      | _ => ([], none)
    | none => ([], none)

/-- Enter the arm for `ctor`: the error if there is no such constructor, and the
scope of the body, where `x.field` is bound for each field of the constructor. -/
def enter (scope : Scope) (name : String) (scrutinee : Option Scrutinee) (ctor : Ident) :
    List TypeError × Scope :=
  match scrutinee with
  | none => ([], scope)
  | some scrutinee =>
    match scrutinee.variants.find? (·.name == ctor.name) with
    | some variant =>
      ([], scope.child.insertAll
        (variant.fields.map fun field => (name ++ "." ++ field.1, field.2)))
    | none => ([.notAConstructor ctor.span scrutinee.type ctor.name], scope.child)

/-- The error, if any, of constructors without an arm. -/
def checkComplete (span : Span) (scrutinee : Option Scrutinee) (branches : List (Branch Term)) :
    List TypeError :=
  match scrutinee with
  | none => []
  | some scrutinee =>
    match (scrutinee.variants.map (·.name)).filter
        (fun name => !branches.any (·.ctor.name == name)) with
    | [] => []
    | missing => [.incompleteCase span missing]

/-! ## Terms -/

mutual

/-- The errors of a term where the type `expected` is asked for. -/
def check (globals : Globals) (scope : Scope) (expected : String) : Term → List TypeError
  | .ref ident => checkRef globals scope expected ident
  | .app func args span =>
    match callee globals scope func with
    | .error error => error :: inferArgs globals scope args
    | .ok callable =>
      checkArity span func.name callable.params.length args.length ++
        checkArgs globals scope callable.params args ++
        compare scope span expected callable.ret
  | .case name branches span =>
    let scrutinee := scrutinize globals scope name
    scrutinee.1 ++ checkBranches globals scope expected name.name scrutinee.2 branches ++
      checkComplete span scrutinee.2 branches

/-- The errors of a term and its type, if it has one. The type of a case
distinction is that of its first arm; all arms are then checked against it. -/
def infer (globals : Globals) (scope : Scope) : Term → List TypeError × Option String
  | .ref ident =>
    match inferRef globals scope ident with
    | .ok type => ([], some type)
    | .error error => ([error], none)
  | .app func args span =>
    match callee globals scope func with
    | .error error => (error :: inferArgs globals scope args, none)
    | .ok callable =>
      (checkArity span func.name callable.params.length args.length ++
        checkArgs globals scope callable.params args, some callable.ret)
  | .case name branches span =>
    match inferFirst globals scope branches with
    | none => ([], none)
    | some type =>
      let scrutinee := scrutinize globals scope name
      (scrutinee.1 ++ checkBranches globals scope type name.name scrutinee.2 branches ++
        checkComplete span scrutinee.2 branches, some type)

/-- The type of the first arm, if it has one. -/
def inferFirst (globals : Globals) (scope : Scope) : List (Branch Term) → Option String
  | [] => none
  | ⟨_, body⟩ :: _ => (infer globals scope body).2

/-- The errors of arguments nothing is known about. -/
def inferArgs (globals : Globals) (scope : Scope) : List Term → List TypeError
  | [] => []
  | arg :: rest => (infer globals scope arg).1 ++ inferArgs globals scope rest

/-- The errors of arguments against the types of the parameters. -/
def checkArgs (globals : Globals) (scope : Scope) (params : List String) :
    List Term → List TypeError
  | [] => []
  | arg :: rest =>
    (match params with
      | [] => (infer globals scope arg).1
      | param :: _ => check globals scope param arg) ++
      checkArgs globals scope params.tail rest

/-- The errors of the arms of a case distinction on `name`. -/
def checkBranches (globals : Globals) (scope : Scope) (expected name : String)
    (scrutinee : Option Scrutinee) : List (Branch Term) → List TypeError
  | [] => []
  | ⟨ctor, body⟩ :: rest =>
    let entered := enter scope name scrutinee ctor
    entered.1 ++ check globals entered.2 expected body ++
      checkBranches globals scope expected name scrutinee rest

end

/-! ## Definitions -/

/-- The scope of a function's body. -/
def paramScope (params : List Param) : Scope :=
  Scope.empty.insertAll (params.map fun param => (param.name.name, param.type.name))

/-- Every error of a definition, in source order. -/
def definitionErrors (globals : Globals) (definition : Def) : List TypeError :=
  match definition.body with
  | .type _ => []
  | .ctor _ fields => fields.flatMap fun field => annotationErrors globals field.type
  | .func params ret body =>
    params.flatMap (fun param => annotationErrors globals param.type) ++
      annotationErrors globals ret ++ check globals (paramScope params) ret.name body

/-- A definition after checking, with its errors. -/
def judge (globals : Globals) (definition : Def) : Def × List TypeError :=
  let errors := definitionErrors globals definition
  ({ definition with state := if errors.isEmpty then .checked else .failed }, errors)

/-- Check the definitions with the given names, in order; names without a
definition are passed over. -/
def judgeAll (names : List String) (globals : Globals) : List (Def × List TypeError) :=
  (names.filterMap globals).map (judge globals)

end Typing

end LiveCheck
