import LiveCheck.Language.Typing

/-!
What it means for a definition to be well typed.

The rules do not mention scopes, errors or expected types: a term has a type under some
local bindings (`HasType`), and a definition is well typed if its annotations name types
and its body has the type it declares (`WellTyped`). Each lookup that the checker makes is
one of the conditions of a rule.
-/

namespace LiveCheck

/-! ## Local bindings -/

namespace Scope

/-- The bindings of a scope, innermost and newest first. -/
def locals (scope : Scope) : List (String × String) := scope.frames.flatten

theorem lookup_eq_locals (scope : Scope) (name : String) :
    scope.lookup name = scope.locals.lookup name := by
  obtain ⟨frames⟩ := scope
  rw [lookup, locals]
  induction frames with
  | nil => rfl
  | cons frame outer ih =>
      rw [List.findSome?_cons, List.flatten_cons, List.lookup_append, ih]
      cases frame.lookup name <;> rfl

theorem locals_insert (scope : Scope) (name type : String) :
    (scope.insert name type).locals = (name, type) :: scope.locals := by
  obtain ⟨frames⟩ := scope
  cases frames <;> rfl

theorem locals_insertAll (scope : Scope) (bindings : List (String × String)) :
    (scope.insertAll bindings).locals = bindings.reverse ++ scope.locals := by
  induction bindings generalizing scope with
  | nil => rfl
  | cons first rest ih =>
      show ((scope.insert first.1 first.2).insertAll rest).locals = _
      rw [ih, locals_insert, List.reverse_cons, List.append_assoc]
      rfl

end Scope

namespace Typing

/-! ## The rules -/

/-- What `name` is defined as. -/
def body? (globals : Globals) (name : String) : Option Def.Body := (globals name).map Def.body

/-- `type` is declared by a type definition. -/
def IsType (globals : Globals) (type : String) : Prop :=
  ∃ ctors, body? globals type = some (.type ctors)

/-- `short` is a constructor of `type` with the given fields. -/
def IsConstructor (globals : Globals) (type short : String) (fields : List Param) : Prop :=
  ∃ owner, body? globals (type ++ "." ++ short) = some (.ctor owner fields) ∧ owner.name = type

/-- `name` is a function or a constructor, with the types of what it takes and gives. -/
inductive Callable (globals : Globals) (name : String) : List String → String → Prop where
  | func {params : List Param} {ret : Ident} {body : Term}
      (defined : body? globals name = some (.func params ret body)) :
      Callable globals name (params.map (·.type.name)) ret.name
  | ctor {owner : Ident} {fields : List Param}
      (defined : body? globals name = some (.ctor owner fields)) :
      Callable globals name (fields.map (·.type.name)) owner.name

/-- A name has the type of its innermost binding. A name that is not bound has the type of
the function or constructor of that name, if that takes nothing. -/
inductive NameHasType (globals : Globals) (locals : List (String × String)) (name : String) :
    String → Prop where
  | bound {type : String} (bound : locals.lookup name = some type) :
      NameHasType globals locals name type
  | global {type : String} (unbound : locals.lookup name = none)
      (callable : Callable globals name [] type) : NameHasType globals locals name type

/-- The bindings in the arm of a case distinction on `name`, for a constructor with the
given fields. -/
def armLocals (name : String) (fields : List Param) (locals : List (String × String)) :
    List (String × String) :=
  (fields.map fun field => (name ++ "." ++ field.name.name, field.type.name)).reverse ++ locals

/-- A term has a type. -/
inductive HasType (globals : Globals) : List (String × String) → Term → String → Prop where
  | name {locals : List (String × String)} {ident : Ident} {type : String}
      (typed : NameHasType globals locals ident.name type) :
      HasType globals locals (.ref ident) type
  /-- A bare name that is bound nowhere stands for a constructor of the type. -/
  | constant {locals : List (String × String)} {ident : Ident} {type : String}
      (unbound : locals.lookup ident.name = none) (undefined : globals ident.name = none)
      (constructs : IsConstructor globals type ident.name []) :
      HasType globals locals (.ref ident) type
  | app {locals : List (String × String)} {func : Ident} {args : List Term} {span : Span}
      {params : List String} {type : String} (unbound : locals.lookup func.name = none)
      (callable : Callable globals func.name params type) (count : params.length = args.length)
      (typed : ∀ pair ∈ args.zip params, HasType globals locals pair.1 pair.2) :
      HasType globals locals (.app func args span) type
  | case {locals : List (String × String)} {scrutinee : Ident} {branches : List (Branch Term)}
      {span : Span} {distinguished type : String}
      (scrutinized : NameHasType globals locals scrutinee.name distinguished)
      (declared : IsType globals distinguished)
      (constructors : ∀ branch ∈ branches, ∃ fields,
        IsConstructor globals distinguished branch.ctor.name fields)
      (complete : ∀ short fields, IsConstructor globals distinguished short fields →
        ∃ branch ∈ branches, branch.ctor.name = short)
      (typed : ∀ branch ∈ branches, ∀ fields,
        IsConstructor globals distinguished branch.ctor.name fields →
          HasType globals (armLocals scrutinee.name fields locals) branch.body type) :
      HasType globals locals (.case scrutinee branches span) type

/-- The annotations of a definition. -/
def annotations : Def.Body → List Ident
  | .type _ => []
  | .ctor _ fields => fields.map (·.type)
  | .func params ret _ => params.map (·.type) ++ [ret]

/-- The bindings of the parameters of a function. -/
def paramLocals (params : List Param) : List (String × String) :=
  (params.map fun param => (param.name.name, param.type.name)).reverse

/-- The annotations name types, and a function's body has the type it declares. -/
structure WellTyped (globals : Globals) (definition : Def) : Prop where
  annotations : ∀ type ∈ annotations definition.body, IsType globals type.name
  body : ∀ params ret body, definition.body = .func params ret body →
    HasType globals (paramLocals params) body ret.name

/-! ## Lookups -/

section Lookups

variable {globals : Globals} {scope : Scope}

theorem annotationErrors_eq_nil {type : Ident} :
    annotationErrors globals type = [] ↔ IsType globals type.name := by
  unfold annotationErrors IsType body?
  cases globals type.name with
  | none => simp
  | some definition => cases body : definition.body <;> simp [body]

theorem meaning_eq_callable {name ret : String} {params : List String} :
    meaning globals name = .callable ⟨params, ret⟩ ↔ Callable globals name params ret := by
  constructor
  · intro means
    unfold meaning at means
    cases found : globals name with
    | none =>
        rw [found] at means
        cases means
    | some definition =>
        have defined : body? globals name = some definition.body := by
          rw [body?, found, Option.map_some]
        rw [found] at means
        cases body : definition.body with
        | type ctors =>
            simp only [body] at means
            cases means
        | ctor owner fields =>
            simp only [body] at means
            cases means
            exact .ctor (body ▸ defined)
        | func params ret term =>
            simp only [body] at means
            cases means
            exact .func (body ▸ defined)
  · intro callable
    unfold meaning
    cases callable with
    | func defined =>
        obtain ⟨definition, found, body⟩ := Option.map_eq_some_iff.1 defined
        simp only [found, body]
    | ctor defined =>
        obtain ⟨definition, found, body⟩ := Option.map_eq_some_iff.1 defined
        simp only [found, body]

theorem Callable.isSome {name ret : String} {params : List String}
    (callable : Callable globals name params ret) : (globals name).isSome = true := by
  cases callable with
  | func defined =>
      obtain ⟨definition, found, -⟩ := Option.map_eq_some_iff.1 defined
      rw [found]
      rfl
  | ctor defined =>
      obtain ⟨definition, found, -⟩ := Option.map_eq_some_iff.1 defined
      rw [found]
      rfl

theorem inferRef_eq_ok {ident : Ident} {type : String} :
    inferRef globals scope ident = .ok type ↔
      NameHasType globals scope.locals ident.name type := by
  unfold inferRef
  rw [Scope.lookup_eq_locals]
  cases bound : scope.locals.lookup ident.name with
  | some other =>
      constructor
      · intro inferred
        cases inferred
        exact .bound bound
      · intro typed
        cases typed with
        | bound found => rw [Option.some_inj.1 (bound.symm.trans found)]
        | global unbound =>
            rw [bound] at unbound
            cases unbound
  | none =>
      have global : NameHasType globals scope.locals ident.name type ↔
          meaning globals ident.name = .callable ⟨[], type⟩ := by
        rw [meaning_eq_callable]
        constructor
        · intro typed
          cases typed with
          | bound found =>
              rw [bound] at found
              cases found
          | global _ callable => exact callable
        · exact .global bound
      rw [global]
      cases meaning globals ident.name with
      | undefined => simp
      | type => simp
      | callable callable =>
          obtain ⟨params, ret⟩ := callable
          cases params <;> simp

theorem callee_eq_ok {func : Ident} {params : List String} {ret : String} :
    callee globals scope func = .ok ⟨params, ret⟩ ↔
      scope.locals.lookup func.name = none ∧ Callable globals func.name params ret := by
  unfold callee
  rw [Scope.lookup_eq_locals, ← meaning_eq_callable]
  cases scope.locals.lookup func.name with
  | some other => simp
  | none => cases meaning globals func.name <;> simp

theorem isConstant_eq_true {type name : String} :
    isConstant globals type name = true ↔
      ∃ owner, body? globals (type ++ "." ++ name) = some (.ctor owner []) := by
  unfold isConstant body?
  cases globals (type ++ "." ++ name) with
  | none => simp
  | some definition =>
      cases body : definition.body with
      | type ctors => simp [body]
      | func params ret term => simp [body]
      | ctor owner fields => cases fields <;> simp [body]

theorem compare_eq_nil {span : Span} {expected detected : String} :
    compare scope span expected detected = [] ↔ detected = expected := by
  unfold compare
  split <;> simp_all

theorem checkArity_eq_nil {span : Span} {name : String} {expected found : Nat} :
    checkArity span name expected found = [] ↔ expected = found := by
  unfold checkArity
  split <;> simp_all

end Lookups

end Typing

end LiveCheck
