import LiveCheck.Language.Typing
import Mathlib.Data.List.Basic

/-!
How the check goes through a term.

A term is checked against a type, or its type is inferred if none is asked for. Either way
the same parts are looked at (`examine`): the head of a call, its arguments, each against the
type of its parameter if there is one, and its result; the name of a case distinction, its
arms, and whether they are all there. One thing only is different: where no type is asked
for, a case distinction whose first arm has no type is not looked at (`examine_case`).
-/

namespace LiveCheck

namespace Typing

/-- The errors of a term where the type `asked` is asked for, if any. -/
def examine (globals : Globals) (scope : Scope) (asked : Option String) (term : Term) :
    List TypeError :=
  match asked with
  | some expected => check globals scope expected term
  | none => (infer globals scope term).1

/-- The types that a call asks of its arguments, in order: those of the parameters, or none
if the head cannot be called. -/
def argTypes (globals : Globals) (scope : Scope) (func : Ident) : List String :=
  match callee globals scope func with
  | .ok callable => callable.params
  | .error _ => []

/-- The error, if any, of the head of a call or of the number of its arguments. -/
def callErrors (globals : Globals) (scope : Scope) (func : Ident) (args : List Term)
    (span : Span) : List TypeError :=
  match callee globals scope func with
  | .ok callable => checkArity span func.name callable.params.length args.length
  | .error error => [error]

/-- The error, if any, of what a call gives. -/
def resultErrors (globals : Globals) (scope : Scope) (asked : Option String) (func : Ident)
    (span : Span) : List TypeError :=
  match callee globals scope func, asked with
  | .ok callable, some expected => compare scope span expected callable.ret
  | _, _ => []

/-- The type that the arms of a case distinction are checked against: the one asked for, or
else that of the first arm, if it has one. -/
def armType (globals : Globals) (scope : Scope) (asked : Option String)
    (branches : List (Branch Term)) : Option String :=
  asked.or (inferFirst globals scope branches)

/-- The errors of one arm of a case distinction on `name`. -/
def armErrors (globals : Globals) (scope : Scope) (type name : String)
    (scrutinee : Option Scrutinee) (branch : Branch Term) : List TypeError :=
  (enter scope name scrutinee branch.ctor).1 ++
    check globals (enter scope name scrutinee branch.ctor).2 type branch.body

variable {globals : Globals} {scope : Scope} {asked : Option String} {error : TypeError}

/-! ## Calls -/

theorem checkArgs_cons (params : List String) (arg : Term) (rest : List Term) :
    checkArgs globals scope params (arg :: rest) =
      examine globals scope params.head? arg ++ checkArgs globals scope params.tail rest := by
  cases params <;> rfl

/-- Arguments nothing is known about are those that no type is asked of. -/
theorem inferArgs_eq (args : List Term) :
    inferArgs globals scope args = checkArgs globals scope [] args := by
  induction args with
  | nil => rfl
  | cons arg rest ih => rw [inferArgs, ih, checkArgs_cons]; rfl

theorem mem_checkArgs {params : List String} {args : List Term} :
    error ∈ checkArgs globals scope params args ↔
      ∃ (i : Nat) (arg : Term), args[i]? = some arg ∧
        error ∈ examine globals scope params[i]? arg := by
  induction args generalizing params with
  | nil => simp [checkArgs]
  | cons arg rest ih =>
      rw [checkArgs_cons, List.mem_append, ih, List.head?_eq_getElem?]
      simp only [List.getElem?_tail]
      constructor
      · rintro (mem | ⟨i, other, found, mem⟩)
        · exact ⟨0, arg, rfl, mem⟩
        · exact ⟨i + 1, other, found, mem⟩
      · rintro ⟨i, other, found, mem⟩
        cases i with
        | zero =>
            cases found
            exact Or.inl mem
        | succ i => exact Or.inr ⟨i, other, found, mem⟩

theorem examine_app (func : Ident) (args : List Term) (span : Span) :
    examine globals scope asked (.app func args span) =
      callErrors globals scope func args span ++
        checkArgs globals scope (argTypes globals scope func) args ++
        resultErrors globals scope asked func span := by
  unfold callErrors argTypes resultErrors
  cases asked with
  | none =>
      rw [examine, infer]
      cases callee globals scope func with
      | error error => simp [inferArgs_eq]
      | ok callable => simp
  | some expected =>
      rw [examine, check]
      cases callee globals scope func with
      | error error => simp [inferArgs_eq]
      | ok callable => rfl

/-! ## Case distinctions -/

theorem checkBranches_eq (type name : String) (scrutinee : Option Scrutinee)
    (branches : List (Branch Term)) :
    checkBranches globals scope type name scrutinee branches =
      branches.flatMap (armErrors globals scope type name scrutinee) := by
  induction branches with
  | nil => rfl
  | cons branch rest ih => rw [checkBranches, ih, List.flatMap_cons, armErrors]

theorem examine_case (name : Ident) (branches : List (Branch Term)) (span : Span) :
    examine globals scope asked (.case name branches span) =
      match armType globals scope asked branches with
      | none => []
      | some type =>
        (scrutinize globals scope name).1 ++
          branches.flatMap (armErrors globals scope type name.name
            (scrutinize globals scope name).2) ++
          checkComplete span (scrutinize globals scope name).2 branches := by
  unfold armType
  cases asked with
  | some expected => rw [examine, check, checkBranches_eq, Option.some_or]
  | none =>
      rw [examine, infer, Option.none_or]
      cases inferFirst globals scope branches with
      | none => rfl
      | some type => simp only [checkBranches_eq]

end Typing

end LiveCheck
