/-!
Local names and their types while a definition is checked.

A scope is a stack of frames, the innermost first; a frame lists its bindings,
the newest first. The newest binding of a name hides all others. `Scope.context`
lists the visible bindings for a reader: outermost frame first, in the order in
which they were made.
-/

namespace LiveCheck

/-- Nested local bindings of names to type names. -/
structure Scope where
  frames : List (List (String × String))
deriving DecidableEq, Repr, Inhabited

namespace Scope

/-- One frame without bindings. -/
def empty : Scope := ⟨[[]]⟩

/-- Open a frame inside this scope. -/
def child (scope : Scope) : Scope :=
  ⟨[] :: scope.frames⟩

/-- Bind `name` in the innermost frame. -/
def insert (scope : Scope) (name type : String) : Scope :=
  match scope.frames with
  | [] => ⟨[[(name, type)]]⟩
  | frame :: outer => ⟨((name, type) :: frame) :: outer⟩

/-- Bind several names, in order. -/
def insertAll (scope : Scope) (bindings : List (String × String)) : Scope :=
  bindings.foldl (fun scope binding => scope.insert binding.1 binding.2) scope

/-- The type of the visible binding of `name`. -/
def lookup (scope : Scope) (name : String) : Option String :=
  scope.frames.findSome? (·.lookup name)

/-- List one more binding after those listed, dropping one that it hides. -/
def list (binding : String × String) (listed : List (String × String)) : List (String × String) :=
  listed.filter (·.1 != binding.1) ++ [binding]

/-- Every visible binding, outermost first. -/
def context (scope : Scope) : List (String × String) :=
  scope.frames.foldr (fun frame listed => frame.foldr list listed) []

end Scope

end LiveCheck
