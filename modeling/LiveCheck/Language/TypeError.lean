import LiveCheck.Span

/-!
What can be wrong with a definition.

The messages are shown in the editor as they are: each ends with a line feed, and
a longer one keeps one fact to a line.
-/

namespace LiveCheck

/-- An error of a definition, with its place. -/
inductive TypeError where
  /-- The name is bound nowhere. -/
  | undefined (span : Span) (name : String)
  /-- A term has another type than its place asks for. -/
  | mismatch (span : Span) (expected detected : String) (context : List (String × String))
  /-- A call with the wrong number of arguments. -/
  | arity (span : Span) (name : String) (expected found : Nat)
  /-- A function or constructor with parameters, used without a call. -/
  | missingArguments (span : Span) (name : String) (expected : Nat)
  /-- A call of something that takes no arguments. -/
  | notAFunction (span : Span) (name : String)
  /-- A type annotation that names no type. -/
  | notAType (span : Span) (name : String)
  /-- A type where a term is asked for. -/
  | notATerm (span : Span) (name : String)
  /-- An arm for something that is no constructor of the type distinguished. -/
  | notAConstructor (span : Span) (type name : String)
  /-- A case distinction without arms for some constructors. -/
  | incompleteCase (span : Span) (missing : List String)
deriving DecidableEq, Repr, Inhabited

namespace TypeError

/-- The place of an error. -/
def span : TypeError → Span
  | .undefined span _ => span
  | .mismatch span _ _ _ => span
  | .arity span _ _ _ => span
  | .missingArguments span _ _ => span
  | .notAFunction span _ => span
  | .notAType span _ => span
  | .notATerm span _ => span
  | .notAConstructor span _ _ => span
  | .incompleteCase span _ => span

/-- The bindings in view of a mismatch, one to a line. -/
def showContext : List (String × String) → String
  | [] => ""
  | context =>
    "With context:\n" ++ String.join (context.map fun (name, type) =>
      "- " ++ name ++ ": " ++ type ++ "\n")

/-- The text of an error. -/
def message : TypeError → String
  | .undefined _ name => "Undefined reference: " ++ name ++ "\n"
  | .mismatch _ expected detected context =>
    "Type mismatch.\n- Expected: " ++ expected ++ "\n- Detected: " ++ detected ++ "\n" ++
      showContext context
  | .arity _ name expected found =>
    "Wrong number of arguments for " ++ name ++ ": expected " ++ toString expected ++
      ", found " ++ toString found ++ ".\n"
  | .missingArguments _ name expected =>
    "Missing arguments for " ++ name ++ ": expected " ++ toString expected ++ ".\n"
  | .notAFunction _ name => "Not a function: " ++ name ++ "\n"
  | .notAType _ name => "Not a type: " ++ name ++ "\n"
  | .notATerm _ name => "Not a term: " ++ name ++ "\n"
  | .notAConstructor _ type name => "Not a constructor of " ++ type ++ ": " ++ name ++ "\n"
  | .incompleteCase _ missing => "Incomplete case: missing " ++ ", ".intercalate missing ++ ".\n"

end TypeError

end LiveCheck
