import LiveCheck.Language.Engine
import LiveCheck.Proofs.Table
import Mathlib

/-!
Which global names the check of a definition reads.

Some names are read because they stand in the definition; these are its
references. Others are read because a type led to them (`Typing.byType`): the type
of a name that is distinguished by cases, the constructors of that type, and the
constructor `Expected.name` for a bare name that is bound nowhere. Two global
tables that agree on both give the same errors (`definitionErrors_eq_of_agree`); agreeing
on the references alone is not enough (`references_are_not_enough`).
-/

namespace LiveCheck

/-! ## Scopes that bind a name -/

namespace Scope

theorem lookup_insert (scope : Scope) (name type other : String) :
    (scope.insert name type).lookup other =
      if other = name then some type else scope.lookup other := by
  obtain ⟨frames⟩ := scope
  by_cases eq : other = name
  · subst eq
    cases frames <;> simp [insert, lookup]
  · have differs : (other == name) = false := beq_eq_false_iff_ne.2 eq
    rw [if_neg eq]
    cases frames with
    | nil => simp [insert, lookup, List.lookup_cons, differs]
    | cons frame outer =>
        simp only [insert, lookup, List.findSome?_cons, List.lookup_cons, differs]

theorem isSome_lookup_insert {scope : Scope} {name : String}
    (bound : (scope.lookup name).isSome = true) (other type : String) :
    ((scope.insert other type).lookup name).isSome = true := by
  rw [lookup_insert]
  split
  · rfl
  · exact bound

theorem isSome_lookup_insertAll {scope : Scope} {name : String}
    (bound : (scope.lookup name).isSome = true) (bindings : List (String × String)) :
    ((scope.insertAll bindings).lookup name).isSome = true := by
  induction bindings generalizing scope with
  | nil => exact bound
  | cons first rest ih => exact ih (isSome_lookup_insert bound first.1 first.2)

theorem isSome_lookup_insertAll_of_mem (scope : Scope) {name : String}
    {bindings : List (String × String)} (mem : name ∈ bindings.map (·.1)) :
    ((scope.insertAll bindings).lookup name).isSome = true := by
  induction bindings generalizing scope with
  | nil => cases mem
  | cons first rest ih =>
      rw [List.map_cons, List.mem_cons] at mem
      rcases mem with rfl | mem
      · have bound : ((scope.insert first.1 first.2).lookup first.1).isSome = true := by
          rw [lookup_insert, if_pos rfl]
          rfl
        exact isSome_lookup_insertAll bound rest
      · exact ih (scope.insert first.1 first.2) mem

end Scope

namespace Typing

/-- Every name in `locals` is bound in `scope`. -/
def Binds (scope : Scope) (locals : List String) : Prop :=
  ∀ name ∈ locals, (scope.lookup name).isSome = true

theorem Binds.enter {scope : Scope} {locals : List String} (binds : Binds scope locals)
    (name : String) (scrutinee : Option Scrutinee) (ctor : Ident) :
    Binds (enter scope name scrutinee ctor).2 locals := by
  intro bound mem
  unfold Typing.enter
  cases scrutinee with
  | none => exact binds bound mem
  | some scrutinee =>
      dsimp only
      split
      · apply Scope.isSome_lookup_insertAll
        exact binds bound mem
      · exact binds bound mem

theorem binds_paramScope (params : List Param) :
    Binds (paramScope params) (params.map (·.name.name)) := by
  intro name mem
  apply Scope.isSome_lookup_insertAll_of_mem
  rwa [List.map_map]

/-! ## The names read by type -/

/-- What a read by type sees of a name: a function and a name that is not defined
look the same. -/
inductive Shape where
  | type (ctors : List String)
  | ctor (fields : List (String × String))
  | other
deriving DecidableEq

/-- What a read of `name` by type sees. -/
def shape (globals : Globals) (name : String) : Shape :=
  match globals name with
  | none => .other
  | some definition =>
    match definition.body with
    | .type ctors => .type ctors
    | .ctor _ fields => .ctor (fields.map fun field => (field.name.name, field.type.name))
    | .func _ _ _ => .other

/-- A type and its constructors. -/
def typeReads (globals : Globals) (type : String) : List String :=
  type ::
    match shape globals type with
    | .type ctors => ctors
    | _ => []

/-- What is read for the name a case distinction is on. -/
def scrutineeReads (globals : Globals) (scope : Scope) (ident : Ident) : List String :=
  match inferRef globals scope ident with
  | .ok type => typeReads globals type
  | .error _ => []

/-- What is read for a name where the type `expected` is asked for. -/
def constantReads (globals : Globals) (scope : Scope) (expected : String) (ident : Ident) :
    List String :=
  if (scope.lookup ident.name).isNone && (globals ident.name).isNone then
    [expected ++ "." ++ ident.name]
  else []

mutual

/-- The names that `check` reads by type. -/
def checkReads (globals : Globals) (scope : Scope) (expected : String) : Term → List String
  | .ref ident => constantReads globals scope expected ident
  | .app func args _ =>
    match callee globals scope func with
    | .error _ => inferArgsReads globals scope args
    | .ok callable => checkArgsReads globals scope callable.params args
  | .case name branches _ =>
    scrutineeReads globals scope name ++
      checkBranchesReads globals scope expected name.name (scrutinize globals scope name).2 branches

/-- The names that `infer` reads by type. -/
def inferReads (globals : Globals) (scope : Scope) : Term → List String
  | .ref _ => []
  | .app func args _ =>
    match callee globals scope func with
    | .error _ => inferArgsReads globals scope args
    | .ok callable => checkArgsReads globals scope callable.params args
  | .case name branches _ =>
    inferFirstReads globals scope branches ++
      match inferFirst globals scope branches with
      | none => []
      | some type =>
        scrutineeReads globals scope name ++
          checkBranchesReads globals scope type name.name (scrutinize globals scope name).2 branches

/-- The names that `inferFirst` reads by type. -/
def inferFirstReads (globals : Globals) (scope : Scope) : List (Branch Term) → List String
  | [] => []
  | ⟨_, body⟩ :: _ => inferReads globals scope body

/-- The names that `inferArgs` reads by type. -/
def inferArgsReads (globals : Globals) (scope : Scope) : List Term → List String
  | [] => []
  | arg :: rest => inferReads globals scope arg ++ inferArgsReads globals scope rest

/-- The names that `checkArgs` reads by type. -/
def checkArgsReads (globals : Globals) (scope : Scope) (params : List String) :
    List Term → List String
  | [] => []
  | arg :: rest =>
    (match params with
      | [] => inferReads globals scope arg
      | param :: _ => checkReads globals scope param arg) ++
      checkArgsReads globals scope params.tail rest

/-- The names that `checkBranches` reads by type. -/
def checkBranchesReads (globals : Globals) (scope : Scope) (expected name : String)
    (scrutinee : Option Scrutinee) : List (Branch Term) → List String
  | [] => []
  | ⟨ctor, body⟩ :: rest =>
    checkReads globals (enter scope name scrutinee ctor).2 expected body ++
      checkBranchesReads globals scope expected name scrutinee rest

end

/-- The names that the check of a definition reads because a type led to them. -/
def byType (globals : Globals) (definition : Def) : List String :=
  match definition.body with
  | .type _ => []
  | .ctor _ _ => []
  | .func params ret body => checkReads globals (paramScope params) ret.name body

/-! ## Agreeing where the check reads -/

/-- Two global tables have the same entries under `names`. -/
def Agree (globals globals' : Globals) (names : List String) : Prop :=
  ∀ name ∈ names, globals name = globals' name

/-- Two global tables look the same to reads of `names` by type. -/
def AgreeByType (globals globals' : Globals) (names : List String) : Prop :=
  ∀ name ∈ names, shape globals name = shape globals' name

section

variable {globals globals' : Globals} {scope : Scope} {locals : List String}

theorem agree_append {names more : List String} :
    Agree globals globals' (names ++ more) ↔
      Agree globals globals' names ∧ Agree globals globals' more :=
  List.forall_mem_append

theorem agreeByType_append {names more : List String} :
    AgreeByType globals globals' (names ++ more) ↔
      AgreeByType globals globals' names ∧ AgreeByType globals globals' more :=
  List.forall_mem_append

/-- A name that no local hides is one of the names mentioned. -/
theorem Binds.agree_of_unbound (binds : Binds scope locals) {name : String}
    (agree : Agree globals globals' (Term.mentions.free locals name))
    (unbound : scope.lookup name = none) : globals name = globals' name := by
  apply agree
  have notLocal : name ∉ locals := by
    intro mem
    have bound := binds name mem
    rw [unbound] at bound
    cases bound
  rw [Term.mentions.free, if_neg notLocal]
  exact List.mem_singleton_self name

theorem meaning_congr {name : String} (same : globals name = globals' name) :
    meaning globals name = meaning globals' name := by
  rw [meaning, meaning, same]

theorem inferRef_congr {ident : Ident}
    (same : scope.lookup ident.name = none → globals ident.name = globals' ident.name) :
    inferRef globals scope ident = inferRef globals' scope ident := by
  unfold inferRef
  cases found : scope.lookup ident.name with
  | some type => rfl
  | none => rw [meaning_congr (same found)]

theorem callee_congr {func : Ident}
    (same : scope.lookup func.name = none → globals func.name = globals' func.name) :
    callee globals scope func = callee globals' scope func := by
  unfold callee
  cases found : scope.lookup func.name with
  | some type => rfl
  | none => rw [meaning_congr (same found)]

theorem annotationErrors_congr {type : Ident}
    (same : globals type.name = globals' type.name) :
    annotationErrors globals type = annotationErrors globals' type := by
  rw [annotationErrors, annotationErrors, same]

/-! ### Reads by type see shapes only -/

theorem isConstant_eq_shape (globals : Globals) (type name : String) :
    isConstant globals type name = decide (shape globals (type ++ "." ++ name) = .ctor []) := by
  unfold isConstant shape
  cases globals (type ++ "." ++ name) with
  | none => rfl
  | some definition =>
      rcases definition with ⟨name, file, source, origin, extent, body, state⟩
      cases body with
      | type ctors => rfl
      | func params ret term => rfl
      | ctor owner fields => cases fields <;> simp

theorem variant_eq_shape (globals : Globals) (type ctor : String) :
    variant globals type ctor = ⟨variantName type ctor,
      match shape globals ctor with
      | .ctor fields => fields
      | _ => []⟩ := by
  unfold variant shape
  cases globals ctor with
  | none => rfl
  | some definition =>
      dsimp only
      cases definition.body <;> rfl

theorem scrutinize_eq_shape (globals : Globals) (scope : Scope) (ident : Ident) :
    scrutinize globals scope ident =
      match inferRef globals scope ident with
      | .error error => ([error], none)
      | .ok type =>
        match shape globals type with
        | .type ctors => ([], some ⟨type, ctors.map (variant globals type)⟩)
        | _ => ([], none) := by
  unfold scrutinize
  cases inferRef globals scope ident with
  | error error => rfl
  | ok type =>
      dsimp only
      unfold shape
      cases globals type with
      | none => rfl
      | some definition =>
          dsimp only
          cases definition.body <;> rfl

theorem checkRef_congr {expected : String} {ident : Ident}
    (same : scope.lookup ident.name = none → globals ident.name = globals' ident.name)
    (reads : AgreeByType globals globals' (constantReads globals scope expected ident)) :
    checkRef globals scope expected ident = checkRef globals' scope expected ident := by
  unfold checkRef
  rw [inferRef_congr same]
  cases found : scope.lookup ident.name with
  | some type => rfl
  | none =>
      rw [← same found]
      cases held : globals ident.name with
      | some definition => rfl
      | none =>
          have read : shape globals (expected ++ "." ++ ident.name) =
              shape globals' (expected ++ "." ++ ident.name) := by
            apply reads
            simp [constantReads, found, held]
          rw [isConstant_eq_shape, isConstant_eq_shape, read]

theorem scrutinize_congr {ident : Ident}
    (same : scope.lookup ident.name = none → globals ident.name = globals' ident.name)
    (reads : AgreeByType globals globals' (scrutineeReads globals scope ident)) :
    scrutinize globals scope ident = scrutinize globals' scope ident := by
  rw [scrutinize_eq_shape, scrutinize_eq_shape, ← inferRef_congr same]
  unfold scrutineeReads at reads
  cases inferred : inferRef globals scope ident with
  | error error => rfl
  | ok type =>
      rw [inferred] at reads
      have type_eq : shape globals type = shape globals' type := reads type List.mem_cons_self
      dsimp only at reads ⊢
      rw [← type_eq]
      cases seen : shape globals type with
      | ctor fields => rfl
      | other => rfl
      | type ctors =>
          have variants : ctors.map (variant globals type) =
              ctors.map (variant globals' type) := by
            apply List.map_congr_left
            intro ctor mem
            have read : shape globals ctor = shape globals' ctor := by
              apply reads
              rw [typeReads, seen]
              exact List.mem_cons_of_mem _ mem
            rw [variant_eq_shape, variant_eq_shape, read]
          dsimp only
          rw [variants]

/-! ### Terms -/

mutual

theorem check_congr {scope : Scope} (binds : Binds scope locals) {expected : String} :
    ∀ {term : Term}, Agree globals globals' (term.mentions locals) →
      AgreeByType globals globals' (checkReads globals scope expected term) →
      check globals scope expected term = check globals' scope expected term
  | .ref ident, mentioned, reads => by
      exact checkRef_congr (binds.agree_of_unbound mentioned) reads
  | .app func args span, mentioned, reads => by
      rw [Term.mentions, agree_append] at mentioned
      rw [check, check, ← callee_congr (binds.agree_of_unbound mentioned.1)]
      rw [checkReads] at reads
      cases called : callee globals scope func with
      | error error =>
          rw [called] at reads
          dsimp only
          rw [inferArgs_congr binds mentioned.2 reads]
      | ok callable =>
          rw [called] at reads
          dsimp only
          rw [checkArgs_congr binds mentioned.2 reads]
  | .case name branches span, mentioned, reads => by
      rw [Term.mentions, agree_append] at mentioned
      rw [checkReads, agreeByType_append] at reads
      rw [check, check, ← scrutinize_congr (binds.agree_of_unbound mentioned.1) reads.1,
        checkBranches_congr binds mentioned.2 reads.2]

theorem infer_congr {scope : Scope} (binds : Binds scope locals) :
    ∀ {term : Term}, Agree globals globals' (term.mentions locals) →
      AgreeByType globals globals' (inferReads globals scope term) →
      infer globals scope term = infer globals' scope term
  | .ref ident, mentioned, _ => by
      rw [infer, infer, inferRef_congr (binds.agree_of_unbound mentioned)]
  | .app func args span, mentioned, reads => by
      rw [Term.mentions, agree_append] at mentioned
      rw [infer, infer, ← callee_congr (binds.agree_of_unbound mentioned.1)]
      rw [inferReads] at reads
      cases called : callee globals scope func with
      | error error =>
          rw [called] at reads
          dsimp only
          rw [inferArgs_congr binds mentioned.2 reads]
      | ok callable =>
          rw [called] at reads
          dsimp only
          rw [checkArgs_congr binds mentioned.2 reads]
  | .case name branches span, mentioned, reads => by
      rw [Term.mentions, agree_append] at mentioned
      rw [inferReads, agreeByType_append] at reads
      obtain ⟨first, rest⟩ := reads
      rw [infer, infer, ← inferFirst_congr binds mentioned.2 first]
      cases inferred : inferFirst globals scope branches with
      | none => rfl
      | some type =>
          rw [inferred, agreeByType_append] at rest
          dsimp only
          rw [← scrutinize_congr (binds.agree_of_unbound mentioned.1) rest.1,
            checkBranches_congr binds mentioned.2 rest.2]

theorem inferFirst_congr {scope : Scope} (binds : Binds scope locals) :
    ∀ {branches : List (Branch Term)},
      Agree globals globals' (Term.mentionsBranches locals branches) →
      AgreeByType globals globals' (inferFirstReads globals scope branches) →
      inferFirst globals scope branches = inferFirst globals' scope branches
  | [], _, _ => rfl
  | ⟨ctor, body⟩ :: rest, mentioned, reads => by
      rw [Term.mentionsBranches, agree_append] at mentioned
      rw [inferFirstReads] at reads
      rw [inferFirst, inferFirst, infer_congr binds mentioned.1 reads]

theorem inferArgs_congr {scope : Scope} (binds : Binds scope locals) :
    ∀ {args : List Term}, Agree globals globals' (Term.mentionsArgs locals args) →
      AgreeByType globals globals' (inferArgsReads globals scope args) →
      inferArgs globals scope args = inferArgs globals' scope args
  | [], _, _ => rfl
  | arg :: rest, mentioned, reads => by
      rw [Term.mentionsArgs, agree_append] at mentioned
      rw [inferArgsReads, agreeByType_append] at reads
      rw [inferArgs, inferArgs, infer_congr binds mentioned.1 reads.1,
        inferArgs_congr binds mentioned.2 reads.2]

theorem checkArgs_congr {scope : Scope} (binds : Binds scope locals) {params : List String} :
    ∀ {args : List Term}, Agree globals globals' (Term.mentionsArgs locals args) →
      AgreeByType globals globals' (checkArgsReads globals scope params args) →
      checkArgs globals scope params args = checkArgs globals' scope params args
  | [], _, _ => rfl
  | arg :: rest, mentioned, reads => by
      rw [Term.mentionsArgs, agree_append] at mentioned
      cases params with
      | nil =>
          rw [checkArgsReads, agreeByType_append] at reads
          rw [checkArgs, checkArgs, infer_congr binds mentioned.1 reads.1,
            checkArgs_congr binds mentioned.2 reads.2]
      | cons param others =>
          rw [checkArgsReads, agreeByType_append] at reads
          rw [checkArgs, checkArgs, check_congr binds mentioned.1 reads.1,
            checkArgs_congr binds mentioned.2 reads.2]

theorem checkBranches_congr {scope : Scope} (binds : Binds scope locals)
    {expected name : String} {scrutinee : Option Scrutinee} :
    ∀ {branches : List (Branch Term)},
      Agree globals globals' (Term.mentionsBranches locals branches) →
      AgreeByType globals globals'
        (checkBranchesReads globals scope expected name scrutinee branches) →
      checkBranches globals scope expected name scrutinee branches =
        checkBranches globals' scope expected name scrutinee branches
  | [], _, _ => rfl
  | ⟨ctor, body⟩ :: rest, mentioned, reads => by
      rw [Term.mentionsBranches, agree_append] at mentioned
      rw [checkBranchesReads, agreeByType_append] at reads
      rw [checkBranches, checkBranches,
        check_congr (binds.enter name scrutinee ctor) mentioned.1 reads.1,
        checkBranches_congr binds mentioned.2 reads.2]

end

/-! ## Definitions -/

theorem mem_references {definition : Def} {name : String} :
    name ∈ definition.references.toList ↔
      name ∈ definition.mentions ∧ name ≠ definition.name := by
  rw [Def.references, NameSet.mem_toList, Table.contains, Table.get?_erase]
  by_cases own : name = definition.name
  · simp [own]
  · rw [if_neg own, ← Table.contains, NameSet.contains_ofList]
    simp [own]

theorem agree_mentions {definition : Def}
    (agree : Agree globals globals' (definition.name :: definition.references.toList)) :
    Agree globals globals' definition.mentions := by
  intro name mem
  by_cases own : name = definition.name
  · exact agree name (own ▸ List.mem_cons_self)
  · exact agree name (List.mem_cons_of_mem _ (mem_references.2 ⟨mem, own⟩))

theorem flatMap_annotationErrors_congr {params : List Param}
    (agree : Agree globals globals' (params.map (·.type.name))) :
    params.flatMap (fun param => annotationErrors globals param.type) =
      params.flatMap (fun param => annotationErrors globals' param.type) := by
  apply List.flatMap_congr
  intro param mem
  exact annotationErrors_congr (agree _ (List.mem_map_of_mem mem))

/-- Global tables that agree on the name and the references of a definition, and look
the same where a type leads its check, give it the same errors. -/
theorem definitionErrors_eq_of_agree (definition : Def)
    (agree : Agree globals globals' (definition.name :: definition.references.toList))
    (byType : AgreeByType globals globals' (Typing.byType globals definition)) :
    definitionErrors globals definition = definitionErrors globals' definition := by
  have mentioned := agree_mentions agree
  unfold definitionErrors
  unfold Def.mentions at mentioned
  unfold Typing.byType at byType
  cases body : definition.body with
  | type ctors => rfl
  | ctor owner fields =>
      rw [body] at mentioned
      exact flatMap_annotationErrors_congr fun name mem =>
        mentioned name (List.mem_cons_of_mem _ mem)
  | func params ret term =>
      rw [body] at mentioned byType
      obtain ⟨annotations, rest⟩ := agree_append.1 mentioned
      have result : globals ret.name = globals' ret.name := rest _ List.mem_cons_self
      have inside : Agree globals globals' (term.mentions (params.map (·.name.name))) :=
        fun name mem => rest name (List.mem_cons_of_mem _ mem)
      dsimp only
      rw [flatMap_annotationErrors_congr annotations, annotationErrors_congr result,
        check_congr (binds_paramScope params) inside byType]

end

/-- The type `Bool` of the file `a`, with its constructors. -/
def boolTypes : List Def :=
  Parser.Source.defineType ⟨"a", "type Bool \x7b true, false \x7d"⟩ ⟨0, 25⟩ ⟨"Bool", ⟨5, 9⟩⟩
    [(⟨"true", ⟨12, 16⟩⟩, []), (⟨"false", ⟨18, 23⟩⟩, [])]

/-- The function `f` of the file `c`, which returns `false`. -/
def falseFunction : Def where
  name := "f"
  file := "c"
  source := "f: Bool false"
  origin := ⟨0, 1⟩
  extent := ⟨0, 13⟩
  body := .func [] ⟨"Bool", ⟨3, 7⟩⟩ (.ref ⟨"false", ⟨8, 13⟩⟩)

theorem agree_erase (table : Table Def) {erased : String} {names : List String}
    (absent : erased ∉ names) : Agree table.get? (table.erase erased).get? names := by
  intro name mem
  rw [Table.get?_erase, if_neg]
  rintro rfl
  exact absent mem

/-- The check of `f` is led to `Bool.false` but not to `Bool.true`. -/
theorem definitionErrors_eq_without_true :
    parse "c" "f: Bool false" = .ok [falseFunction] ∧
    let globals := tableOf (falseFunction :: boolTypes)
    byType globals.get? falseFunction = ["Bool.false"] ∧
    definitionErrors globals.get? falseFunction =
      definitionErrors (globals.erase "Bool.true").get? falseFunction := by
  refine ⟨by cbv, by decide, ?_⟩
  apply definitionErrors_eq_of_agree
  · exact agree_erase _ (by decide)
  · intro name mem
    have same : Agree (tableOf (falseFunction :: boolTypes)).get?
        ((tableOf (falseFunction :: boolTypes)).erase "Bool.true").get? ["Bool.false"] :=
      agree_erase _ (by decide)
    rw [shape, shape, same name mem]

/-- The references of `f` are `Bool` and `false`, but its errors depend on
`Bool.false` too. -/
theorem references_are_not_enough :
    parse "a" "type Bool \x7b true, false \x7d" = .ok boolTypes ∧
    parse "c" "f: Bool false" = .ok [falseFunction] ∧
    let globals := tableOf (falseFunction :: boolTypes)
    Agree globals.get? (globals.erase "Bool.false").get?
      (falseFunction.name :: falseFunction.references.toList) ∧
    definitionErrors globals.get? falseFunction = [] ∧
    definitionErrors (globals.erase "Bool.false").get? falseFunction =
      [.undefined ⟨8, 13⟩ "false"] := by
  refine ⟨by cbv, by cbv, ?_, by decide, by decide⟩
  exact agree_erase _ (by decide)

end Typing

end LiveCheck
