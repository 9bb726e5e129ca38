import LiveCheck.Proofs.Typing.Judgement

/-!
What the checker accepts.

The checker looks at one definition at a time and relies on the others being in order: it
passes over a case distinction whose type is not declared, since the annotation that led to
the type is reported where it stands. Where all annotations name types (`Resolved`) and
types and constructors come together (`Closed`), these places cannot occur, and the checker
accepts a term exactly when the rules give it the type asked for (`check_eq_nil`). That it
accepts what the rules allow needs `Closed` alone (`check_eq_nil_of_hasType`).

There is one exception. A bare name is read as a constructor of the type asked for by
putting the type and a dot in front of it, and the constructor that this names may belong
to another type, since names have dots of their own. `Unambiguous` rules that out.
-/

namespace LiveCheck

namespace Typing

/-- Types and constructors come together. -/
structure Closed (globals : Globals) : Prop where
  ctors : ∀ type names, body? globals type = some (.type names) → ∀ name ∈ names,
    ∃ short fields, name = type ++ "." ++ short ∧ IsConstructor globals type short fields
  types : ∀ name owner fields, body? globals name = some (.ctor owner fields) →
    ∃ names, body? globals owner.name = some (.type names) ∧ name ∈ names

/-- Every annotation names a type. -/
def Resolved (globals : Globals) : Prop :=
  ∀ name body, body? globals name = some body →
    ∀ type ∈ annotations body, IsType globals type.name

/-- A constructor without fields that a bare name can stand for, by the type in front of
it, is one of that type. -/
def Unambiguous (globals : Globals) : Prop :=
  ∀ type short owner, IsType globals type → globals short = none →
    body? globals (type ++ "." ++ short) = some (.ctor owner []) → owner.name = type

/-- What the check of a term relies on. -/
structure Regular (globals : Globals) : Prop extends Closed globals where
  resolved : Resolved globals
  unambiguous : Unambiguous globals

/-! ## Constructors of a type -/

theorem dropStem?_append (stem text : List Char) : dropStem? stem (stem ++ text) = some text := by
  induction stem with
  | nil => rfl
  | cons first stem ih =>
      rw [List.cons_append, dropStem?, if_pos rfl]
      exact ih

theorem variantName_qualified (type short : String) :
    variantName type (type ++ "." ++ short) = short := by
  have stem : (type ++ "." ++ short).toList = (type ++ ".").toList ++ short.toList :=
    String.toList_append
  unfold variantName
  rw [stem, dropStem?_append]
  exact String.ofList_toList

section Constructors

variable {globals : Globals} {type short : String} {fields : List Param}

theorem variant_qualified (constructs : IsConstructor globals type short fields) :
    variant globals type (type ++ "." ++ short) =
      ⟨short, fields.map fun field => (field.name.name, field.type.name)⟩ := by
  obtain ⟨owner, defined, -⟩ := constructs
  obtain ⟨definition, found, body⟩ := Option.map_eq_some_iff.1 defined
  rw [variant, variantName_qualified]
  simp only [found, body]

theorem IsConstructor.fields_eq {others : List Param}
    (constructs : IsConstructor globals type short fields)
    (constructs' : IsConstructor globals type short others) : fields = others := by
  obtain ⟨owner, defined, -⟩ := constructs
  obtain ⟨owner', defined', -⟩ := constructs'
  rw [defined] at defined'
  cases defined'
  rfl

variable (closed : Closed globals) {names : List String}
  (declared : body? globals type = some (.type names))

include closed declared

theorem qualified_mem (constructs : IsConstructor globals type short fields) :
    type ++ "." ++ short ∈ names := by
  obtain ⟨owner, defined, rfl⟩ := constructs
  obtain ⟨names', declared', mem⟩ := closed.types _ owner fields defined
  rw [declared] at declared'
  cases declared'
  exact mem

theorem find?_variant (constructs : IsConstructor globals type short fields) :
    (names.map (variant globals type)).find? (·.name == short) =
      some ⟨short, fields.map fun field => (field.name.name, field.type.name)⟩ := by
  have mem := qualified_mem closed declared constructs
  have found : ((names.map (variant globals type)).find? (·.name == short)).isSome = true := by
    rw [List.find?_isSome]
    refine ⟨_, List.mem_map_of_mem mem, ?_⟩
    rw [variant_qualified constructs]
    exact beq_self_eq_true short
  -- Whatever is found has the same short name, and so the same qualified name.
  obtain ⟨other, eq⟩ := Option.isSome_iff_exists.1 found
  have named := List.find?_some eq
  obtain ⟨name, nameMem, rfl⟩ := List.mem_map.1 (List.mem_of_find?_eq_some eq)
  obtain ⟨short', fields', rfl, constructs'⟩ := closed.ctors type names declared name nameMem
  rw [variant_qualified constructs', beq_iff_eq] at named
  obtain rfl : short' = short := named
  rw [eq, variant_qualified constructs]

theorem exists_constructor {short : String}
    (found : short ∈ (names.map (variant globals type)).map (·.name)) :
    ∃ fields, IsConstructor globals type short fields := by
  rw [List.map_map] at found
  obtain ⟨name, mem, eq⟩ := List.mem_map.1 found
  obtain ⟨short', fields, rfl, constructs⟩ := closed.ctors type names declared name mem
  have eq : (variant globals type (type ++ "." ++ short')).name = short := eq
  rw [variant_qualified constructs] at eq
  exact ⟨fields, eq ▸ constructs⟩

theorem checkComplete_eq_nil {span : Span} {branches : List (Branch Term)} :
    checkComplete span (some ⟨type, names.map (variant globals type)⟩) branches = [] ↔
      ∀ short fields, IsConstructor globals type short fields →
        ∃ branch ∈ branches, branch.ctor.name = short := by
  have none : checkComplete span (some ⟨type, names.map (variant globals type)⟩) branches = [] ↔
      ((names.map (variant globals type)).map (·.name)).filter
        (fun name => !branches.any (·.ctor.name == name)) = [] := by
    unfold checkComplete
    dsimp only
    split <;> simp_all
  rw [none, List.filter_eq_nil_iff]
  constructor
  · intro covered short fields constructs
    have found := find?_variant closed declared constructs
    have mem := List.mem_map_of_mem (f := Variant.name) (List.mem_of_find?_eq_some found)
    simpa using covered short mem
  · intro covered short mem
    obtain ⟨fields, constructs⟩ := exists_constructor closed declared mem
    simpa using covered short fields constructs

theorem enter_eq_nil {scope : Scope} {name : String} {ctor : Ident} :
    (enter scope name (some ⟨type, names.map (variant globals type)⟩) ctor).1 = [] ↔
      ∃ fields, IsConstructor globals type ctor.name fields := by
  unfold enter
  dsimp only
  constructor
  · intro entered
    split at entered
    · next variant found =>
      have named := List.find?_some found
      rw [beq_iff_eq] at named
      apply exists_constructor closed declared
      exact named ▸ List.mem_map_of_mem (List.mem_of_find?_eq_some found)
    · cases entered
  · rintro ⟨fields, constructs⟩
    rw [find?_variant closed declared constructs]

theorem locals_enter {scope : Scope} {name : String} {ctor : Ident}
    (constructs : IsConstructor globals type ctor.name fields) :
    (enter scope name (some ⟨type, names.map (variant globals type)⟩) ctor).2.locals =
      armLocals name fields scope.locals := by
  unfold enter
  dsimp only
  rw [find?_variant closed declared constructs]
  dsimp only
  rw [Scope.locals_insertAll, List.map_map]
  rfl

end Constructors

/-! ## Names -/

section Names

variable {globals : Globals} {scope : Scope}

/-- A name of the type that is asked for passes, whatever the other names are. -/
theorem checkRef_eq_nil_of_hasType {expected : String} {ident : Ident}
    (typed : HasType globals scope.locals (.ref ident) expected) :
    checkRef globals scope expected ident = [] := by
  unfold checkRef
  rw [Scope.lookup_eq_locals]
  cases typed with
  | constant unbound undefined constructs =>
      obtain ⟨owner, defined, -⟩ := constructs
      rw [unbound, undefined, if_pos (isConstant_eq_true.2 ⟨owner, defined⟩)]
      rfl
  | name typed =>
      have known : ((scope.locals.lookup ident.name).isNone &&
          (globals ident.name).isNone) = false := by
        cases typed with
        | bound bound => rw [bound]; rfl
        | global unbound callable =>
            rw [unbound, Option.isNone_eq_false_iff.2 callable.isSome]
            rfl
      rw [known, inferRef_eq_ok.2 typed]
      exact compare_eq_nil.2 rfl

theorem checkRef_eq_nil (unambiguous : Unambiguous globals) {expected : String} {ident : Ident}
    (isType : IsType globals expected) :
    checkRef globals scope expected ident = [] ↔
      HasType globals scope.locals (.ref ident) expected := by
  refine ⟨?_, checkRef_eq_nil_of_hasType⟩
  intro clean
  unfold checkRef at clean
  rw [Scope.lookup_eq_locals] at clean
  split at clean
  · next bare =>
    rw [Bool.and_eq_true, Option.isNone_iff_eq_none, Option.isNone_iff_eq_none] at bare
    split at clean
    · next constant =>
      obtain ⟨owner, defined⟩ := isConstant_eq_true.1 constant
      exact .constant bare.1 bare.2
        ⟨owner, defined, unambiguous expected _ owner isType bare.2 defined⟩
    · cases clean
  · cases inferred : inferRef globals scope ident with
    | error error =>
        rw [inferred] at clean
        cases clean
    | ok detected =>
        rw [inferred] at clean
        obtain rfl : detected = expected := compare_eq_nil.1 clean
        exact .name (inferRef_eq_ok.1 inferred)

theorem fst_scrutinize_eq_nil {ident : Ident} :
    (scrutinize globals scope ident).1 = [] ↔
      ∃ type, NameHasType globals scope.locals ident.name type := by
  unfold scrutinize
  cases inferred : inferRef globals scope ident with
  | error error =>
      refine ⟨nofun, ?_⟩
      rintro ⟨type, typed⟩
      rw [inferRef_eq_ok.2 typed] at inferred
      cases inferred
  | ok type =>
      refine ⟨fun _ => ⟨type, inferRef_eq_ok.1 inferred⟩, fun _ => ?_⟩
      dsimp only
      split
      · split <;> rfl
      · rfl

theorem scrutinize_of_declared {ident : Ident} {type : String} {names : List String}
    (typed : NameHasType globals scope.locals ident.name type)
    (declared : body? globals type = some (.type names)) :
    scrutinize globals scope ident = ([], some ⟨type, names.map (variant globals type)⟩) := by
  obtain ⟨definition, found, body⟩ := Option.map_eq_some_iff.1 declared
  unfold scrutinize
  rw [inferRef_eq_ok.2 typed]
  simp only [found, body]

end Names

/-! ## Well typed terms -/

section Complete

variable {globals : Globals} {scope : Scope}

/-- Arguments pass if there is one for each parameter and each passes against its type. -/
theorem checkArgs_eq_nil_iff {params : List String} {args : List Term}
    (count : params.length = args.length) :
    checkArgs globals scope params args = [] ↔
      ∀ pair ∈ args.zip params, check globals scope pair.2 pair.1 = [] := by
  induction args generalizing params with
  | nil => simp [checkArgs]
  | cons arg rest ih =>
      cases params with
      | nil => cases count
      | cons param params =>
          rw [checkArgs, List.append_eq_nil_iff, List.zip_cons_cons, List.forall_mem_cons,
            List.tail_cons, ih (Nat.succ.inj count)]

/-- Arms pass if each can be entered and its body passes inside. -/
theorem checkBranches_eq_nil_iff {expected name : String} {scrutinee : Option Scrutinee}
    {branches : List (Branch Term)} :
    checkBranches globals scope expected name scrutinee branches = [] ↔
      ∀ branch ∈ branches, (enter scope name scrutinee branch.ctor).1 = [] ∧
        check globals (enter scope name scrutinee branch.ctor).2 expected branch.body = [] := by
  induction branches with
  | nil => simp [checkBranches]
  | cons branch rest ih =>
      rw [checkBranches, List.append_eq_nil_iff, List.append_eq_nil_iff, List.forall_mem_cons, ih]

/-- A term of the type that is asked for passes. The definitions that it mentions need not
be in order: it is enough that types and constructors come together. -/
theorem check_eq_nil_of_hasType (closed : Closed globals) {locals : List (String × String)}
    {term : Term} {type : String} (typed : HasType globals locals term type) :
    ∀ scope : Scope, scope.locals = locals → check globals scope type term = [] := by
  induction typed with
  | name typed =>
      rintro scope rfl
      exact checkRef_eq_nil_of_hasType (.name typed)
  | constant unbound undefined constructs =>
      rintro scope rfl
      exact checkRef_eq_nil_of_hasType (.constant unbound undefined constructs)
  | app unbound callable count typed ih =>
      rintro scope rfl
      have args := (checkArgs_eq_nil_iff count).2 fun pair mem => ih pair mem scope rfl
      rw [check, callee_eq_ok.2 ⟨unbound, callable⟩]
      simp only [args, checkArity_eq_nil.2 count, compare_eq_nil.2, List.append_nil]
  | @case locals scrutinee branches span distinguished type scrutinized declared constructors
      complete typed ih =>
      rintro scope rfl
      obtain ⟨names, declared⟩ := declared
      have arms : checkBranches globals scope type scrutinee.name
          (some ⟨distinguished, names.map (variant globals distinguished)⟩) branches = [] := by
        rw [checkBranches_eq_nil_iff]
        intro branch mem
        obtain ⟨fields, constructs⟩ := constructors branch mem
        exact ⟨(enter_eq_nil closed declared).2 ⟨fields, constructs⟩,
          ih branch mem fields constructs _ (locals_enter closed declared constructs)⟩
      have covered : checkComplete span
          (some ⟨distinguished, names.map (variant globals distinguished)⟩) branches = [] :=
        (checkComplete_eq_nil closed declared).2 complete
      rw [check, scrutinize_of_declared scrutinized declared]
      simp only [arms, covered, List.append_nil]

end Complete

/-! ## Declared types -/

section Declared

variable {globals : Globals} {name type : String}

theorem Callable.declared (regular : Regular globals) {params : List String}
    (callable : Callable globals name params type) :
    (∀ param ∈ params, IsType globals param) ∧ IsType globals type := by
  cases callable with
  | @func params ret body defined =>
      have annotated := regular.resolved name _ defined
      constructor
      · intro param mem
        obtain ⟨source, sourceMem, rfl⟩ := List.mem_map.1 mem
        exact annotated _ (List.mem_append_left _ (List.mem_map_of_mem sourceMem))
      · exact annotated ret (List.mem_append_right _ List.mem_cons_self)
  | @ctor owner fields defined =>
      constructor
      · intro param mem
        obtain ⟨field, fieldMem, rfl⟩ := List.mem_map.1 mem
        exact regular.resolved name _ defined _ (List.mem_map_of_mem fieldMem)
      · obtain ⟨names, declared, -⟩ := regular.types name owner fields defined
        exact ⟨names, declared⟩

theorem NameHasType.declared (regular : Regular globals)
    {locals : List (String × String)} (bindings : ∀ binding ∈ locals, IsType globals binding.2)
    (typed : NameHasType globals locals name type) : IsType globals type := by
  cases typed with
  | bound bound =>
      obtain ⟨before, after, rfl, -⟩ := List.lookup_eq_some_iff.1 bound
      exact bindings (name, type) (List.mem_append_right _ List.mem_cons_self)
  | global unbound callable => exact (callable.declared regular).2

theorem IsConstructor.bindings (regular : Regular globals) {short : String}
    {fields : List Param} (constructs : IsConstructor globals type short fields)
    {locals : List (String × String)} (bindings : ∀ binding ∈ locals, IsType globals binding.2) :
    ∀ binding ∈ armLocals name fields locals, IsType globals binding.2 := by
  intro binding mem
  rcases List.mem_append.1 mem with mem | mem
  · obtain ⟨field, fieldMem, rfl⟩ := List.mem_map.1 (List.mem_reverse.1 mem)
    obtain ⟨owner, defined, -⟩ := constructs
    exact regular.resolved _ _ defined _ (List.mem_map_of_mem fieldMem)
  · exact bindings binding mem

end Declared

/-! ## Terms -/

section Terms

variable {globals : Globals}

mutual

/-- Where all annotations name types, a term that passes has the type that is asked for. -/
theorem hasType_of_check_eq_nil (regular : Regular globals) {scope : Scope}
    (bindings : ∀ binding ∈ scope.locals, IsType globals binding.2) {expected : String}
    (isType : IsType globals expected) :
    ∀ {term : Term}, check globals scope expected term = [] →
      HasType globals scope.locals term expected
  | .ref ident, clean => (checkRef_eq_nil regular.unambiguous isType).1 clean
  | .app func args span, clean => by
      rw [check] at clean
      cases called : callee globals scope func with
      | error error =>
          rw [called] at clean
          cases clean
      | ok callable =>
          obtain ⟨params, ret⟩ := callable
          obtain ⟨unbound, callable⟩ := callee_eq_ok.1 called
          simp only [called, List.append_eq_nil_iff, checkArity_eq_nil, compare_eq_nil] at clean
          obtain ⟨⟨count, args⟩, rfl⟩ := clean
          have params := (callable.declared regular).1
          have args := hasType_of_checkArgs regular bindings count params args
          exact .app unbound callable count args
  | .case name branches span, clean => by
      rw [check] at clean
      simp only [List.append_eq_nil_iff] at clean
      obtain ⟨⟨scrutinized, arms⟩, complete⟩ := clean
      obtain ⟨type, typed⟩ := fst_scrutinize_eq_nil.1 scrutinized
      -- The type is declared, so the arms were not passed over.
      obtain ⟨names, declared⟩ := typed.declared regular bindings
      rw [scrutinize_of_declared typed declared] at arms complete
      have arms := hasType_of_checkBranches regular bindings isType declared arms
      have complete := (checkComplete_eq_nil regular.toClosed declared).1 complete
      exact .case typed ⟨names, declared⟩ (fun branch mem => (arms branch mem).1) complete
        fun branch mem => (arms branch mem).2

theorem hasType_of_checkArgs (regular : Regular globals) {scope : Scope}
    (bindings : ∀ binding ∈ scope.locals, IsType globals binding.2) :
    ∀ {args : List Term} {params : List String}, params.length = args.length →
      (∀ param ∈ params, IsType globals param) → checkArgs globals scope params args = [] →
      ∀ pair ∈ args.zip params, HasType globals scope.locals pair.1 pair.2
  | [], params, _, _, _ => by simp
  | arg :: rest, [], count, _, _ => by cases count
  | arg :: rest, param :: params, count, isTypes, clean => by
      rw [List.forall_mem_cons] at isTypes
      rw [checkArgs, List.append_eq_nil_iff] at clean
      rw [List.zip_cons_cons, List.forall_mem_cons]
      exact ⟨hasType_of_check_eq_nil regular bindings isTypes.1 clean.1,
        hasType_of_checkArgs regular bindings (Nat.succ.inj count) isTypes.2 clean.2⟩

theorem hasType_of_checkBranches (regular : Regular globals) {scope : Scope}
    (bindings : ∀ binding ∈ scope.locals, IsType globals binding.2) {expected : String}
    (isType : IsType globals expected) {name type : String} {names : List String}
    (declared : body? globals type = some (.type names)) :
    ∀ {branches : List (Branch Term)},
      checkBranches globals scope expected name
        (some ⟨type, names.map (variant globals type)⟩) branches = [] →
      ∀ branch ∈ branches, (∃ fields, IsConstructor globals type branch.ctor.name fields) ∧
        ∀ fields, IsConstructor globals type branch.ctor.name fields →
          HasType globals (armLocals name fields scope.locals) branch.body expected
  | [], _ => by simp
  | ⟨ctor, body⟩ :: rest, clean => by
      simp only [checkBranches, List.append_eq_nil_iff, enter_eq_nil regular.toClosed declared]
        at clean
      obtain ⟨⟨⟨fields, constructs⟩, clean⟩, others⟩ := clean
      have entered : (enter scope name (some ⟨type, names.map (variant globals type)⟩)
          ctor).2.locals = armLocals name fields scope.locals :=
        locals_enter regular.toClosed declared constructs
      have inside := entered ▸ constructs.bindings regular bindings
      have typed := hasType_of_check_eq_nil regular inside isType clean
      rw [entered] at typed
      rw [List.forall_mem_cons]
      refine ⟨⟨⟨fields, constructs⟩, ?_⟩,
        hasType_of_checkBranches regular bindings isType declared others⟩
      intro fields' constructs'
      rwa [constructs'.fields_eq constructs]

end

/-- The checker has nothing to say about a term exactly when the term has the type that is
asked for. -/
theorem check_eq_nil (regular : Regular globals) {scope : Scope}
    (bindings : ∀ binding ∈ scope.locals, IsType globals binding.2) {expected : String}
    (isType : IsType globals expected) {term : Term} :
    check globals scope expected term = [] ↔ HasType globals scope.locals term expected :=
  ⟨hasType_of_check_eq_nil regular bindings isType,
    fun typed => check_eq_nil_of_hasType regular.toClosed typed scope rfl⟩

end Terms

/-! ## Definitions -/

section Definitions

variable {globals : Globals} {definition : Def}

theorem flatMap_annotationErrors {params : List Param} :
    params.flatMap (fun param => annotationErrors globals param.type) = [] ↔
      ∀ type ∈ params.map (·.type), IsType globals type.name := by
  simp only [List.flatMap_eq_nil_iff, annotationErrors_eq_nil, List.forall_mem_map]

/-- The errors of a definition are those of its annotations and its body. -/
theorem definitionErrors_eq_nil : definitionErrors globals definition = [] ↔
    (∀ type ∈ annotations definition.body, IsType globals type.name) ∧
    ∀ params ret body, definition.body = .func params ret body →
      check globals (paramScope params) ret.name body = [] := by
  unfold definitionErrors annotations
  cases definition.body with
  | type ctors => simp
  | ctor owner fields => simp [annotationErrors_eq_nil]
  | func params ret body =>
      simp only [List.append_eq_nil_iff, flatMap_annotationErrors, annotationErrors_eq_nil,
        List.forall_mem_append, List.forall_mem_singleton]
      refine and_congr_right fun _ => ⟨?_, fun clean => clean params ret body rfl⟩
      intro clean params ret body eq
      cases eq
      exact clean

theorem locals_paramScope (params : List Param) :
    (paramScope params).locals = paramLocals params := by
  rw [paramScope, Scope.locals_insertAll]
  exact List.append_nil _

/-- A well typed definition has no errors, whatever is wrong with the others. -/
theorem WellTyped.definitionErrors_eq_nil (wellTyped : WellTyped globals definition)
    (closed : Closed globals) : definitionErrors globals definition = [] := by
  refine Typing.definitionErrors_eq_nil.2 ⟨wellTyped.annotations, ?_⟩
  intro params ret body function
  have typed := wellTyped.body params ret body function
  exact check_eq_nil_of_hasType closed typed _ (locals_paramScope params)

theorem definitionErrors_eq_nil_iff_wellTyped (regular : Regular globals) :
    definitionErrors globals definition = [] ↔ WellTyped globals definition := by
  refine ⟨fun clean => ?_, fun wellTyped => wellTyped.definitionErrors_eq_nil regular.toClosed⟩
  obtain ⟨annotated, clean⟩ := definitionErrors_eq_nil.1 clean
  refine ⟨annotated, fun params ret body function => ?_⟩
  rw [function, annotations, List.forall_mem_append, List.forall_mem_singleton] at annotated
  have bindings : ∀ binding ∈ (paramScope params).locals, IsType globals binding.2 := by
    intro binding mem
    rw [locals_paramScope, paramLocals, List.mem_reverse] at mem
    obtain ⟨param, paramMem, rfl⟩ := List.mem_map.1 mem
    exact annotated.1 _ (List.mem_map_of_mem paramMem)
  have typed := (check_eq_nil regular bindings annotated.2).1 (clean params ret body function)
  rwa [locals_paramScope] at typed

end Definitions

end Typing

end LiveCheck
