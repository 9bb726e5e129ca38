import LiveCheck.Language.Engine
import LiveCheck.Proofs.Table
import LiveCheck.Proofs.Typing.ErrorPlaces
import LiveCheck.Proofs.Typing.Judgement

/-!
Which uses of an undefined name are reported.

A name without a dot that is bound nowhere is reported wherever the check comes to it. It does
not come to everything: a case distinction of which no type is asked is not looked at if its
first arm has no type, and what is wrong in that arm has been dropped by then. `PassedOver`
says which uses these are, and `undefined_reported_iff` that they are the only ones that are
not reported. A function without errors has no such use (`not_unbound_of_clean`).
-/

namespace LiveCheck

/-! ## Scopes that do not bind a name -/

theorem lookup_reverse_of_not_mem {name : String} {bindings : List (String × String)}
    (free : name ∉ bindings.map (·.1)) : bindings.reverse.lookup name = none := by
  rw [List.lookup_eq_none_iff]
  intro binding mem
  refine bne_iff_ne.2 ?_
  rintro rfl
  exact free (List.mem_map_of_mem (List.mem_reverse.1 mem))

namespace Scope

variable {inner middle outer : Scope} {name : String}

theorem lookup_insertAll_of_not_mem (scope : Scope) {name : String}
    {bindings : List (String × String)} (free : name ∉ bindings.map (·.1)) :
    (scope.insertAll bindings).lookup name = scope.lookup name := by
  have absent : bindings.reverse.lookup name = none := lookup_reverse_of_not_mem free
  rw [lookup_eq_locals, locals_insertAll, List.lookup_append, absent, lookup_eq_locals]
  rfl

/-- A scope inside another leaves the binding of a name as it is there. -/
def Sees (inner outer : Scope) (name : String) : Prop :=
  ∃ opened, inner.frames = opened ++ outer.frames ∧ ∀ frame ∈ opened, frame.lookup name = none

theorem Sees.refl (scope : Scope) (name : String) : scope.Sees scope name :=
  ⟨[], rfl, List.forall_mem_nil _⟩

theorem Sees.trans (first : inner.Sees middle name) (second : middle.Sees outer name) :
    inner.Sees outer name := by
  obtain ⟨opened, frames, absent⟩ := first
  obtain ⟨before, frames', absent'⟩ := second
  refine ⟨opened ++ before, by rw [frames, frames', List.append_assoc], ?_⟩
  exact List.forall_mem_append.2 ⟨absent, absent'⟩

theorem Sees.lookup_eq (sees : inner.Sees outer name) :
    inner.lookup name = outer.lookup name := by
  obtain ⟨opened, frames, absent⟩ := sees
  rw [lookup, lookup, frames, List.findSome?_append, List.findSome?_eq_none_iff.2 absent,
    Option.none_or]

theorem insertAll_cons (frame : List (String × String)) (outer : List (List (String × String)))
    (bindings : List (String × String)) :
    (Scope.mk (frame :: outer)).insertAll bindings = ⟨(bindings.reverse ++ frame) :: outer⟩ := by
  induction bindings generalizing frame with
  | nil => rfl
  | cons first rest ih =>
      show (Scope.mk (((first.1, first.2) :: frame) :: outer)).insertAll rest = _
      rw [ih, List.reverse_cons, List.append_assoc]
      rfl

/-- Bindings of other names in a frame of their own hide nothing. -/
theorem sees_insertAll_child (scope : Scope) {bindings : List (String × String)}
    (free : name ∉ bindings.map (·.1)) : (scope.child.insertAll bindings).Sees scope name := by
  refine ⟨[bindings.reverse], ?_, List.forall_mem_singleton.2 (lookup_reverse_of_not_mem free)⟩
  rw [child, insertAll_cons, List.append_nil]
  rfl

end Scope

namespace Typing

/-- An arm binds names with a dot only. -/
theorem sees_enter {scope : Scope} {other : String} (undotted : '.' ∉ other.toList)
    (name : String) (scrutinee : Option Scrutinee) (ctor : Ident) :
    (enter scope name scrutinee ctor).2.Sees scope other := by
  unfold enter
  cases scrutinee with
  | none => exact .refl scope other
  | some scrutinee =>
      dsimp only
      split
      · apply Scope.sees_insertAll_child
        intro mem
        rw [List.map_map, List.mem_map] at mem
        obtain ⟨field, -, rfl⟩ := mem
        refine undotted ?_
        simp
      · exact ⟨[[]], rfl, List.forall_mem_singleton.2 rfl⟩

/-! ## Names that are bound nowhere -/

/-- A name without a dot that is not defined, and that nothing defined has behind a dot. -/
structure Unbound (globals : Globals) (name : String) : Prop where
  undotted : '.' ∉ name.toList
  undefined : globals name = none
  unqualified : ∀ other, (globals other).isSome = true → ¬ '.' :: name.toList <:+ other.toList

variable {globals : Globals} {scope : Scope} {asked : Option String} {ident : Ident}

theorem Unbound.constant {name : String} (unbound : Unbound globals name) (type : String) :
    globals (type ++ "." ++ name) = none := by
  by_contra defined
  refine unbound.unqualified _ (Option.isSome_iff_ne_none.2 defined) ⟨type.toList, ?_⟩
  simp

theorem unbound_tableOf {defs : List Def} {name : String} (undotted : '.' ∉ name.toList)
    (others : ∀ definition ∈ defs, definition.name ≠ name ∧
      ¬ '.' :: name.toList <:+ definition.name.toList) :
    Unbound (tableOf defs).get? name := by
  refine ⟨undotted, ?_, ?_⟩
  · rw [Option.eq_none_iff_forall_not_mem]
    intro definition found
    obtain ⟨mem, named⟩ := mem_of_get?_tableOf found
    exact (others definition mem).1 named
  · intro other defined
    obtain ⟨definition, found⟩ := Option.isSome_iff_exists.1 defined
    obtain ⟨mem, rfl⟩ := mem_of_get?_tableOf found
    exact (others definition mem).2

section Free

variable (unbound : Unbound globals ident.name) (free : scope.lookup ident.name = none)

include unbound free

theorem inferRef_of_unbound :
    inferRef globals scope ident = .error (.undefined ident.span ident.name) := by
  simp only [inferRef, free, meaning, unbound.undefined]

theorem callee_of_unbound :
    callee globals scope ident = .error (.undefined ident.span ident.name) := by
  simp only [callee, free, meaning, unbound.undefined]

theorem examine_ref_of_unbound :
    examine globals scope asked (.ref ident) = [.undefined ident.span ident.name] := by
  cases asked with
  | none => rw [examine, infer, inferRef_of_unbound unbound free]
  | some expected =>
      have constant : isConstant globals expected ident.name = false := by
        rw [isConstant, unbound.constant]
      rw [examine, check, checkRef, free, unbound.undefined, constant]
      rfl

theorem scrutinize_of_unbound :
    scrutinize globals scope ident = ([.undefined ident.span ident.name], none) := by
  rw [scrutinize, inferRef_of_unbound unbound free]

end Free

/-! ## Uses that are passed over -/

/-- A name is used in a part of a term that the check does not come to: a case distinction of
which no type is asked and whose first arm has none. -/
inductive PassedOver (globals : Globals) (ident : Ident) : Scope → Option String → Term → Prop where
  | here {scope : Scope} {asked : Option String} {scrutinee : Ident}
      {branches : List (Branch Term)} {span : Span}
      (untyped : armType globals scope asked branches = none)
      (used : ident ∈ (Term.case scrutinee branches span).uses) :
      PassedOver globals ident scope asked (.case scrutinee branches span)
  | argument {scope : Scope} {asked : Option String} {func : Ident} {args : List Term}
      {span : Span} {i : Nat} {arg : Term} (found : args[i]? = some arg)
      (inside : PassedOver globals ident scope (argTypes globals scope func)[i]? arg) :
      PassedOver globals ident scope asked (.app func args span)
  | arm {scope : Scope} {asked : Option String} {scrutinee : Ident}
      {branches : List (Branch Term)} {span : Span} {type : String} {branch : Branch Term}
      (typed : armType globals scope asked branches = some type) (mem : branch ∈ branches)
      (inside : PassedOver globals ident
        (enter scope scrutinee.name (scrutinize globals scope scrutinee).2 branch.ctor).2
        (some type) branch.body) :
      PassedOver globals ident scope asked (.case scrutinee branches span)

theorem PassedOver.used {term : Term} (passed : PassedOver globals ident scope asked term) :
    ident ∈ term.uses := by
  induction passed with
  | here untyped used => exact used
  | argument found inside ih =>
      rw [Term.uses_app]
      exact List.mem_cons_of_mem _ (List.mem_flatMap.2 ⟨_, List.mem_of_getElem? found, ih⟩)
  | arm typed mem inside ih =>
      rw [Term.uses_case]
      exact List.mem_cons_of_mem _ (List.mem_flatMap.2 ⟨_, mem, ih⟩)

/-- A name that stands alone is not passed over. -/
theorem not_passedOver_ref {other : Ident} :
    ¬ PassedOver globals ident scope asked (.ref other) := by
  intro passed
  cases passed

/-- An argument of which no type is asked is one too many, or of something that cannot be
called. -/
theorem callErrors_ne_nil {func : Ident} {args : List Term} {i : Nat} {arg : Term}
    (found : args[i]? = some arg) (unasked : (argTypes globals scope func)[i]? = none)
    (span : Span) : callErrors globals scope func args span ≠ [] := by
  unfold callErrors
  unfold argTypes at unasked
  cases called : callee globals scope func with
  | error error => exact List.cons_ne_nil _ _
  | ok callable =>
      rw [called, List.getElem?_eq_none_iff] at unasked
      have unasked : callable.params.length ≤ i := unasked
      obtain ⟨inside, -⟩ := List.getElem?_eq_some_iff.1 found
      have differs : callable.params.length ≠ args.length := by omega
      dsimp only
      rw [checkArity, if_neg differs]
      exact List.cons_ne_nil _ _

/-- What is passed over of a term that a type is asked of is inside something with an error. -/
theorem PassedOver.examine_ne_nil {term : Term}
    (passed : PassedOver globals ident scope asked term) :
    asked.isSome = true → examine globals scope asked term ≠ [] := by
  induction passed with
  | @here scope asked scrutinee branches span untyped used =>
      intro isAsked
      obtain ⟨type, rfl⟩ := Option.isSome_iff_exists.1 isAsked
      rw [armType, Option.some_or] at untyped
      cases untyped
  | @argument scope asked func args span i arg found inside ih =>
      intro _ clean
      rw [examine_app, List.append_eq_nil_iff, List.append_eq_nil_iff] at clean
      obtain ⟨⟨called, checked⟩, -⟩ := clean
      cases asks : (argTypes globals scope func)[i]? with
      | none => exact callErrors_ne_nil found asks span called
      | some type =>
          obtain ⟨error, mem⟩ := List.exists_mem_of_ne_nil _ (ih (by rw [asks]; rfl))
          have mem := mem_checkArgs.2 ⟨i, arg, found, mem⟩
          rw [checked] at mem
          cases mem
  | @arm scope asked scrutinee branches span type branch typed mem inside ih =>
      intro _ clean
      rw [examine_case, typed] at clean
      dsimp only at clean
      rw [List.append_eq_nil_iff, List.append_eq_nil_iff, List.flatMap_eq_nil_iff] at clean
      exact ih rfl (List.append_eq_nil_iff.1 (clean.1.2 branch mem)).2

/-! ## Parts that have a place -/

section Parts

variable {func scrutinee : Ident} {args : List Term} {branches : List (Branch Term)} {span : Span}

/-- Of parts without a common place only one has a given place. -/
theorem index_unique {α β : Type} {parts : List α} {places : α → List β}
    (distinct : (parts.flatMap places).Nodup) {i j : Nat} {first second : α}
    (foundFirst : parts[i]? = some first) (foundSecond : parts[j]? = some second) {place : β}
    (inFirst : place ∈ places first) (inSecond : place ∈ places second) : i = j := by
  have apart := List.pairwise_iff_getElem.1 (List.nodup_flatMap.1 distinct).2
  obtain ⟨_, rfl⟩ := List.getElem?_eq_some_iff.1 foundFirst
  obtain ⟨_, rfl⟩ := List.getElem?_eq_some_iff.1 foundSecond
  rcases Nat.lt_trichotomy i j with before | same | behind
  · exact absurd inSecond (apart i j _ _ before inFirst)
  · exact same
  · exact absurd inFirst (apart j i _ _ behind inSecond)

/-- The errors of a call at the places of an argument are those of the argument. -/
theorem mem_examine_app (distinct : (Term.app func args span).places.Nodup) {i : Nat} {arg : Term}
    (found : args[i]? = some arg) {error : TypeError} (place : error.span ∈ arg.places) :
    error ∈ examine globals scope asked (.app func args span) ↔
      error ∈ examine globals scope (argTypes globals scope func)[i]? arg := by
  rw [Term.places_app] at distinct
  obtain ⟨-, inner, apart⟩ := List.nodup_append.1 distinct
  have inside := List.mem_flatMap.2 ⟨arg, List.mem_of_getElem? found, place⟩
  have outside : error ∉ callErrors globals scope func args span ++
      resultErrors globals scope asked func span :=
    (wellPlaced_call func args span).not_mem fun mem => apart error.span mem _ inside rfl
  rw [List.mem_append, not_or] at outside
  rw [examine_app, List.mem_append, List.mem_append, mem_checkArgs]
  simp only [outside.1, outside.2, false_or, or_false]
  constructor
  · rintro ⟨j, other, foundOther, mem⟩
    -- The error is at a place of the argument that it is an error of.
    have own : ∀ part ∈ args, (Term.places part).Nodup := (List.nodup_flatMap.1 inner).1
    have placed := (wellPlaced_examine globals other (own other (List.mem_of_getElem? foundOther))
      scope _).placed error mem
    obtain rfl := index_unique inner found foundOther place placed
    rw [found] at foundOther
    cases foundOther
    exact mem
  · intro mem
    exact ⟨i, arg, found, mem⟩

theorem passedOver_app (distinct : (Term.app func args span).places.Nodup) {i : Nat} {arg : Term}
    (found : args[i]? = some arg) (used : ident ∈ arg.uses) :
    PassedOver globals ident scope asked (.app func args span) ↔
      PassedOver globals ident scope (argTypes globals scope func)[i]? arg := by
  rw [Term.places_app] at distinct
  have inner := (List.nodup_append.1 distinct).2.1
  constructor
  · intro passed
    cases passed with
    | @argument _ _ _ _ _ j other foundOther inside =>
        obtain rfl := index_unique inner found foundOther (Term.span_mem_places used)
          (Term.span_mem_places inside.used)
        rw [found] at foundOther
        cases foundOther
        exact inside
  · exact .argument found

theorem arm_unique (distinct : (branches.flatMap Term.armPlaces).Nodup) {branch other : Branch Term}
    (mem : branch ∈ branches) (memOther : other ∈ branches) {place : Span}
    (inside : place ∈ branch.body.places) (insideOther : place ∈ Term.armPlaces other) :
    branch = other := by
  obtain ⟨i, found⟩ := List.mem_iff_getElem?.1 mem
  obtain ⟨j, foundOther⟩ := List.mem_iff_getElem?.1 memOther
  obtain rfl := index_unique distinct found foundOther (List.mem_cons_of_mem _ inside) insideOther
  rw [found] at foundOther
  cases foundOther
  rfl

/-- The head of a call is not passed over. -/
theorem not_passedOver_func (distinct : (Term.app func args span).places.Nodup) :
    ¬ PassedOver globals func scope asked (.app func args span) := by
  intro passed
  rw [Term.places_app] at distinct
  cases passed with
  | @argument _ _ _ _ _ _ arg found inside =>
      have place : func.span ∈ args.flatMap Term.places :=
        List.mem_flatMap.2 ⟨arg, List.mem_of_getElem? found, Term.span_mem_places inside.used⟩
      exact (List.nodup_append.1 distinct).2.2 func.span (by simp) _ place rfl

/-- The errors of a case distinction at the places of the body of an arm are those of the
body. -/
theorem mem_examine_case (distinct : (Term.case scrutinee branches span).places.Nodup)
    {type : String} (typed : armType globals scope asked branches = some type)
    {branch : Branch Term} (mem : branch ∈ branches) {error : TypeError}
    (place : error.span ∈ branch.body.places) :
    error ∈ examine globals scope asked (.case scrutinee branches span) ↔
      error ∈ examine globals
        (enter scope scrutinee.name (scrutinize globals scope scrutinee).2 branch.ctor).2
        (some type) branch.body := by
  rw [Term.places_case] at distinct
  obtain ⟨-, inner, apart⟩ := List.nodup_append.1 distinct
  have own : ∀ branch ∈ branches, (Term.armPlaces branch).Nodup := (List.nodup_flatMap.1 inner).1
  have inside : error.span ∈ branches.flatMap Term.armPlaces :=
    List.mem_flatMap.2 ⟨branch, mem, List.mem_cons_of_mem _ place⟩
  have outside : ∀ other ∈ [span, scrutinee.span], error.span ∉ [other] :=
    fun other mem same => apart other mem _ inside (List.mem_singleton.1 same).symm
  have notFirst := (wellPlaced_scrutinize globals scope scrutinee).not_mem
    (outside scrutinee.span (by simp))
  have notLast := (wellPlaced_checkComplete span (scrutinize globals scope scrutinee).2
    branches).not_mem (outside span (by simp))
  have elsewhere : error.span ∉ [branch.ctor.span] := fun same =>
    (List.nodup_cons.1 (own branch mem)).1 (List.mem_singleton.1 same ▸ place)
  have notEntered := (wellPlaced_enter scope scrutinee.name
    (scrutinize globals scope scrutinee).2 branch.ctor).not_mem elsewhere
  rw [examine_case, typed]
  simp only [List.mem_append, List.mem_flatMap, notFirst, notLast, false_or, or_false]
  constructor
  · rintro ⟨other, memOther, found⟩
    have placed := (wellPlaced_armErrors (wellPlaced_examine globals other.body)
      (own other memOther) scope _ _ _).placed error found
    obtain rfl := arm_unique inner mem memOther place placed
    exact (List.mem_append.1 found).resolve_left notEntered
  · intro found
    exact ⟨branch, mem, List.mem_append_right _ found⟩

theorem passedOver_case (distinct : (Term.case scrutinee branches span).places.Nodup)
    {type : String} (typed : armType globals scope asked branches = some type)
    {branch : Branch Term} (mem : branch ∈ branches) (used : ident ∈ branch.body.uses) :
    PassedOver globals ident scope asked (.case scrutinee branches span) ↔
      PassedOver globals ident
        (enter scope scrutinee.name (scrutinize globals scope scrutinee).2 branch.ctor).2
        (some type) branch.body := by
  rw [Term.places_case] at distinct
  have inner := (List.nodup_append.1 distinct).2.1
  constructor
  · intro passed
    cases passed with
    | here untyped _ =>
        rw [typed] at untyped
        cases untyped
    | @arm _ _ _ _ _ type' other typed' memOther inside =>
        obtain rfl := arm_unique inner mem memOther (Term.span_mem_places used)
          (List.mem_cons_of_mem _ (Term.span_mem_places inside.used))
        rw [typed] at typed'
        cases typed'
        exact inside
  · exact .arm typed mem

/-- What a case distinction is on is not passed over if the arms are asked for a type. -/
theorem not_passedOver_scrutinee (distinct : (Term.case scrutinee branches span).places.Nodup)
    {type : String} (typed : armType globals scope asked branches = some type) :
    ¬ PassedOver globals scrutinee scope asked (.case scrutinee branches span) := by
  intro passed
  rw [Term.places_case] at distinct
  cases passed with
  | here untyped _ =>
      rw [typed] at untyped
      cases untyped
  | @arm _ _ _ _ _ _ branch _ mem inside =>
      have place : scrutinee.span ∈ branches.flatMap Term.armPlaces :=
        List.mem_flatMap.2 ⟨branch, mem, List.mem_cons_of_mem _ (Term.span_mem_places inside.used)⟩
      exact (List.nodup_append.1 distinct).2.2 scrutinee.span (by simp) _ place rfl

end Parts

/-! ## What is reported -/

/-- An unbound name that is used in a term is reported there unless the use is passed over. -/
theorem undefined_mem_examine_iff (unbound : Unbound globals ident.name) (term : Term) :
    term.places.Nodup → ident ∈ term.uses → ∀ scope asked, scope.lookup ident.name = none →
      (.undefined ident.span ident.name ∈ examine globals scope asked term ↔
        ¬ PassedOver globals ident scope asked term) := by
  induction term using Term.induct with
  | ref other =>
      intro _ used scope asked free
      rw [Term.uses_ref, List.mem_singleton] at used
      subst used
      rw [examine_ref_of_unbound unbound free]
      exact iff_of_true (List.mem_singleton_self _) not_passedOver_ref
  | app func args span ih =>
      intro distinct used scope asked free
      obtain ⟨-, inner, -⟩ := List.nodup_append.1 (Term.places_app func args span ▸ distinct)
      rw [Term.uses_app, List.mem_cons, List.mem_flatMap] at used
      rcases used with rfl | ⟨arg, mem, used⟩
      · refine iff_of_true ?_ ?_
        · rw [examine_app, callErrors, callee_of_unbound unbound free]
          exact List.mem_append_left _ (List.mem_append_left _ (List.mem_singleton_self _))
        · exact not_passedOver_func distinct
      · obtain ⟨i, found⟩ := List.mem_iff_getElem?.1 mem
        have place : (TypeError.undefined ident.span ident.name).span ∈ arg.places :=
          Term.span_mem_places used
        rw [mem_examine_app distinct found place, passedOver_app distinct found used]
        exact ih arg mem ((List.nodup_flatMap.1 inner).1 arg mem) used scope _ free
  | case scrutinee branches span ih =>
      intro distinct used scope asked free
      obtain ⟨-, inner, -⟩ :=
        List.nodup_append.1 (Term.places_case scrutinee branches span ▸ distinct)
      cases typed : armType globals scope asked branches with
      | none =>
          rw [examine_case, typed]
          exact iff_of_false List.not_mem_nil (not_not_intro (.here typed used))
      | some type =>
          rw [Term.uses_case, List.mem_cons, List.mem_flatMap] at used
          rcases used with rfl | ⟨branch, mem, used⟩
          · refine iff_of_true ?_ ?_
            · rw [examine_case, typed, scrutinize_of_unbound unbound free]
              exact List.mem_append_left _ (List.mem_append_left _ (List.mem_singleton_self _))
            · exact not_passedOver_scrutinee distinct typed
          · have place : (TypeError.undefined ident.span ident.name).span ∈ branch.body.places :=
              Term.span_mem_places used
            rw [mem_examine_case distinct typed mem place,
              passedOver_case distinct typed mem used]
            have own := (List.nodup_cons.1 ((List.nodup_flatMap.1 inner).1 branch mem)).2
            refine ih branch mem own used _ (some type) ?_
            rw [(sees_enter unbound.undotted _ _ _).lookup_eq, free]

theorem lookup_paramScope {params : List Param} {name : String}
    (free : name ∉ params.map (·.name.name)) : (paramScope params).lookup name = none := by
  rw [paramScope, Scope.lookup_insertAll_of_not_mem]
  · rfl
  · rwa [List.map_map]

section Functions

variable {uri text : String} {defs : List Def} {definition : Def} {params : List Param}
  {ret : Ident} {body : Term}

/-- The places in front of the body of a function are not places of the body. -/
theorem distinct_body (parsed : parse uri text = .ok defs) (mem : definition ∈ defs)
    (function : definition.body = .func params ret body) :
    (headSpans definition.origin params ++ ret.span :: body.places).Nodup := by
  have head : definition.params = params := by rw [Def.params, function]
  have distinct := (parse_within parsed mem).distinct
  rwa [Def.places, head, function] at distinct

/-- An unbound name that is used in the body of a function of a text that parses, and that is
no parameter, is reported at that use unless the use is passed over. -/
theorem undefined_reported_iff (parsed : parse uri text = .ok defs) (mem : definition ∈ defs)
    (function : definition.body = .func params ret body) {globals : Globals} {ident : Ident}
    (used : ident ∈ body.uses) (free : ident.name ∉ params.map (·.name.name))
    (unbound : Unbound globals ident.name) :
    .undefined ident.span ident.name ∈ definitionErrors globals definition ↔
      ¬ PassedOver globals ident (paramScope params) (some ret.name) body := by
  obtain ⟨first, inner, apart⟩ := List.nodup_append.1 (distinct_body parsed mem function)
  obtain ⟨notResult, own⟩ := List.nodup_cons.1 inner
  have place := Term.span_mem_places used
  have notParam : TypeError.undefined ident.span ident.name ∉
      params.flatMap fun param => annotationErrors globals param.type :=
    (wellPlaced_params globals params (List.nodup_cons.1 first).2).not_mem fun inHead =>
      apart _ (List.mem_cons_of_mem _ inHead) _ (List.mem_cons_of_mem _ place) rfl
  have notRet : TypeError.undefined ident.span ident.name ∉ annotationErrors globals ret :=
    (wellPlaced_annotationErrors globals ret).not_mem fun same =>
      notResult (List.mem_singleton.1 same ▸ place)
  rw [definitionErrors, function]
  simp only [List.mem_append, notParam, notRet, false_or]
  exact undefined_mem_examine_iff unbound body own used (paramScope params) (some ret.name)
    (lookup_paramScope free)

/-- A function without errors uses no unbound name but its parameters, for what is passed over
is inside something with an error. -/
theorem not_unbound_of_clean (parsed : parse uri text = .ok defs) (mem : definition ∈ defs)
    (function : definition.body = .func params ret body) {globals : Globals}
    (clean : definitionErrors globals definition = []) {ident : Ident} (used : ident ∈ body.uses)
    (free : ident.name ∉ params.map (·.name.name)) : ¬ Unbound globals ident.name := by
  intro unbound
  obtain ⟨-, inner, -⟩ := List.nodup_append.1 (distinct_body parsed mem function)
  rw [definitionErrors, function] at clean
  have cleanBody : examine globals (paramScope params) (some ret.name) body = [] :=
    (List.append_eq_nil_iff.1 clean).2
  have reported := undefined_mem_examine_iff unbound body (List.nodup_cons.1 inner).2 used
    (paramScope params) (some ret.name) (lookup_paramScope free)
  rw [cleanBody] at reported
  have reached : ¬ PassedOver globals ident (paramScope params) (some ret.name) body :=
    fun passed => passed.examine_ne_nil rfl cleanBody
  exact absurd (reported.2 reached) List.not_mem_nil

end Functions

/-- A call of nothing that is defined. The first of its arguments has a type, the second has
none. -/
def silentSource : Parser.Source where
  uri := "c"
  text := "type A \x7b a, b \x7d f: A g(case A.a \x7b a: A.b, b: r \x7d, case q \x7b a: s \x7d)"

def silentBody : Term :=
  .app ⟨"g", ⟨21, 22⟩⟩
    [.case ⟨"A.a", ⟨28, 31⟩⟩
      [⟨⟨"a", ⟨34, 35⟩⟩, .ref ⟨"A.b", ⟨37, 40⟩⟩⟩, ⟨⟨"b", ⟨42, 43⟩⟩, .ref ⟨"r", ⟨45, 46⟩⟩⟩] ⟨23, 48⟩,
    .case ⟨"q", ⟨55, 56⟩⟩ [⟨⟨"a", ⟨59, 60⟩⟩, .ref ⟨"s", ⟨62, 63⟩⟩⟩] ⟨50, 65⟩] ⟨21, 66⟩

def silentFunction : Def :=
  silentSource.define "f" ⟨16, 17⟩ ⟨16, 66⟩ (.func [] ⟨"A", ⟨19, 20⟩⟩ silentBody)

def silentDefs : List Def :=
  silentSource.defineType ⟨0, 15⟩ ⟨"A", ⟨5, 6⟩⟩ [(⟨"a", ⟨9, 10⟩⟩, []), (⟨"b", ⟨12, 13⟩⟩, [])] ++
    [silentFunction]

/-- `r` is reported, in the second arm of the first argument. `s` is passed over, in the only
arm of the second. -/
theorem undefined_reported_iff_silent :
    parse "c" silentSource.text = .ok silentDefs ∧ silentFunction ∈ silentDefs ∧
      (∀ name ∈ ["r", "s"], Unbound (tableOf silentDefs).get? name) ∧
      ¬ PassedOver (tableOf silentDefs).get? ⟨"r", ⟨45, 46⟩⟩ (paramScope []) (some "A")
        silentBody ∧
      .undefined ⟨45, 46⟩ "r" ∈ definitionErrors (tableOf silentDefs).get? silentFunction ∧
      PassedOver (tableOf silentDefs).get? ⟨"s", ⟨62, 63⟩⟩ (paramScope []) (some "A") silentBody ∧
      .undefined ⟨62, 63⟩ "s" ∉ definitionErrors (tableOf silentDefs).get? silentFunction := by
  have parsed : parse "c" silentSource.text = .ok silentDefs := by cbv
  have mem : silentFunction ∈ silentDefs := List.mem_append_right _ (by simp)
  have unbound : ∀ name ∈ ["r", "s"], Unbound (tableOf silentDefs).get? name := by
    rw [List.forall_mem_cons, List.forall_mem_singleton]
    exact ⟨unbound_tableOf (by decide) (by decide), unbound_tableOf (by decide) (by decide)⟩
  have unasked : argTypes (tableOf silentDefs).get? (paramScope []) ⟨"g", ⟨21, 22⟩⟩ = [] := by
    decide
  have typed : armType (tableOf silentDefs).get? (paramScope []) none
      [⟨⟨"a", ⟨34, 35⟩⟩, .ref ⟨"A.b", ⟨37, 40⟩⟩⟩, ⟨⟨"b", ⟨42, 43⟩⟩, .ref ⟨"r", ⟨45, 46⟩⟩⟩] =
        some "A" := by
    decide
  have reached : ¬ PassedOver (tableOf silentDefs).get? ⟨"r", ⟨45, 46⟩⟩ (paramScope [])
      (some "A") silentBody := by
    rw [silentBody, passedOver_app (i := 0) (by decide) rfl (by decide), unasked,
      List.getElem?_nil,
      passedOver_case (by decide) typed (List.mem_cons_of_mem _ List.mem_cons_self) (by decide)]
    exact not_passedOver_ref
  have passed : PassedOver (tableOf silentDefs).get? ⟨"s", ⟨62, 63⟩⟩ (paramScope [])
      (some "A") silentBody :=
    .argument (i := 1) rfl (.here (by decide) (by decide))
  have reported : ∀ ident ∈ silentBody.uses, ident.name ∈ ["r", "s"] →
      (.undefined ident.span ident.name ∈
        definitionErrors (tableOf silentDefs).get? silentFunction ↔
        ¬ PassedOver (tableOf silentDefs).get? ident (paramScope []) (some "A") silentBody) :=
    fun ident used named => undefined_reported_iff parsed mem rfl used (by simp)
      (unbound ident.name named)
  refine ⟨parsed, mem, unbound, reached, ?_, passed, ?_⟩
  · exact (reported ⟨"r", ⟨45, 46⟩⟩ (by decide) (by simp)).2 reached
  · exact fun mem => (reported ⟨"s", ⟨62, 63⟩⟩ (by decide) (by simp)).1 mem passed

/-- Of the four unbound names that are used in the function only two are reported. -/
theorem undefined_names_unreported :
    parse "c" silentSource.text = .ok silentDefs ∧ silentFunction ∈ silentDefs ∧
      silentFunction.body = .func [] ⟨"A", ⟨19, 20⟩⟩ silentBody ∧
      (∀ name ∈ ["g", "r", "q", "s"], Unbound (tableOf silentDefs).get? name) ∧
      (⟨"q", ⟨55, 56⟩⟩ : Ident) ∈ silentBody.uses ∧ (⟨"s", ⟨62, 63⟩⟩ : Ident) ∈ silentBody.uses ∧
      definitionErrors (tableOf silentDefs).get? silentFunction =
        [.undefined ⟨21, 22⟩ "g", .undefined ⟨45, 46⟩ "r"] := by
  refine ⟨by cbv, by simp [silentDefs], rfl, ?_, by decide, by decide, by decide⟩
  intro name mem
  refine unbound_tableOf ?_ ?_ <;> revert name <;> decide

end Typing

end LiveCheck
