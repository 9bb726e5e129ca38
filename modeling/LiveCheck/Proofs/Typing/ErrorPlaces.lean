import LiveCheck.Language.Engine
import LiveCheck.Proofs.Language.Parts
import LiveCheck.Proofs.Typing.Examination

/-!
Where the errors of a definition stand.

Every error stands at a place of what was looked at, and none is said twice: no two errors of
a definition are of one kind and at one place (`WellPlaced`). An arm of a case distinction may
be looked at more than once, to find its type and then to check it, but what the first look
finds is dropped. So the errors of a term are those of its parts, and the places of the parts
are different (`Placed.within`); `wellPlaced_examine` puts the two together, one constructor
at a time.
-/

namespace LiveCheck

/-- What kind of error it is, whatever it says. -/
def TypeError.kind (error : TypeError) : Nat := error.ctorIdx

namespace Typing

/-- Errors that stand at some of the given places, no two of one kind at one place. -/
structure WellPlaced (places : List Span) (errors : List TypeError) : Prop where
  placed : ∀ error ∈ errors, error.span ∈ places
  once : (errors.map fun error => (error.kind, error.span)).Nodup

/-! ## Lists of errors -/

section Lists

variable {places more : List Span} {errors others : List TypeError}

theorem wellPlaced_nil (places : List Span) : WellPlaced places [] where
  placed := List.forall_mem_nil _
  once := List.nodup_nil

theorem wellPlaced_singleton {error : TypeError} (placed : error.span ∈ places) :
    WellPlaced places [error] where
  placed := List.forall_mem_singleton.2 placed
  once := List.nodup_singleton _

theorem WellPlaced.not_mem (wellPlaced : WellPlaced places errors) {error : TypeError}
    (elsewhere : error.span ∉ places) : error ∉ errors :=
  fun mem => elsewhere (wellPlaced.placed error mem)

theorem WellPlaced.mono (wellPlaced : WellPlaced places errors) (subset : places ⊆ more) :
    WellPlaced more errors where
  placed error mem := subset (wellPlaced.placed error mem)
  once := wellPlaced.once

theorem WellPlaced.perm (wellPlaced : WellPlaced places errors) (perm : errors.Perm others) :
    WellPlaced places others where
  placed error mem := wellPlaced.placed error (perm.mem_iff.2 mem)
  once := (perm.map _).nodup_iff.1 wellPlaced.once

/-- Errors of two parts whose places are different. -/
theorem WellPlaced.append (first : WellPlaced places errors) (second : WellPlaced more others)
    (distinct : (places ++ more).Nodup) : WellPlaced (places ++ more) (errors ++ others) := by
  obtain ⟨-, -, apart⟩ := List.nodup_append.1 distinct
  constructor
  · rw [List.forall_mem_append]
    exact ⟨fun error mem => List.mem_append_left _ (first.placed error mem),
      fun error mem => List.mem_append_right _ (second.placed error mem)⟩
  · rw [List.map_append, List.nodup_append]
    refine ⟨first.once, second.once, ?_⟩
    rintro mark marked mark' marked' same
    obtain ⟨error, mem, rfl⟩ := List.mem_map.1 marked
    obtain ⟨error', mem', rfl⟩ := List.mem_map.1 marked'
    have place : error.span = error'.span := congrArg Prod.snd same
    exact apart _ (first.placed error mem) _ (second.placed error' mem') place

/-- Errors of a whole, some of them before and some after those of its inner parts. -/
theorem WellPlaced.around {before after : List TypeError}
    (outer : WellPlaced places (before ++ after)) (inner : WellPlaced more errors)
    (distinct : (places ++ more).Nodup) :
    WellPlaced (places ++ more) (before ++ errors ++ after) := by
  refine (outer.append inner distinct).perm ?_
  rw [List.append_assoc, List.append_assoc]
  exact List.perm_append_comm.append_left before

theorem WellPlaced.flatMap {α : Type} {parts : List α} {places : α → List Span}
    {errors : α → List TypeError}
    (each : ∀ part ∈ parts, (places part).Nodup → WellPlaced (places part) (errors part))
    (distinct : (parts.flatMap places).Nodup) :
    WellPlaced (parts.flatMap places) (parts.flatMap errors) := by
  induction parts with
  | nil => exact wellPlaced_nil _
  | cons part rest ih =>
      rw [List.forall_mem_cons] at each
      rw [List.flatMap_cons] at distinct ⊢
      obtain ⟨own, others, -⟩ := List.nodup_append.1 distinct
      rw [List.flatMap_cons]
      exact (each.1 own).append (ih each.2 others) distinct

end Lists

/-! ## Single errors -/

section Single

variable {globals : Globals} {scope : Scope} {asked : Option String}

theorem span_of_inferRef {ident : Ident} {error : TypeError}
    (wrong : inferRef globals scope ident = .error error) : error.span = ident.span := by
  unfold inferRef at wrong
  split at wrong
  · cases wrong
  · split at wrong <;> cases wrong <;> rfl

theorem span_of_callee {func : Ident} {error : TypeError}
    (wrong : callee globals scope func = .error error) : error.span = func.span := by
  unfold callee at wrong
  split at wrong
  · cases wrong
    rfl
  · split at wrong <;> cases wrong <;> rfl

theorem wellPlaced_annotationErrors (globals : Globals) (type : Ident) :
    WellPlaced [type.span] (annotationErrors globals type) := by
  unfold annotationErrors
  split
  · exact wellPlaced_singleton (List.mem_singleton_self _)
  · split
    · exact wellPlaced_nil _
    · exact wellPlaced_singleton (List.mem_singleton_self _)

theorem wellPlaced_compare (span : Span) (expected detected : String) :
    WellPlaced [span] (compare scope span expected detected) := by
  unfold compare
  split
  · exact wellPlaced_nil _
  · exact wellPlaced_singleton (List.mem_singleton_self _)

theorem wellPlaced_ref (ident : Ident) :
    WellPlaced [ident.span] (examine globals scope asked (.ref ident)) := by
  have wrong : ∀ error, inferRef globals scope ident = .error error →
      WellPlaced [ident.span] [error] := fun error wrong =>
    wellPlaced_singleton (by rw [span_of_inferRef wrong]; exact List.mem_singleton_self _)
  cases asked with
  | none =>
      rw [examine, infer]
      cases inferred : inferRef globals scope ident with
      | ok type => exact wellPlaced_nil _
      | error error => exact wrong error inferred
  | some expected =>
      rw [examine, check, checkRef]
      split
      · split
        · exact wellPlaced_nil _
        · exact wellPlaced_singleton (List.mem_singleton_self _)
      · cases inferred : inferRef globals scope ident with
        | ok type => exact wellPlaced_compare _ _ _
        | error error => exact wrong error inferred

/-- What is wrong with a call besides its arguments. The number of arguments and the result
are both reported at the whole call, but these are errors of two kinds. -/
theorem wellPlaced_call (func : Ident) (args : List Term) (span : Span) :
    WellPlaced [span, func.span] (callErrors globals scope func args span ++
      resultErrors globals scope asked func span) := by
  unfold callErrors resultErrors
  cases called : callee globals scope func with
  | error error =>
      rw [List.append_nil]
      apply wellPlaced_singleton
      rw [span_of_callee called]
      exact List.mem_cons_of_mem _ (List.mem_singleton_self _)
  | ok callable =>
      have arity : WellPlaced [span]
          (checkArity span func.name callable.params.length args.length) := by
        unfold checkArity
        split
        · exact wellPlaced_nil _
        · exact wellPlaced_singleton (List.mem_singleton_self _)
      cases asked with
      | none =>
          rw [List.append_nil]
          exact arity.mono (List.cons_subset_cons _ (List.nil_subset _))
      | some expected =>
          unfold checkArity compare
          dsimp only
          split
          · split
            · exact wellPlaced_nil _
            · exact wellPlaced_singleton List.mem_cons_self
          · split
            · exact wellPlaced_singleton List.mem_cons_self
            · refine ⟨?_, ?_⟩
              · simp [TypeError.span]
              · simp [TypeError.kind, TypeError.ctorIdx]

theorem wellPlaced_scrutinize (globals : Globals) (scope : Scope) (name : Ident) :
    WellPlaced [name.span] (scrutinize globals scope name).1 := by
  unfold scrutinize
  cases inferred : inferRef globals scope name with
  | error error =>
      apply wellPlaced_singleton
      rw [span_of_inferRef inferred]
      exact List.mem_singleton_self _
  | ok type =>
      dsimp only
      split
      · split <;> exact wellPlaced_nil _
      · exact wellPlaced_nil _

theorem wellPlaced_enter (scope : Scope) (name : String) (scrutinee : Option Scrutinee)
    (ctor : Ident) :
    WellPlaced [ctor.span] (enter scope name scrutinee ctor).1 := by
  unfold enter
  split
  · exact wellPlaced_nil _
  · split
    · exact wellPlaced_nil _
    · exact wellPlaced_singleton (List.mem_singleton_self _)

theorem wellPlaced_checkComplete (span : Span) (scrutinee : Option Scrutinee)
    (branches : List (Branch Term)) :
    WellPlaced [span] (checkComplete span scrutinee branches) := by
  unfold checkComplete
  split
  · exact wellPlaced_nil _
  · split
    · exact wellPlaced_nil _
    · exact wellPlaced_singleton (List.mem_singleton_self _)

end Single

/-! ## Terms -/

section Terms

variable {globals : Globals}

theorem wellPlaced_checkArgs {args : List Term}
    (each : ∀ arg ∈ args, arg.places.Nodup → ∀ scope asked,
      WellPlaced arg.places (examine globals scope asked arg))
    (distinct : (args.flatMap Term.places).Nodup) (scope : Scope) (params : List String) :
    WellPlaced (args.flatMap Term.places) (checkArgs globals scope params args) := by
  induction args generalizing params with
  | nil => exact wellPlaced_nil _
  | cons arg rest ih =>
      rw [List.forall_mem_cons] at each
      rw [List.flatMap_cons] at distinct ⊢
      obtain ⟨own, others, -⟩ := List.nodup_append.1 distinct
      rw [checkArgs_cons]
      exact (each.1 own scope _).append (ih each.2 others _) distinct

theorem wellPlaced_armErrors {branch : Branch Term}
    (body : branch.body.places.Nodup → ∀ scope asked,
      WellPlaced branch.body.places (examine globals scope asked branch.body))
    (distinct : (Term.armPlaces branch).Nodup) (scope : Scope) (type name : String)
    (scrutinee : Option Scrutinee) :
    WellPlaced (Term.armPlaces branch) (armErrors globals scope type name scrutinee branch) :=
  (wellPlaced_enter scope name scrutinee branch.ctor).append
    (body (List.nodup_cons.1 distinct).2 _ (some type)) distinct

/-- The errors of a term stand at its places, no two of one kind at one place. -/
theorem wellPlaced_examine (globals : Globals) (term : Term) : term.places.Nodup → ∀ scope asked,
    WellPlaced term.places (examine globals scope asked term) := by
  induction term using Term.induct with
  | ref ident =>
      intro _ scope asked
      exact wellPlaced_ref ident
  | app func args span ih =>
      intro distinct scope asked
      rw [Term.places_app] at distinct ⊢
      have inner := wellPlaced_checkArgs ih (List.nodup_append.1 distinct).2.1 scope
        (argTypes globals scope func)
      rw [examine_app]
      exact (wellPlaced_call func args span).around inner distinct
  | case scrutinee branches span ih =>
      intro distinct scope asked
      rw [Term.places_case] at distinct ⊢
      rw [examine_case]
      obtain ⟨own, inside, -⟩ := List.nodup_append.1 distinct
      split
      · exact wellPlaced_nil _
      · next type _ =>
        have outer := (wellPlaced_scrutinize globals scope scrutinee).append
          (wellPlaced_checkComplete span (scrutinize globals scope scrutinee).2 branches)
          (List.nodup_reverse.2 own)
        refine (outer.mono ?_).around (.flatMap ?_ inside) distinct
        · exact (List.reverse_perm [span, scrutinee.span]).subset
        · exact fun branch mem distinct => wellPlaced_armErrors (ih branch mem) distinct scope _ _ _

end Terms

/-! ## Definitions -/

section Definitions

variable (globals : Globals)

theorem wellPlaced_params (params : List Param)
    (distinct : (params.flatMap fun param => [param.name.span, param.type.span]).Nodup) :
    WellPlaced (params.flatMap fun param => [param.name.span, param.type.span])
      (params.flatMap fun param => annotationErrors globals param.type) :=
  .flatMap (fun param _ _ => (wellPlaced_annotationErrors globals param.type).mono
    (List.subset_cons_self _ _)) distinct

/-- The errors of a definition stand at its places, no two of one kind at one place. -/
theorem wellPlaced_definitionErrors {definition : Def} (distinct : definition.places.Nodup) :
    WellPlaced definition.places (definitionErrors globals definition) := by
  unfold Def.places Def.params headSpans at *
  unfold definitionErrors
  cases isBody : definition.body with
  | type ctors => exact wellPlaced_nil _
  | ctor owner fields =>
      simp only [isBody, List.append_nil] at distinct ⊢
      exact (wellPlaced_params globals fields (List.nodup_cons.1 distinct).2).mono
        (List.subset_cons_self _ _)
  | func params ret body =>
      simp only [isBody, List.cons_append] at distinct ⊢
      have distinct := (List.nodup_cons.1 distinct).2
      obtain ⟨inHead, behind, -⟩ := List.nodup_append.1 distinct
      have result := (wellPlaced_annotationErrors globals ret).append
        (wellPlaced_examine globals body (List.nodup_cons.1 behind).2 (paramScope params)
          (some ret.name)) behind
      have both := (wellPlaced_params globals params inHead).append result distinct
      rw [List.append_assoc]
      exact both.mono (List.subset_cons_self _ _)

/-- Every error of a definition of a text that parses, whatever the other definitions are,
stands at the place of one of its names or terms, inside the definition, and no two of the
errors are of one kind at one place. -/
theorem definitionErrors_placed {uri text : String} {defs : List Def}
    (parsed : parse uri text = .ok defs) {definition : Def} (mem : definition ∈ defs) :
    (∀ error ∈ definitionErrors globals definition,
      error.span ∈ definition.places ∧ error.span.Inside definition.extent ∧
        error.span.start ≤ error.span.stop) ∧
      ((definitionErrors globals definition).map fun error => (error.kind, error.span)).Nodup := by
  have within := parse_within parsed mem
  have wellPlaced := wellPlaced_definitionErrors globals within.distinct
  refine ⟨fun error errorMem => ?_, wellPlaced.once⟩
  have place := wellPlaced.placed error errorMem
  exact ⟨place, within.inside _ place, Nat.le_of_lt (within.proper _ place)⟩

/-- A call with one argument too many, a case distinction that has another as its first arm. -/
def surplusSource : Parser.Source where
  uri := "c"
  text :=
    "type T \x7b a, b \x7d f(p: T): T T.a(case p \x7b a: case p \x7b a: p, b: u \x7d, b: v \x7d)"

def surplusBody : Term :=
  .app ⟨"T.a", ⟨27, 30⟩⟩
    [.case ⟨"p", ⟨36, 37⟩⟩
      [⟨⟨"a", ⟨40, 41⟩⟩, .case ⟨"p", ⟨48, 49⟩⟩
        [⟨⟨"a", ⟨52, 53⟩⟩, .ref ⟨"p", ⟨55, 56⟩⟩⟩,
        ⟨⟨"b", ⟨58, 59⟩⟩, .ref ⟨"u", ⟨61, 62⟩⟩⟩] ⟨43, 64⟩⟩,
      ⟨⟨"b", ⟨66, 67⟩⟩, .ref ⟨"v", ⟨69, 70⟩⟩⟩] ⟨31, 72⟩] ⟨27, 73⟩

def surplusFunction : Def :=
  surplusSource.define "f" ⟨16, 17⟩ ⟨16, 73⟩
    (.func [⟨⟨"p", ⟨18, 19⟩⟩, ⟨"T", ⟨21, 22⟩⟩⟩] ⟨"T", ⟨25, 26⟩⟩ surplusBody)

def surplusDefs : List Def :=
  surplusSource.defineType ⟨0, 15⟩ ⟨"T", ⟨5, 6⟩⟩ [(⟨"a", ⟨9, 10⟩⟩, []), (⟨"b", ⟨12, 13⟩⟩, [])] ++
    [surplusFunction]

/-- The inner case distinction is looked at twice, for its type and against it, and `u` is
reported once. -/
theorem definitionErrors_placed_surplus :
    parse "c" surplusSource.text = .ok surplusDefs ∧ surplusFunction ∈ surplusDefs ∧
      definitionErrors (tableOf surplusDefs).get? surplusFunction =
        [.arity ⟨27, 73⟩ "T.a" 0 1, .undefined ⟨61, 62⟩ "u", .undefined ⟨69, 70⟩ "v"] ∧
      (⟨61, 62⟩ : Span) ∈ surplusFunction.places ∧
      (⟨61, 62⟩ : Span).Inside surplusFunction.extent := by
  have parsed : parse "c" surplusSource.text = .ok surplusDefs := by cbv
  have mem : surplusFunction ∈ surplusDefs := List.mem_append_right _ (by simp)
  have errors : definitionErrors (tableOf surplusDefs).get? surplusFunction =
        [.arity ⟨27, 73⟩ "T.a" 0 1, .undefined ⟨61, 62⟩ "u", .undefined ⟨69, 70⟩ "v"] := by
    decide
  obtain ⟨placed, -⟩ := definitionErrors_placed (tableOf surplusDefs).get? parsed mem
  obtain ⟨place, inside, -⟩ := placed (.undefined ⟨61, 62⟩ "u") (by rw [errors]; simp)
  exact ⟨parsed, mem, errors, place, inside⟩

end Definitions

end Typing

end LiveCheck
