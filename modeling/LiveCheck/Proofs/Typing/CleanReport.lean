import LiveCheck.Proofs.Language.Declared
import LiveCheck.Proofs.Typing.Soundness
import Mathlib

/-!
A clean report means well typed.

The definitions of parsed files with distinct names are found under their names, and types
and constructors come together among them. Whether their annotations name types the report
itself says: if it is empty, they do. So the report is empty exactly when every definition
is well typed, provided that no bare name can be read as a constructor of the wrong type.
One that can goes unreported.
-/

namespace LiveCheck

namespace Typing

variable {files : List (String × String)} {defs : List Def}

theorem body?_tableOf (distinct : (defs.map Def.name).Nodup) {name : String} {body : Def.Body} :
    body? (tableOf defs).get? name = some body ↔
      ∃ definition ∈ defs, definition.name = name ∧ definition.body = body := by
  simp only [body?, Option.map_eq_some_iff, get?_tableOf_eq_some distinct, and_assoc]

theorem closed_tableOf (paired : Paired defs) (distinct : (defs.map Def.name).Nodup) :
    Closed (tableOf defs).get? where
  ctors type names declared name listed := by
    obtain ⟨definition, mem, rfl, body⟩ := (body?_tableOf distinct).1 declared
    obtain ⟨⟨short, rfl⟩, ctor, ctorMem, named, owner, fields, ctorBody, owned⟩ :=
      paired.ctors definition mem names body name listed
    exact ⟨short, fields, rfl, owner, (body?_tableOf distinct).2 ⟨ctor, ctorMem, named, ctorBody⟩,
      owned⟩
  types name owner fields defined := by
    obtain ⟨ctor, mem, rfl, body⟩ := (body?_tableOf distinct).1 defined
    obtain ⟨type, typeMem, named, names, typeBody, listed⟩ :=
      paired.types ctor mem owner fields body
    exact ⟨names, (body?_tableOf distinct).2 ⟨type, typeMem, named, typeBody⟩, listed⟩

theorem resolved_tableOf (distinct : (defs.map Def.name).Nodup)
    (annotated : ∀ definition ∈ defs, ∀ type ∈ annotations definition.body,
      IsType (tableOf defs).get? type.name) : Resolved (tableOf defs).get? := by
  intro name body defined
  obtain ⟨definition, mem, -, rfl⟩ := (body?_tableOf distinct).1 defined
  exact annotated definition mem

theorem report_check_eq_nil (distinct : (defs.map Def.name).Nodup) :
    ∃ result, formality.check (tableOf defs).keys (tableOf defs) = .ok result ∧
      (result.report = [] ↔
        ∀ definition ∈ defs, definitionErrors (tableOf defs).get? definition = []) := by
  refine ⟨_, rfl, ?_⟩
  have checked : ∀ definition, definition ∈ (tableOf defs).keys.filterMap (tableOf defs).get? ↔
      definition ∈ defs := by
    intro definition
    rw [List.mem_filterMap]
    constructor
    · rintro ⟨name, -, found⟩
      exact ((get?_tableOf_eq_some distinct).1 found).1
    · intro mem
      have found := (get?_tableOf_eq_some distinct).2 ⟨mem, rfl⟩
      exact ⟨definition.name, Table.mem_keys.2 (Table.contains_eq_true.2 ⟨_, found⟩), found⟩
  simp only [judgeAll, judge, List.flatMap_map, List.flatMap_eq_nil_iff, checked, Def.records,
    List.map_eq_nil_iff]

/-- Files with distinct names have a clean report exactly when every definition is well
typed, unless a bare name can be read as a constructor of the wrong type. -/
theorem clean_iff_wellTyped (parsed : ParsedFrom files defs)
    (distinct : (defs.map Def.name).Nodup) (unambiguous : Unambiguous (tableOf defs).get?) :
    ∃ result, formality.check (tableOf defs).keys (tableOf defs) = .ok result ∧
      (result.report = [] ↔ ∀ definition ∈ defs, WellTyped (tableOf defs).get? definition) := by
  obtain ⟨result, checked, clean⟩ := report_check_eq_nil distinct
  refine ⟨result, checked, clean.trans ?_⟩
  have closed := closed_tableOf parsed.paired distinct
  -- Either side says that all annotations name types, which the other needs.
  constructor
  · intro clean
    have resolved := resolved_tableOf distinct fun definition mem =>
      (definitionErrors_eq_nil.1 (clean definition mem)).1
    have regular : Regular (tableOf defs).get? := ⟨closed, resolved, unambiguous⟩
    exact fun definition mem =>
      (definitionErrors_eq_nil_iff_wellTyped regular).1 (clean definition mem)
  · intro wellTyped
    have resolved := resolved_tableOf distinct fun definition mem =>
      (wellTyped definition mem).annotations
    have regular : Regular (tableOf defs).get? := ⟨closed, resolved, unambiguous⟩
    exact fun definition mem =>
      (definitionErrors_eq_nil_iff_wellTyped regular).2 (wellTyped definition mem)

/-- Numbers, and in a second file the function that subtracts one. -/
def predFiles : List (String × String) :=
  [("a", "type Nat \x7b zero, succ(pred: Nat) \x7d"),
    ("b", "pred(n: Nat): Nat case n \x7b zero: zero, succ: n.pred \x7d")]

def natTypes : List Def :=
  Parser.Source.defineType ⟨"a", "type Nat \x7b zero, succ(pred: Nat) \x7d"⟩ ⟨0, 34⟩
    ⟨"Nat", ⟨5, 8⟩⟩
    [(⟨"zero", ⟨11, 15⟩⟩, []),
      (⟨"succ", ⟨17, 21⟩⟩, [⟨⟨"pred", ⟨22, 26⟩⟩, ⟨"Nat", ⟨28, 31⟩⟩⟩])]

def predFunction : Def where
  name := "pred"
  file := "b"
  source := "pred(n: Nat): Nat case n \x7b zero: zero, succ: n.pred \x7d"
  origin := ⟨0, 4⟩
  extent := ⟨0, 53⟩
  body := .func [⟨⟨"n", ⟨5, 6⟩⟩, ⟨"Nat", ⟨8, 11⟩⟩⟩] ⟨"Nat", ⟨14, 17⟩⟩
    (.case ⟨"n", ⟨23, 24⟩⟩
      [⟨⟨"zero", ⟨27, 31⟩⟩, .ref ⟨"zero", ⟨33, 37⟩⟩⟩,
        ⟨⟨"succ", ⟨39, 43⟩⟩, .ref ⟨"n.pred", ⟨45, 51⟩⟩⟩] ⟨18, 53⟩)

theorem parsedFrom_predFiles : ParsedFrom predFiles (natTypes ++ [predFunction]) := by
  have types : parse "a" "type Nat \x7b zero, succ(pred: Nat) \x7d" = .ok natTypes := by cbv
  have function : parse "b" "pred(n: Nat): Nat case n \x7b zero: zero, succ: n.pred \x7d" =
      .ok [predFunction] := by
    cbv
  exact .cons types (.cons function .nil)

theorem distinct_predFiles : ((natTypes ++ [predFunction]).map Def.name).Nodup := by
  decide

theorem unambiguous_predFiles : Unambiguous (tableOf (natTypes ++ [predFunction])).get? := by
  have types : ∀ definition ∈ natTypes ++ [predFunction], ∀ names,
      definition.body = .type names → definition.name = "Nat" := by
    simp [natTypes, predFunction, Parser.Source.defineType, Parser.Source.define]
  have owners : ∀ definition ∈ natTypes ++ [predFunction], ∀ owner fields,
      definition.body = .ctor owner fields → owner.name = "Nat" := by
    simp [natTypes, predFunction, Parser.Source.defineType, Parser.Source.define]
  rintro type short owner ⟨names, declared⟩ - defined
  obtain ⟨definition, mem, rfl, body⟩ := (body?_tableOf distinct_predFiles).1 declared
  obtain ⟨ctor, ctorMem, -, ctorBody⟩ := (body?_tableOf distinct_predFiles).1 defined
  rw [types definition mem names body, owners ctor ctorMem owner [] ctorBody]

/-- The report is clean, so the function has the type it declares: its first arm by a bare
name, its second by a field. -/
theorem clean_iff_wellTyped_pred :
    ∃ result, formality.check (tableOf (natTypes ++ [predFunction])).keys
        (tableOf (natTypes ++ [predFunction])) = .ok result ∧
      result.report = [] ∧
      WellTyped (tableOf (natTypes ++ [predFunction])).get? predFunction := by
  obtain ⟨result, checked, clean⟩ :=
    clean_iff_wellTyped parsedFrom_predFiles distinct_predFiles unambiguous_predFiles
  have empty : result.report = [] := by
    cases checked
    decide
  exact ⟨result, checked, empty, clean.1 empty predFunction (by simp)⟩

/-- Two types of one file, one of them named as if it were inside the other, and a function
that returns a constructor of the inner one where the outer one is declared. -/
def nestedTypes : List Def :=
  let source : Parser.Source := ⟨"a", "type A \x7b x \x7d type A.B \x7b c \x7d f: A B.c"⟩
  source.defineType ⟨0, 12⟩ ⟨"A", ⟨5, 6⟩⟩ [(⟨"x", ⟨9, 10⟩⟩, [])] ++
    source.defineType ⟨13, 27⟩ ⟨"A.B", ⟨18, 21⟩⟩ [(⟨"c", ⟨24, 25⟩⟩, [])] ++
    [source.define "f" ⟨28, 29⟩ ⟨28, 36⟩
      (.func [] ⟨"A", ⟨31, 32⟩⟩ (.ref ⟨"B.c", ⟨33, 36⟩⟩))]

/-- The report is clean, but the body of the function does not have the type `A`: the bare
name stands for `A.B.c`, which is a constructor of `A.B`. -/
theorem clean_report_of_foreign_constructor :
    ParsedFrom [("a", "type A \x7b x \x7d type A.B \x7b c \x7d f: A B.c")] nestedTypes ∧
      (nestedTypes.map Def.name).Nodup ∧
      (∃ result, formality.check (tableOf nestedTypes).keys (tableOf nestedTypes) = .ok result ∧
        result.report = []) ∧
      body? (tableOf nestedTypes).get? "f" =
        some (.func [] ⟨"A", ⟨31, 32⟩⟩ (.ref ⟨"B.c", ⟨33, 36⟩⟩)) ∧
      ¬ HasType (tableOf nestedTypes).get? [] (.ref ⟨"B.c", ⟨33, 36⟩⟩) "A" := by
  refine ⟨?_, by decide, ⟨_, rfl, by decide⟩, rfl, ?_⟩
  · have parsed : parse "a" "type A \x7b x \x7d type A.B \x7b c \x7d f: A B.c" =
        .ok nestedTypes := by
      cbv
    have joined := ParsedFrom.cons parsed .nil
    rwa [List.append_nil] at joined
  · intro typed
    cases typed with
    | name typed =>
        cases typed with
        | bound bound => cases bound
        | global unbound callable => exact absurd callable.isSome (by decide)
    | constant unbound undefined constructs =>
        obtain ⟨owner, defined, owned⟩ := constructs
        have found : body? (tableOf nestedTypes).get? ("A" ++ "." ++ "B.c") =
            some (.ctor ⟨"A.B", ⟨18, 21⟩⟩ []) := rfl
        rw [found] at defined
        cases defined
        exact absurd owned (by decide)

end Typing

end LiveCheck
