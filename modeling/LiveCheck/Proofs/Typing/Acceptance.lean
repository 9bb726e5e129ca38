import LiveCheck.Proofs.Typing.CleanReport

/-!
A well typed function is accepted.

The rules speak of one function at a time, and so does the checker: it has no errors for a
function that the rules give its type, even where other definitions are broken
(`typed_function_checked`). All that it needs from the others is that types and constructors
come together, which holds for whatever is parsed.
-/

namespace LiveCheck

namespace Typing

variable {files : List (String × String)} {defs : List Def} {definition : Def}

/-- What is checked under the name of a definition is the definition itself. -/
theorem eq_judge_of_mem_judgeAll (distinct : (defs.map Def.name).Nodup) (mem : definition ∈ defs)
    {names : List String} {judged : Def × List TypeError}
    (found : judged ∈ judgeAll names (tableOf defs).get?)
    (named : judged.1.name = definition.name) :
    judged = judge (tableOf defs).get? definition := by
  obtain ⟨other, otherMem, rfl⟩ := List.mem_map.1 found
  obtain ⟨name, -, otherFound⟩ := List.mem_filterMap.1 otherMem
  obtain ⟨otherDef, -⟩ := (get?_tableOf_eq_some distinct).1 otherFound
  have named : other.name = definition.name := named
  rw [List.inj_on_of_nodup_map distinct otherDef mem named]

theorem judge_mem_judgeAll (distinct : (defs.map Def.name).Nodup) (mem : definition ∈ defs)
    {names : List String} (asked : definition.name ∈ names) :
    judge (tableOf defs).get? definition ∈ judgeAll names (tableOf defs).get? := by
  have found := (get?_tableOf_eq_some distinct).2 ⟨mem, rfl⟩
  exact List.mem_map_of_mem (List.mem_filterMap.2 ⟨definition.name, asked, found⟩)

theorem judge_of_definitionErrors_eq_nil {globals : Globals}
    (clean : definitionErrors globals definition = []) :
    judge globals definition = ({ definition with state := .checked }, []) := by
  simp only [judge, clean, List.isEmpty_nil, if_true]

/-- Among the definitions of parsed files with distinct names, a function whose annotations
name types and whose body has the type it declares has no errors, and every check of it
marks it as checked. -/
theorem typed_function_checked (parsed : ParsedFrom files defs)
    (distinct : (defs.map Def.name).Nodup) (mem : definition ∈ defs)
    {params : List Param} {ret : Ident} {body : Term}
    (function : definition.body = .func params ret body)
    (annotated : ∀ type ∈ params.map (·.type) ++ [ret], IsType (tableOf defs).get? type.name)
    (typed : HasType (tableOf defs).get? (paramLocals params) body ret.name) :
    definitionErrors (tableOf defs).get? definition = [] ∧
      ∀ names, ∃ result, formality.check names (tableOf defs) = .ok result ∧
        (definition.name ∈ names → { definition with state := .checked } ∈ result.definitions) ∧
        ∀ checked ∈ result.definitions, checked.name = definition.name →
          checked = { definition with state := .checked } := by
  have closed := closed_tableOf parsed.paired distinct
  have wellTyped : WellTyped (tableOf defs).get? definition := by
    constructor
    · rw [function]
      exact annotated
    · intro params' ret' body' function'
      rw [function] at function'
      cases function'
      exact typed
  have clean := wellTyped.definitionErrors_eq_nil closed
  have judged := judge_of_definitionErrors_eq_nil clean
  refine ⟨clean, fun names => ⟨_, rfl, ?_, ?_⟩⟩
  · intro asked
    have found := judge_mem_judgeAll distinct mem asked
    rw [judged] at found
    exact List.mem_map_of_mem found
  · intro checked found named
    obtain ⟨entry, entryMem, rfl⟩ := List.mem_map.1 found
    rw [eq_judge_of_mem_judgeAll distinct mem entryMem named, judged]

/-- A function that returns a type that nothing declares. -/
def strayFunction : Def where
  name := "stray"
  file := "c"
  source := "stray: Gone zero"
  origin := ⟨0, 5⟩
  extent := ⟨0, 16⟩
  body := .func [] ⟨"Gone", ⟨7, 11⟩⟩ (.ref ⟨"zero", ⟨12, 16⟩⟩)

/-- The function that subtracts one is accepted beside a function with errors. -/
theorem typed_function_checked_beside_stray :
    let defs := [strayFunction] ++ (natTypes ++ [predFunction])
    ParsedFrom (("c", "stray: Gone zero") :: predFiles) defs ∧ (defs.map Def.name).Nodup ∧
      definitionErrors (tableOf defs).get? strayFunction ≠ [] ∧
      IsType (tableOf defs).get? "Nat" ∧
      (∃ params ret body, predFunction.body = .func params ret body ∧
        HasType (tableOf defs).get? (paramLocals params) body ret.name) ∧
      definitionErrors (tableOf defs).get? predFunction = [] ∧
      ∃ result, formality.check ["stray", "pred"] (tableOf defs) = .ok result ∧
        { predFunction with state := .checked } ∈ result.definitions := by
  intro defs
  have stray : parse "c" "stray: Gone zero" = .ok [strayFunction] := by cbv
  have parsed : ParsedFrom (("c", "stray: Gone zero") :: predFiles) defs :=
    .cons stray parsedFrom_predFiles
  have distinct : (defs.map Def.name).Nodup := by decide
  have mem : predFunction ∈ defs := List.mem_append_right _ (by simp)
  have isType : IsType (tableOf defs).get? "Nat" := ⟨["Nat.zero", "Nat.succ"], rfl⟩
  have zero : IsConstructor (tableOf defs).get? "Nat" "zero" [] := ⟨⟨"Nat", ⟨5, 8⟩⟩, rfl, rfl⟩
  have succ : IsConstructor (tableOf defs).get? "Nat" "succ"
      [⟨⟨"pred", ⟨22, 26⟩⟩, ⟨"Nat", ⟨28, 31⟩⟩⟩] := ⟨⟨"Nat", ⟨5, 8⟩⟩, rfl, rfl⟩
  have typed : HasType (tableOf defs).get? [("n", "Nat")]
      (.case ⟨"n", ⟨23, 24⟩⟩
        [⟨⟨"zero", ⟨27, 31⟩⟩, .ref ⟨"zero", ⟨33, 37⟩⟩⟩,
          ⟨⟨"succ", ⟨39, 43⟩⟩, .ref ⟨"n.pred", ⟨45, 51⟩⟩⟩] ⟨18, 53⟩) "Nat" := by
    refine .case (.bound rfl) isType ?_ ?_ ?_
    · rw [List.forall_mem_cons, List.forall_mem_singleton]
      exact ⟨⟨_, zero⟩, ⟨_, succ⟩⟩
    · intro short fields constructs
      have declared : body? (tableOf defs).get? "Nat" = some (.type ["Nat.zero", "Nat.succ"]) := rfl
      have listed := qualified_mem (closed_tableOf parsed.paired distinct) declared constructs
      have zeroName : variantName "Nat" "Nat.zero" = "zero" := by decide
      have succName : variantName "Nat" "Nat.succ" = "succ" := by decide
      rw [List.mem_pair] at listed
      rcases listed with named | named
      · rw [← variantName_qualified "Nat" short, named, zeroName]
        exact ⟨_, List.mem_cons_self, rfl⟩
      · rw [← variantName_qualified "Nat" short, named, succName]
        exact ⟨_, List.mem_cons_of_mem _ List.mem_cons_self, rfl⟩
    · rw [List.forall_mem_cons, List.forall_mem_singleton]
      constructor
      · intro fields constructs
        rw [constructs.fields_eq zero]
        exact .constant rfl rfl zero
      · intro fields constructs
        rw [constructs.fields_eq succ]
        exact .name (.bound rfl)
  have annotated : ∀ type ∈ [(⟨"Nat", ⟨8, 11⟩⟩ : Ident)] ++ [⟨"Nat", ⟨14, 17⟩⟩],
      IsType (tableOf defs).get? type.name := by
    rw [List.forall_mem_append, List.forall_mem_singleton, List.forall_mem_singleton]
    exact ⟨isType, isType⟩
  obtain ⟨clean, checks⟩ := typed_function_checked parsed distinct mem rfl annotated typed
  obtain ⟨result, checked, marked, -⟩ := checks ["stray", "pred"]
  exact ⟨parsed, distinct, by decide, isType, ⟨_, _, _, rfl, typed⟩, clean, result, checked,
    marked (by decide)⟩

end Typing

end LiveCheck
