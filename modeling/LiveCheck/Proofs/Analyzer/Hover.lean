import LiveCheck.Proofs.Analyzer.Repeated
import LiveCheck.Proofs.Language.Declared
import LiveCheck.Proofs.Language.Words
import LiveCheck.Proofs.Typing.Undefined

/-!
What is shown for a parameter.

The checker and the hover of an editor each look a name up in their own way. The checker takes
the newest local binding, and a global definition only if there is none (`LooksUp`). Hover
takes a global definition first, and then the first parameter of that name of the definition
around the cursor. They agree on a parameter that stands between delimiters if no global
definition has its name and if no other parameter of the name has another type
(`hover_parameter`).
-/

namespace LiveCheck

/-! ## Where the checker looks a name up -/

namespace Typing

variable {globals : Globals} {ident : Ident} {inner outer : Scope} {term : Term}

/-- The check of a term comes to a name that is used as a term, or that a case distinction is
on, and looks it up in the scope `inner`. -/
inductive LooksUp (globals : Globals) (ident : Ident) (inner : Scope) : Scope → Term → Prop where
  | ref : LooksUp globals ident inner inner (.ref ident)
  | scrutinee {branches : List (Branch Term)} {span : Span} :
      LooksUp globals ident inner inner (.case ident branches span)
  | argument {scope : Scope} {func : Ident} {args : List Term} {span : Span} {arg : Term}
      (mem : arg ∈ args) (inside : LooksUp globals ident inner scope arg) :
      LooksUp globals ident inner scope (.app func args span)
  | arm {scope : Scope} {scrutinee : Ident} {branches : List (Branch Term)} {span : Span}
      {branch : Branch Term} (mem : branch ∈ branches)
      (inside : LooksUp globals ident inner
        (enter scope scrutinee.name (scrutinize globals scope scrutinee).2 branch.ctor).2
        branch.body) :
      LooksUp globals ident inner scope (.case scrutinee branches span)

theorem LooksUp.used (looksUp : LooksUp globals ident inner outer term) : ident ∈ term.uses := by
  induction looksUp with
  | ref => exact List.mem_singleton_self _
  | scrutinee => exact List.mem_cons_self
  | argument mem inside ih =>
      rw [Term.uses_app]
      exact List.mem_cons_of_mem _ (List.mem_flatMap.2 ⟨_, mem, ih⟩)
  | arm mem inside ih =>
      rw [Term.uses_case]
      exact List.mem_cons_of_mem _ (List.mem_flatMap.2 ⟨_, mem, ih⟩)

/-- An arm never hides a name without a dot. -/
theorem LooksUp.sees (looksUp : LooksUp globals ident inner outer term)
    (undotted : '.' ∉ ident.name.toList) : inner.Sees outer ident.name := by
  induction looksUp with
  | ref => exact .refl _ _
  | scrutinee => exact .refl _ _
  | argument mem inside ih => exact ih
  | arm mem inside ih => exact ih.trans (sees_enter undotted _ _ _)

/-- The check of a function looks a name up and finds the newest parameter of that name, which
has the given type. -/
structure Resolves (globals : Globals) (definition : Def) (ident : Ident) (scope : Scope)
    (type : String) : Prop where
  function : ∃ ret body, definition.body = .func definition.params ret body ∧
    LooksUp globals ident scope (paramScope definition.params) body
  sees : scope.Sees (paramScope definition.params) ident.name
  bound : (paramScope definition.params).lookup ident.name = some type

theorem resolves_of_undotted {definition : Def} {ret : Ident} {body : Term} {scope : Scope}
    {type : String} (function : definition.body = .func definition.params ret body)
    (looksUp : LooksUp globals ident scope (paramScope definition.params) body)
    (undotted : '.' ∉ ident.name.toList)
    (bound : (paramScope definition.params).lookup ident.name = some type) :
    Resolves globals definition ident scope type :=
  ⟨⟨ret, body, function, looksUp⟩, looksUp.sees undotted, bound⟩

theorem Resolves.inferRef_eq {definition : Def} {scope : Scope} {type : String}
    (resolves : Resolves globals definition ident scope type) :
    inferRef globals scope ident = .ok type := by
  rw [inferRef, resolves.sees.lookup_eq, resolves.bound]

/-- If all parameters of a name have one type, it does not matter that the first one is shown
and the newest one is looked up. -/
theorem binder?_of_bound {definition : Def} {name type : String}
    (bound : (paramScope definition.params).lookup name = some type)
    (same : ∀ param ∈ definition.params, param.name.name = name → param.type.name = type) :
    definition.binder? name = some (name ++ ": " ++ type) := by
  have listed : name ∈ definition.params.map (·.name.name) := by
    by_contra free
    rw [lookup_paramScope free] at bound
    cases bound
  obtain ⟨param, mem, named⟩ := List.mem_map.1 listed
  have found : (definition.params.find? (·.name.name == name)).isSome = true :=
    List.find?_isSome.2 ⟨param, mem, beq_iff_eq.2 named⟩
  obtain ⟨first, found⟩ := Option.isSome_iff_exists.1 found
  have firstNamed : first.name.name = name := by simpa using List.find?_some found
  rw [Def.binder?, found, Option.map_some, Def.showParam, firstNamed,
    same first (List.mem_of_find?_eq_some found) firstNamed]

end Typing

/-! ## What is shown -/

theorem findSome?_eq_of_unique {α β : Type} {list : List α} {a : α} (mem : a ∈ list)
    (unique : ∀ b ∈ list, b = a) (f : α → Option β) : list.findSome? f = f a := by
  rw [List.eq_replicate_of_mem unique,
    List.findSome?_replicate_of_pos (List.length_pos_of_mem mem)]

namespace Analyzer

section Hover

variable {δ : Type} [Definition δ] {analyzer : Analyzer δ} {uri text name : String} {offset : Nat}
  {word : Word} {definition : δ}

/-- The first of the names of a word that is global is the one that is looked up. -/
theorem Owned.findSome?_lookup (owned : analyzer.Owned) {names : List String}
    (first : names.find? analyzer.store.globals.contains = some name) :
    ∃ definition, analyzer.lookup name = some definition ∧
      names.findSome? analyzer.lookup = some definition := by
  obtain ⟨known, before, after, rfl, others⟩ := List.find?_eq_some_iff_append.1 first
  rw [← owned.isSome_lookup] at known
  obtain ⟨definition, found⟩ := Option.isSome_iff_exists.1 known
  have skipped : before.findSome? analyzer.lookup = none := by
    refine List.findSome?_eq_none_iff.2 fun other mem => ?_
    have unknown := others other mem
    rw [← owned.isSome_lookup] at unknown
    simpa using unknown
  refine ⟨definition, found, ?_⟩
  rw [List.findSome?_append, skipped, Option.none_or, List.findSome?_cons, found]

theorem Owned.findSome?_lookup_eq_none (owned : analyzer.Owned) {names : List String}
    (unknown : names.find? analyzer.store.globals.contains = none) :
    names.findSome? analyzer.lookup = none := by
  refine List.findSome?_eq_none_iff.2 fun other mem => ?_
  have unknown := List.find?_eq_none.1 unknown other mem
  rw [← owned.isSome_lookup] at unknown
  simpa using unknown

theorem hover_global (at? : Word.at? text offset = some word)
    (found : word.candidates.findSome? analyzer.lookup = some definition) :
    analyzer.hover uri text offset = some (Definition.signature definition) := by
  simp only [hover, at?, Option.bind_eq_bind, Option.bind_some, found]
  rfl

/-- If the word is no global name, what is shown is bound in the definition around it. -/
theorem hover_local (at? : Word.at? text offset = some word)
    (unknown : word.candidates.findSome? analyzer.lookup = none) {definitions : Table δ}
    (stored : analyzer.store.fileDefinitions? uri = some definitions)
    (mem : definition ∈ definitions.values)
    (around : ∀ other ∈ definitions.values,
      (Definition.extent other).touches offset = true ↔ other = definition) :
    analyzer.hover uri text offset =
      word.candidates.findSome? (Definition.binder? definition) := by
  simp only [hover, at?, Option.bind_eq_bind, Option.bind_some, unknown, stored]
  refine findSome?_eq_of_unique ?_ (fun other otherMem => ?_) _
  · exact List.mem_filter.2 ⟨mem, (around definition mem).2 rfl⟩
  · obtain ⟨otherMem, touches⟩ := List.mem_filter.1 otherMem
    exact (around other otherMem).1 touches

end Hover

/-- A pass for a text that parses comes to a report. -/
theorem exists_report {uri text : String} {defs : List Def} (parsed : parse uri text = .ok defs)
    (analyzer : Analyzer Def) :
    ∃ report, analyzer.analyze formality uri text =
      (.ok report, (analyzer.analyze formality uri text).2) := by
  rw [analyze_of_parsed (formality_parse parsed)]
  exact ⟨_, Prod.ext (finish_report formality_piecewise rfl rfl) rfl⟩

open Typing

/-- What is shown for a parameter where the check of a function looks it up: the global
definition of its name, or of its name without a dot at the end, if there is one, or else the
name with the type that the check finds, if all parameters of the name have it. -/
theorem hover_parameter {before after : Analyzer Def} (obtained : Obtained formality before)
    {uri text : String} {report : Report}
    (analyzed : before.analyze formality uri text = (.ok report, after)) {defs : List Def}
    (parsed : parse uri text = .ok defs) {definition : Def} (mem : definition ∈ defs)
    {ident : Ident} {scope : Scope} {type : String}
    (resolves : Resolves after.store.globals.get? definition ident scope type)
    (delimited : Delimited text ident.span) {offset : Nat}
    (touches : ident.span.touches offset = true) :
    inferRef after.store.globals.get? scope ident = .ok type ∧
      (∀ name, name = ident.name ∨
          ident.name = name ++ "." ∧ after.store.globals.contains ident.name = false →
        after.store.globals.contains name = true →
        ∃ global, after.lookup name = some global ∧
          after.hover uri text offset = some global.signature) ∧
      ((∀ name, name = ident.name ∨ ident.name = name ++ "." →
          after.store.globals.contains name = false) →
        (∀ param ∈ definition.params, param.name.name = ident.name → param.type.name = type) →
        after.hover uri text offset = some (ident.name ++ ": " ++ type)) := by
  obtain rfl : after = (before.analyze formality uri text).2 := by rw [analyzed]
  have owned := obtained.owned.analyze formality uri text
  obtain ⟨ret, body, function, looksUp⟩ := resolves.function
  have used := looksUp.used
  have written := written_of_used parsed mem function used
  have at? := written.at?_eq delimited touches
  refine ⟨resolves.inferRef_eq, ?_, ?_⟩
  · intro name meant known
    obtain ⟨global, found, named⟩ :=
      owned.findSome?_lookup (written.find?_candidates meant known)
    exact ⟨global, found, hover_global at? named⟩
  · intro unknown same
    have nowhere := owned.findSome?_lookup_eq_none (written.find?_candidates_eq_none unknown)
    have stored : (before.analyze formality uri text).2.store.fileDefinitions? uri =
        some (tableOf defs) := by
      rw [store_analyze (formality_parse parsed), Store.fileDefinitions?_record, if_pos rfl]
    have values : ∀ {other}, other ∈ (tableOf defs).values ↔ other ∈ defs :=
      mem_values_tableOf (distinct_of_parse parsed)
    have shown : Definition.binder? definition ident.name = some (ident.name ++ ": " ++ type) :=
      binder?_of_bound resolves.bound same
    obtain ⟨others, candidates⟩ := written.exists_candidates
    -- Only the function itself is around the cursor, so no other definition can answer.
    rw [hover_local at? nowhere stored (values.2 mem)
      fun other otherMem => touches_extent_iff parsed mem function used delimited touches
        (values.1 otherMem)]
    rw [candidates, List.findSome?_cons, shown]

/-- A type, and a function of the name that a parameter has elsewhere. -/
def namedSource : Parser.Source where
  uri := "b"
  text := "type A \x7b s(p: A), z \x7d g: A A.z"

def namedDefs : List Def :=
  namedSource.defineType ⟨0, 21⟩ ⟨"A", ⟨5, 6⟩⟩
      [(⟨"s", ⟨9, 10⟩⟩, [⟨⟨"p", ⟨11, 12⟩⟩, ⟨"A", ⟨14, 15⟩⟩⟩]), (⟨"z", ⟨18, 19⟩⟩, [])] ++
    [namedSource.define "g" ⟨22, 23⟩ ⟨22, 30⟩
      (.func [] ⟨"A", ⟨25, 26⟩⟩ (.ref ⟨"A.z", ⟨27, 30⟩⟩))]

/-- A function that uses its parameters in the arms of a case distinction. -/
def armSource : Parser.Source where
  uri := "c"
  text := "f(x: A, g: A): A case x \x7b s: x, z: g \x7d"

def armFunction : Def :=
  armSource.define "f" ⟨0, 1⟩ ⟨0, 38⟩
    (.func [⟨⟨"x", ⟨2, 3⟩⟩, ⟨"A", ⟨5, 6⟩⟩⟩, ⟨⟨"g", ⟨8, 9⟩⟩, ⟨"A", ⟨11, 12⟩⟩⟩] ⟨"A", ⟨15, 16⟩⟩
      (.case ⟨"x", ⟨22, 23⟩⟩
        [⟨⟨"s", ⟨26, 27⟩⟩, .ref ⟨"x", ⟨29, 30⟩⟩⟩, ⟨⟨"z", ⟨32, 33⟩⟩, .ref ⟨"g", ⟨35, 36⟩⟩⟩]
        ⟨17, 38⟩))

/-- In the arms of a function, `x` is shown as a parameter, and for `g` the global function. -/
theorem hover_parameter_in_arms :
    let before := ((Analyzer.empty : Analyzer Def).analyze formality "b" namedSource.text).2
    let after := (before.analyze formality "c" armSource.text).2
    Obtained formality before ∧
      (∃ report, before.analyze formality "c" armSource.text = (.ok report, after)) ∧
      parse "c" armSource.text = .ok [armFunction] ∧
      (∃ scope, Resolves after.store.globals.get? armFunction ⟨"x", ⟨29, 30⟩⟩ scope "A" ∧
        inferRef after.store.globals.get? scope ⟨"x", ⟨29, 30⟩⟩ = .ok "A") ∧
      after.hover "c" armSource.text 29 = some "x: A" ∧
      (∃ scope, Resolves after.store.globals.get? armFunction ⟨"g", ⟨35, 36⟩⟩ scope "A") ∧
      ∃ global, after.lookup "g" = some global ∧
        after.hover "c" armSource.text 35 = some global.signature := by
  intro before after
  have readNamed : parse "b" namedSource.text = .ok namedDefs := by cbv
  have readArm : parse "c" armSource.text = .ok [armFunction] := by cbv
  have obtained : Obtained formality before := Obtained.empty.analyze "b" namedSource.text
  obtain ⟨report, analyzed⟩ := exists_report readArm before
  have store : after.store =
      ((Store.empty.record "b" (tableOf namedDefs)).2.record "c" (tableOf [armFunction])).2 := by
    rw [store_analyze (formality_parse readArm), store_analyze (formality_parse readNamed)]
    rfl
  have mem : armFunction ∈ [armFunction] := List.mem_singleton_self _
  have resolvesX : ∃ scope, Resolves after.store.globals.get? armFunction ⟨"x", ⟨29, 30⟩⟩ scope
      "A" :=
    ⟨_, resolves_of_undotted rfl (.arm List.mem_cons_self .ref) (by decide) (by decide)⟩
  have resolvesG : ∃ scope, Resolves after.store.globals.get? armFunction ⟨"g", ⟨35, 36⟩⟩ scope
      "A" :=
    ⟨_, resolves_of_undotted rfl (.arm (List.mem_cons_of_mem _ List.mem_cons_self) .ref)
      (by decide) (by decide)⟩
  obtain ⟨scopeX, resolvesX⟩ := resolvesX
  obtain ⟨scopeG, resolvesG⟩ := resolvesG
  have touchesX : Span.touches ⟨29, 30⟩ 29 = true := rfl
  have touchesG : Span.touches ⟨35, 36⟩ 35 = true := rfl
  obtain ⟨found, -, shown⟩ :=
    hover_parameter obtained analyzed readArm mem resolvesX ⟨by decide, by decide⟩ touchesX
  obtain ⟨-, named, -⟩ :=
    hover_parameter obtained analyzed readArm mem resolvesG ⟨by decide, by decide⟩ touchesG
  refine ⟨obtained, ⟨report, analyzed⟩, readArm, ⟨scopeX, resolvesX, found⟩, ?_,
    ⟨scopeG, resolvesG⟩, ?_⟩
  · refine shown ?_ (by decide)
    rintro name (rfl | dotted)
    · rw [store]
      decide
    · have last := congrArg (fun name : String => name.toList.getLast?) dotted
      simp at last
  · exact named "g" (Or.inl rfl) (by rw [store]; decide)

/-- A function with two parameters of one name, and one with a parameter that a global function
is called. -/
def rivalSource : Parser.Source where
  uri := "c"
  text := "type A \x7b \x7d type B \x7b \x7d x: A x f(y: A, y: B): B y g(x: B): B x"

def repeatedFunction : Def :=
  rivalSource.define "f" ⟨29, 30⟩ ⟨29, 47⟩
    (.func [⟨⟨"y", ⟨31, 32⟩⟩, ⟨"A", ⟨34, 35⟩⟩⟩, ⟨⟨"y", ⟨37, 38⟩⟩, ⟨"B", ⟨40, 41⟩⟩⟩] ⟨"B", ⟨44, 45⟩⟩
      (.ref ⟨"y", ⟨46, 47⟩⟩))

def coveringFunction : Def :=
  rivalSource.define "g" ⟨48, 49⟩ ⟨48, 60⟩
    (.func [⟨⟨"x", ⟨50, 51⟩⟩, ⟨"B", ⟨53, 54⟩⟩⟩] ⟨"B", ⟨57, 58⟩⟩ (.ref ⟨"x", ⟨59, 60⟩⟩))

def rivalDefs : List Def :=
  rivalSource.defineType ⟨0, 10⟩ ⟨"A", ⟨5, 6⟩⟩ [] ++
    rivalSource.defineType ⟨11, 21⟩ ⟨"B", ⟨16, 17⟩⟩ [] ++
    [rivalSource.define "x" ⟨22, 23⟩ ⟨22, 28⟩ (.func [] ⟨"A", ⟨25, 26⟩⟩ (.ref ⟨"x", ⟨27, 28⟩⟩)),
      repeatedFunction, coveringFunction]

/-- The check finds a parameter of the type `B` both times. What is shown is the global function
the one time, and a parameter of the type `A` the other time. -/
theorem hover_of_other_binder :
    let after := ((Analyzer.empty : Analyzer Def).analyze formality "c" rivalSource.text).2
    Obtained formality (Analyzer.empty : Analyzer Def) ∧
      (∃ report, Analyzer.empty.analyze formality "c" rivalSource.text = (.ok report, after)) ∧
      parse "c" rivalSource.text = .ok rivalDefs ∧
      (coveringFunction ∈ rivalDefs ∧
        (∃ scope, Resolves after.store.globals.get? coveringFunction ⟨"x", ⟨59, 60⟩⟩ scope "B") ∧
        Delimited rivalSource.text ⟨59, 60⟩ ∧
        after.hover "c" rivalSource.text 59 = some "x(): A") ∧
      (repeatedFunction ∈ rivalDefs ∧
        (∃ scope, Resolves after.store.globals.get? repeatedFunction ⟨"y", ⟨46, 47⟩⟩ scope "B") ∧
        Delimited rivalSource.text ⟨46, 47⟩ ∧
        after.hover "c" rivalSource.text 46 = some "y: A") := by
  intro after
  have parsed : parse "c" rivalSource.text = .ok rivalDefs := by cbv
  have pass : after = ((Analyzer.empty.planParsed "c" (tableOf rivalDefs)).2.finish formality
      (Analyzer.empty.planParsed "c" (tableOf rivalDefs)).1).2 :=
    congrArg Prod.snd (analyze_of_parsed (formality_parse parsed))
  refine ⟨.empty, exists_report parsed _, parsed, ⟨by simp [rivalDefs], ?_, ?_, ?_⟩,
    ⟨by simp [rivalDefs], ?_, ?_, ?_⟩⟩
  · exact ⟨_, resolves_of_undotted rfl .ref (by decide) (by decide)⟩
  · exact ⟨by decide, by decide⟩
  · rw [pass]
    decide
  · exact ⟨_, resolves_of_undotted rfl .ref (by decide) (by decide)⟩
  · exact ⟨by decide, by decide⟩
  · rw [pass]
    decide

end Analyzer

end LiveCheck
