import LiveCheck.Language.Engine
import LiveCheck.Proofs.Language.Recognition
import LiveCheck.Proofs.Table

/-!
What parsed files declare.

A type and its constructors stand in one item. Among the definitions of any number of
files, every constructor therefore has its type, and every type has all the constructors
that it lists, under names that begin with the name of the type (`Paired`).
-/

namespace LiveCheck

/-- The definitions of some files that parse, in order. -/
inductive ParsedFrom : List (String × String) → List Def → Prop where
  | nil : ParsedFrom [] []
  | cons {uri text : String} {files : List (String × String)} {defs others : List Def}
      (parsed : parse uri text = .ok defs) (rest : ParsedFrom files others) :
      ParsedFrom ((uri, text) :: files) (defs ++ others)

/-- Types and constructors come together. -/
structure Paired (defs : List Def) : Prop where
  /-- The names a type lists are those of its constructors. -/
  ctors : ∀ type ∈ defs, ∀ names, type.body = .type names → ∀ name ∈ names,
    (∃ short, name = type.name ++ "." ++ short) ∧
    ∃ ctor ∈ defs, ctor.name = name ∧
      ∃ owner fields, ctor.body = .ctor owner fields ∧ owner.name = type.name
  /-- A constructor is listed by its type. -/
  types : ∀ ctor ∈ defs, ∀ owner fields, ctor.body = .ctor owner fields →
    ∃ type ∈ defs, type.name = owner.name ∧
      ∃ names, type.body = .type names ∧ ctor.name ∈ names

theorem paired_nil : Paired [] where
  ctors type mem := by cases mem
  types ctor mem := by cases mem

theorem Paired.append {defs others : List Def} (first : Paired defs) (second : Paired others) :
    Paired (defs ++ others) where
  ctors type mem names body name listed := by
    rcases List.mem_append.1 mem with mem | mem
    · obtain ⟨short, ctor, ctorMem, found⟩ := first.ctors type mem names body name listed
      exact ⟨short, ctor, List.mem_append_left _ ctorMem, found⟩
    · obtain ⟨short, ctor, ctorMem, found⟩ := second.ctors type mem names body name listed
      exact ⟨short, ctor, List.mem_append_right _ ctorMem, found⟩
  types ctor mem owner fields body := by
    rcases List.mem_append.1 mem with mem | mem
    · obtain ⟨type, typeMem, found⟩ := first.types ctor mem owner fields body
      exact ⟨type, List.mem_append_left _ typeMem, found⟩
    · obtain ⟨type, typeMem, found⟩ := second.types ctor mem owner fields body
      exact ⟨type, List.mem_append_right _ typeMem, found⟩

namespace Grammar

theorem Item.paired_definitions (uri text : String) (item : Item) :
    Paired (item.definitions uri text) := by
  cases item with
  | func head colon ret body =>
      constructor
      · intro type mem names eq
        cases List.mem_singleton.1 mem
        cases eq
      · intro ctor mem owner fields eq
        cases List.mem_singleton.1 mem
        cases eq
  | type keyword name ctors =>
      constructor
      · intro type mem names eq listed namesMem
        rcases List.mem_cons.1 mem with rfl | mem
        · cases eq
          obtain ⟨ctor, ctorMem, rfl⟩ := List.mem_map.1 namesMem
          exact ⟨⟨ctor.name.name, rfl⟩, _, List.mem_cons_of_mem _ (List.mem_map_of_mem ctorMem),
            rfl, name, ctor.declared, rfl, rfl⟩
        · obtain ⟨ctor, -, rfl⟩ := List.mem_map.1 mem
          cases eq
      · intro ctor mem owner fields eq
        rcases List.mem_cons.1 mem with rfl | mem
        · cases eq
        · obtain ⟨ctor, ctorMem, rfl⟩ := List.mem_map.1 mem
          cases eq
          exact ⟨_, List.mem_cons_self, rfl, _, rfl, List.mem_map_of_mem ctorMem⟩

theorem File.paired_definitions (uri text : String) (file : File) :
    Paired (file.definitions uri text) := by
  induction file with
  | nil => exact paired_nil
  | cons item file ih => exact (item.paired_definitions uri text).append ih

end Grammar

theorem ParsedFrom.paired {files : List (String × String)} {defs : List Def}
    (parsed : ParsedFrom files defs) : Paired defs := by
  induction parsed with
  | nil => exact paired_nil
  | cons parsed _ ih =>
      obtain ⟨file, derived⟩ := Parser.items_sound List.nodup_nil parsed
      rw [← derived.definitions_eq]
      exact (Grammar.File.paired_definitions _ _ file).append ih

/-- The definitions of a text that parses have different names. -/
theorem distinct_of_parse {uri text : String} {defs : List Def}
    (parsed : parse uri text = .ok defs) : (defs.map Def.name).Nodup := by
  obtain ⟨file, derived⟩ := Parser.items_sound List.nodup_nil parsed
  have distinct := derived.nodup
  rw [List.append_nil, List.nodup_reverse] at distinct
  rwa [← derived.definitions_eq, Grammar.File.map_name_definitions]

/-- Where names are distinct, every definition is found under its name. -/
theorem get?_tableOf_eq_some {defs : List Def} (distinct : (defs.map Def.name).Nodup)
    {name : String} {definition : Def} :
    (tableOf defs).get? name = some definition ↔ definition ∈ defs ∧ definition.name = name := by
  refine ⟨mem_of_get?_tableOf, ?_⟩
  rintro ⟨mem, rfl⟩
  have listed : (tableOf defs).contains definition.name = true := by
    rw [tableOf, Table.contains_ofList, List.map_map]
    exact List.mem_map_of_mem mem
  obtain ⟨found, stored⟩ := Table.contains_eq_true.1 listed
  obtain ⟨foundMem, same⟩ := mem_of_get?_tableOf stored
  rw [stored, List.inj_on_of_nodup_map distinct foundMem mem same]

theorem mem_values_tableOf {defs : List Def} (distinct : (defs.map Def.name).Nodup)
    {definition : Def} : definition ∈ (tableOf defs).values ↔ definition ∈ defs := by
  simp only [Table.mem_values, get?_tableOf_eq_some distinct]
  exact ⟨fun ⟨_, mem, _⟩ => mem, fun mem => ⟨_, mem, rfl⟩⟩

end LiveCheck
