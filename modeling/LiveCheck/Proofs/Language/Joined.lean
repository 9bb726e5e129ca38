import LiveCheck.Proofs.Language.Declared
import LiveCheck.Proofs.Language.Shift
import Mathlib

/-!
A text on the lines below another.

No token goes on beyond the end of a line that another text follows, and no item of the text
above takes tokens of the text below, since no item starts with a parenthesis. So the items of
both are those of the whole, and only a name that both define stands in the way
(`parse_joined`).
-/

namespace LiveCheck

namespace Parser

variable {seen : List String} {defs : List Def}

/-- Definitions of different names are declared up to the first whose name was seen before. -/
theorem declare_of_distinct (distinct : (defs.map Def.name).Nodup) (seen : List String) :
    declare seen defs =
      match defs.find? fun definition => definition.name ∈ seen with
      | none => .ok ((defs.map Def.name).reverse ++ seen)
      | some repeated => .error (.duplicate repeated.origin repeated.name) := by
  induction defs generalizing seen with
  | nil => rfl
  | cons definition rest ih =>
      obtain ⟨fresh, distinct⟩ := List.nodup_cons.1 distinct
      rw [declare]
      by_cases mem : definition.name ∈ seen
      · rw [if_pos mem, List.find?_cons_of_pos (by simpa using mem)]
      · -- The name that is new to the others is not the name of any of them.
        have others : (rest.find? fun other => other.name ∈ definition.name :: seen) =
            rest.find? fun other => other.name ∈ seen := by
          rw [← List.head?_filter, ← List.head?_filter]
          refine congrArg List.head? (List.filter_congr fun other otherMem => ?_)
          have differs : other.name ≠ definition.name := fun same =>
            fresh (same ▸ List.mem_map_of_mem otherMem)
          simp [differs]
        rw [if_neg mem, List.find?_cons_of_neg (by simpa using mem), ih distinct, others]
        cases rest.find? fun other => other.name ∈ seen with
        | none => simp
        | some repeated => rfl

theorem map_name_shift (amount : Nat) (defs : List Def) :
    (defs.map (Def.shift amount)).map Def.name = defs.map Def.name := by
  rw [List.map_map]
  rfl

/-- Which names come up again does not depend on the text that the definitions store. -/
theorem declare_withSource (seen : List String) (text : String) (defs : List Def) :
    declare seen (defs.map (Def.withSource text)) = declare seen defs := by
  induction defs generalizing seen with
  | nil => rfl
  | cons definition rest ih =>
      rw [List.map_cons, declare, declare, ih]
      rfl

/-- The definitions of a text that parses are declared. -/
theorem declare_of_parse {uri text : String} (parsed : parse uri text = .ok defs) :
    declare [] defs = .ok (defs.map Def.name).reverse := by
  refine (declare_eq_ok List.nodup_nil).2 ⟨(List.append_nil _).symm, ?_⟩
  exact List.nodup_reverse.2 (distinct_of_parse parsed)

end Parser

namespace Grammar.File

theorem tokens_shift (amount : Nat) (file : File) :
    tokens (file.map (Item.shift amount)) = file.tokens.map (Token.shift amount) := by
  simp only [tokens, List.flatMap_map, List.map_flatMap, Item.tokens_shift]

theorem definitions_shift (amount : Nat) (uri text : String) (file : File) :
    definitions uri text (file.map (Item.shift amount)) =
      (file.definitions uri text).map (Def.shift amount) := by
  simp only [definitions, List.flatMap_map, List.map_flatMap, Item.definitions_shift]

theorem definitions_withSource (uri text other : String) (file : File) :
    file.definitions uri other = (file.definitions uri text).map (Def.withSource other) := by
  simp only [definitions, List.map_flatMap, ← Item.definitions_withSource]

variable {upper lower : File} {above below : String}

theorem tokens_joined (upperTokens : upper.tokens = lexemes above)
    (lowerTokens : lower.tokens = lexemes below) :
    tokens (upper ++ lower.map (Item.shift (byteLength above.toList + 1))) =
      lexemes (above ++ "\n" ++ below) := by
  rw [lexemes_joined, ← upperTokens, ← lowerTokens, ← tokens_shift]
  exact List.flatMap_append

/-- The definitions of both texts, stored with another text. -/
theorem definitions_joined (uri above below text : String) (amount : Nat) (upper lower : File) :
    definitions uri text (upper ++ lower.map (Item.shift amount)) =
      (upper.definitions uri above ++
        (lower.definitions uri below).map (Def.shift amount)).map (Def.withSource text) := by
  calc definitions uri text (upper ++ lower.map (Item.shift amount))
      = upper.definitions uri text ++ definitions uri text (lower.map (Item.shift amount)) :=
        List.flatMap_append
    _ = (upper.definitions uri above).map (Def.withSource text) ++
          ((lower.definitions uri below).map (Def.withSource text)).map (Def.shift amount) := by
        rw [definitions_shift, definitions_withSource uri above text upper,
          definitions_withSource uri below text lower]
    _ = _ := by
        rw [List.map_append, List.map_map, List.map_map]
        rfl

end Grammar.File

open LiveCheck.Parser Grammar

/-- A text with another one on the lines below it has the definitions of both, those of the
text below moved by what stands above them, unless the two define a name in common. Then the
first such definition of the text below is a duplicate, at its moved place. -/
theorem parse_joined {uri above below : String} {first second : List Def}
    (readAbove : parse uri above = .ok first) (readBelow : parse uri below = .ok second) :
    let text := above ++ "\n" ++ below
    let moved := second.map (Def.shift (byteLength above.toList + 1))
    parse uri text =
      match moved.find? fun definition => definition.name ∈ first.map Def.name with
      | none => .ok ((first ++ moved).map (Def.withSource text))
      | some repeated => .error (.duplicate repeated.origin repeated.name) := by
  intro text moved
  obtain ⟨upper, derivedAbove⟩ := items_sound List.nodup_nil readAbove
  obtain ⟨lower, derivedBelow⟩ := items_sound List.nodup_nil readBelow
  let file : File := upper ++ lower.map (Item.shift (byteLength above.toList + 1))
  have tokens : file.tokens = lexemes text :=
    File.tokens_joined derivedAbove.tokens_eq derivedBelow.tokens_eq
  have shallow : ∀ item ∈ file, item.depth ≤ maxDepth := by
    refine List.forall_mem_append.2 ⟨derivedAbove.shallow, List.forall_mem_map.2 ?_⟩
    intro item mem
    rw [Item.depth_shift]
    exact derivedBelow.shallow item mem
  have definitions : file.definitions uri text = (first ++ moved).map (Def.withSource text) := by
    have firstDefs : upper.definitions uri above = first := derivedAbove.definitions_eq
    have secondDefs : lower.definitions uri below = second := derivedBelow.definitions_eq
    rw [File.definitions_joined uri above below, firstDefs, secondDefs]
  have distinct : (moved.map Def.name).Nodup := by
    rw [map_name_shift]
    exact distinct_of_parse readBelow
  rw [parse, ← tokens, items_tokens shallow, definitions, declare_withSource, declare_append,
    declare_of_parse readAbove]
  show Except.map _ (declare _ moved) = _
  rw [declare_of_distinct distinct]
  simp only [List.mem_reverse]
  cases moved.find? fun definition => definition.name ∈ first.map Def.name <;> rfl

/-- A type with a comment behind it. Below it stands a function, or two of which the second is
called what a constructor of the type is. -/
theorem parse_joined_with_comment :
    let above := "type B \x7b t, \x7d // ü"
    let below := "f(b: B): B case b \x7b t: g(b) \x7d"
    let rival := "x: B y B.t: B x"
    let first := Source.defineType ⟨"a", above⟩ ⟨0, 13⟩ ⟨"B", ⟨5, 6⟩⟩ [(⟨"t", ⟨9, 10⟩⟩, [])]
    let call : Term := .app ⟨"g", ⟨23, 24⟩⟩ [.ref ⟨"b", ⟨25, 26⟩⟩] ⟨23, 27⟩
    let function := Source.define ⟨"a", below⟩ "f" ⟨0, 1⟩ ⟨0, 29⟩
      (.func [⟨⟨"b", ⟨2, 3⟩⟩, ⟨"B", ⟨5, 6⟩⟩⟩] ⟨"B", ⟨9, 10⟩⟩
        (.case ⟨"b", ⟨16, 17⟩⟩ [⟨⟨"t", ⟨20, 21⟩⟩, call⟩] ⟨11, 29⟩))
    let rivals := [
      Source.define ⟨"a", rival⟩ "x" ⟨0, 1⟩ ⟨0, 6⟩ (.func [] ⟨"B", ⟨3, 4⟩⟩ (.ref ⟨"y", ⟨5, 6⟩⟩)),
      Source.define ⟨"a", rival⟩ "B.t" ⟨7, 10⟩ ⟨7, 15⟩
        (.func [] ⟨"B", ⟨12, 13⟩⟩ (.ref ⟨"x", ⟨14, 15⟩⟩))]
    parse "a" above = .ok first ∧
      (parse "a" below = .ok [function] ∧
        parse "a" (above ++ "\n" ++ below) =
          .ok ((first ++ [function.shift 20]).map (Def.withSource (above ++ "\n" ++ below)))) ∧
      parse "a" rival = .ok rivals ∧
        parse "a" (above ++ "\n" ++ rival) = .error (.duplicate ⟨27, 30⟩ "B.t") := by
  intro above below rival first call function rivals
  have readAbove : parse "a" above = .ok first := by cbv
  have readBelow : parse "a" below = .ok [function] := by cbv
  have readRival : parse "a" rival = .ok rivals := by cbv
  exact ⟨readAbove, ⟨readBelow, (parse_joined readAbove readBelow).trans (by cbv)⟩, readRival,
    (parse_joined readAbove readRival).trans (by cbv)⟩

end LiveCheck
