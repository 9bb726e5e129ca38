import LiveCheck.Proofs.Analyzer.Repeated
import LiveCheck.Proofs.Language.Words

/-!
The definition that a name in a text stands for.

A cursor finds words, which are cut out of a text in another way than the tokens of the
language. A name between delimiters is the first name that its word may stand for. If a colon
sticks to it, it is the second one, and no global name is the first: global names come from
tokens, and no token of a name has a colon in it (`Obtained.wordParts`). So the cursor finds
the definition of the name (`definition_of_name`).
-/

namespace LiveCheck

open Scanner

variable {text uri : String} {offset : Nat}

/-! ## Names with a colon -/

/-- A name may end before such a text: before a delimiter or the end of the text, or before a
colon that stands there. -/
def EndsName (after : List Char) : Prop :=
  after.head?.all isDelimiter = true ∨
    ∃ rest, after = ':' :: rest ∧ rest.head?.all isDelimiter = true

theorem Ident.Written.candidates_of_colon {ident : Ident} (written : ident.Written text)
    (span : Span) :
    Word.candidates ⟨ident.name.toList ++ [':'], span⟩ =
      [String.ofList (ident.name.toList ++ [':']), ident.name] := by
  have nonempty := written.spells.ne_nil written.proper
  have isMark : Word.isTrailing ':' = true := by decide
  rw [Word.candidates_of_concat rfl nonempty, if_pos isMark, String.ofList_toList]
  rfl

/-! ## Global names -/

/-- The names of the definitions of a text that parses are made of the characters of words. -/
theorem wordParts_of_parse {defs : List Def} (parsed : parse uri text = .ok defs) :
    ∀ definition ∈ defs, ∀ c ∈ definition.name.toList, isWordPart c = true := by
  intro definition mem
  obtain ⟨file, derived⟩ := Parser.items_sound List.nodup_nil parsed
  rw [← derived.definitions_eq] at mem
  obtain ⟨item, itemMem, mem⟩ := List.mem_flatMap.1 mem
  have placed := (Grammar.File.placed uri derived.tokens_eq).1 item itemMem
  generalize item.definitions uri text = defs at mem placed
  cases placed with
  | func function head =>
      rw [List.mem_singleton.1 mem]
      exact head.origin.wordParts
  | type type begins head opening constructors =>
      rcases List.mem_cons.1 mem with rfl | mem
      · exact head.origin.wordParts
      · obtain ⟨short, fields, -, named, headed⟩ := constructors definition mem
        have dot : ∀ c ∈ ".".toList, isWordPart c = true := List.forall_mem_singleton.2 (by decide)
        rw [named, String.toList_append, String.toList_append]
        exact List.forall_mem_append.2
          ⟨List.forall_mem_append.2 ⟨head.origin.wordParts, dot⟩, headed.origin.wordParts⟩

namespace Analyzer

/-- What holds of the definitions of every text that parses holds of every global one. -/
theorem Obtained.each {δ : Type} [Definition δ] {engine : Engine δ} {analyzer : Analyzer δ}
    {keeps : String → δ → Prop} (obtained : Obtained engine analyzer)
    (parses : ∀ uri text definitions, engine.parse uri text = .parsed definitions →
      ∀ definition ∈ definitions, keeps (Definition.name definition) definition) :
    analyzer.store.Each keeps := by
  induction obtained with
  | empty => exact Store.each_empty
  | startup files _ _ =>
      rw [Analyzer.startup, finish_store]
      exact each_planAll _ files parses
  | @analyze analyzer uri text _ ih =>
      cases parsed : engine.parse uri text with
      | parsed definitions =>
          rw [store_analyze parsed]
          exact ih.record uri (each_tableOf (parses uri text definitions parsed))
      | failed failure =>
          rw [analyze_of_failed parsed]
          exact ih
      | crashed error =>
          rw [analyze_of_crashed parsed]
          exact ih

variable {analyzer : Analyzer Def} {name : String} {definition : Def} {span : Span}

theorem Obtained.wordParts (obtained : Obtained formality analyzer)
    (held : analyzer.store.globals.get? name = some definition) :
    ∀ c ∈ name.toList, isWordPart c = true := by
  have each : analyzer.store.Each fun name _ => ∀ c ∈ name.toList, isWordPart c = true :=
    obtained.each fun _ _ _ parsed => wordParts_of_parse (formality_parse_iff.1 parsed)
  exact each.globals name definition held

/-! ## The main statement -/

theorem definition_of_word {word : Word} (found : Word.at? text offset = some word) :
    analyzer.definition text offset = word.candidates.findSome? analyzer.store.globals.get? := by
  rw [Analyzer.definition, found]
  rfl

/-- A cursor at a name finds the global definition of that name, wherever the name stands
between delimiters, or with a colon behind it. -/
theorem definition_of_name (obtained : Obtained formality analyzer)
    (token : ⟨.ident name, span⟩ ∈ tokenize text)
    (left : (takeBytes span.start text.toList).getLast?.all isDelimiter = true)
    (right : EndsName (dropBytes span.stop text.toList))
    (touches : span.touches offset = true)
    (held : analyzer.store.globals.get? name = some definition) :
    analyzer.definition text offset = some definition := by
  have lexed : ⟨.ident name, span⟩ ∈ lexemes text := by
    rcases List.mem_append.1 token with mem | mem
    · exact mem
    · cases List.mem_singleton.1 mem
  have written : (Ident.mk name span).Written text := Ident.written_of_mem lexed
  rcases right with right | ⟨rest, colon, right⟩
  · obtain ⟨others, candidates⟩ := written.exists_candidates
    have found := written.at?_eq ⟨left, right⟩ touches
    rw [definition_of_word found, candidates, List.findSome?_cons, held]
  · have inner : ∀ c ∈ [':'], isDelimiter c = false := List.forall_mem_singleton.2 (by decide)
    have found := written.at?_of_marks inner left colon right touches
    -- A global name ends in no colon, so the second name is the first one that is known.
    have unknown : analyzer.store.globals.get? (String.ofList (name.toList ++ [':'])) = none := by
      rw [Option.eq_none_iff_forall_ne_some]
      intro other marked
      have part := obtained.wordParts marked ':' (by simp)
      cases part
    rw [definition_of_word found, written.candidates_of_colon, List.findSome?_cons, unknown,
      List.findSome?_cons, held]

/-- A name that ends in a dot, with a colon behind it and a comment before it. -/
theorem definition_of_dotted_name :
    let analyzer := ((Analyzer.empty : Analyzer Def).analyze formality "a" "f.: T f").2
    let text := "// 𝒳 é\nf.: x"
    let function := Parser.Source.define ⟨"a", "f.: T f"⟩ "f." ⟨0, 2⟩ ⟨0, 7⟩
      (.func [] ⟨"T", ⟨4, 5⟩⟩ (.ref ⟨"f", ⟨6, 7⟩⟩))
    Obtained formality analyzer ∧
      ⟨.ident "f.", ⟨11, 13⟩⟩ ∈ tokenize text ∧
      (takeBytes 11 text.toList).getLast?.all isDelimiter = true ∧
      EndsName (dropBytes 13 text.toList) ∧
      Span.touches ⟨11, 13⟩ 13 = true ∧
      analyzer.store.globals.get? "f." = some function ∧
      analyzer.definition text 13 = some function := by
  intro analyzer text function
  have parsed : parse "a" "f.: T f" = .ok [function] := by cbv
  have obtained : Obtained formality analyzer := Obtained.empty.analyze "a" "f.: T f"
  have token : ⟨.ident "f.", ⟨11, 13⟩⟩ ∈ tokenize text := by decide +kernel
  have left : (takeBytes 11 text.toList).getLast?.all isDelimiter = true := by decide
  have right : EndsName (dropBytes 13 text.toList) :=
    Or.inr ⟨[' ', 'x'], by decide, by decide⟩
  have touches : Span.touches ⟨11, 13⟩ 13 = true := rfl
  have held : analyzer.store.globals.get? "f." = some function := by
    rw [store_analyze (formality_parse parsed)]
    rfl
  exact ⟨obtained, token, left, right, touches, held,
    definition_of_name obtained token left right touches held⟩

end Analyzer

end LiveCheck
