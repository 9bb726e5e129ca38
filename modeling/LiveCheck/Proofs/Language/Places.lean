import LiveCheck.Proofs.Language.Recognition
import LiveCheck.Proofs.Language.Runs
import Mathlib

/-!
Where the parts of a definition stand.

A text that parses has a derivation, and the tokens of its phrases are runs of the tokens of
the text. So every name stands where its span says, the parts of a term lie inside the term,
one behind the other (`Placed`), and so do the items of a file (`PlacedItem`).
-/

namespace LiveCheck

open Grammar

/-! ## What the spans say -/

/-- Every name in a term stands where its span says, a call reaches from its head to its
closing parenthesis, and a case distinction from its keyword to its closing brace. -/
inductive Placed (text : String) : Term → Prop where
  | ref {ident : Ident} (written : ident.Written text) : Placed text (.ref ident)
  | app {func : Ident} {args : List Term} {span opened closed : Span}
      (head : func.Written text)
      (opening : Written text .leftParen opened "(")
      (placed : ∀ arg ∈ args, Placed text arg)
      (closing : Written text .rightParen closed ")")
      (extent : span = ⟨func.span.start, closed.stop⟩)
      (laid : Laid text span (func.span :: opened :: args.map Term.span ++ [closed]) [.comma]) :
      Placed text (.app func args span)
  | case {scrutinee : Ident} {branches : List (Branch Term)}
      {span keyword opened closed : Span}
      (begins : Written text .caseKeyword keyword "case")
      (scrutinized : scrutinee.Written text)
      (opening : Written text .leftBrace opened "\x7b")
      (constructors : ∀ branch ∈ branches, branch.ctor.Written text)
      (placed : ∀ branch ∈ branches, Placed text branch.body)
      (closing : Written text .rightBrace closed "\x7d")
      (extent : span = ⟨keyword.start, closed.stop⟩)
      (laid : Laid text span
        (keyword :: scrutinee.span :: opened ::
          branches.flatMap (fun branch => [branch.ctor.span, branch.body.span]) ++ [closed])
        [.comma, .colon]) :
      Placed text (.case scrutinee branches span)

/-- The spans of a name and of the parameters that follow it. -/
def headSpans (name : Span) (params : List Param) : List Span :=
  name :: params.flatMap fun param => [param.name.span, param.type.span]

/-- A definition of an item that covers `extent`. Its name stands there as `word`. -/
structure Headed (text : String) (extent : Span) (definition : Def) (word : String) : Prop where
  covers : definition.extent = extent
  origin : Written text (.ident word) definition.origin word
  inside : definition.origin.Inside extent
  params : ∀ param ∈ definition.params, param.name.Written text ∧ param.type.Written text

/-- What may stand between the parts of an item. -/
def itemSeparators : List TokenKind := [.leftParen, .rightParen, .colon, .comma]

/-- The definitions of one item: a function from its name to the end of its body, or a type
from its keyword to its closing brace, followed by its constructors. -/
inductive PlacedItem (text : String) (extent : Span) : List Def → Prop where
  | func {definition : Def} {params : List Param} {ret : Ident} {body : Term}
      (function : definition.body = .func params ret body)
      (head : Headed text extent definition definition.name)
      (result : ret.Written text)
      (placed : Placed text body)
      (covers : extent = ⟨definition.origin.start, body.span.stop⟩)
      (laid : Laid text extent
        (headSpans definition.origin definition.params ++ [ret.span, body.span])
        itemSeparators) :
      PlacedItem text extent [definition]
  | type {definition : Def} {ctors : List Def} {keyword opened closed : Span}
      (type : definition.body = .type (ctors.map Def.name))
      (begins : Written text .typeKeyword keyword "type")
      (head : Headed text extent definition definition.name)
      (opening : Written text .leftBrace opened "\x7b")
      (constructors : ∀ ctor ∈ ctors, ∃ short fields,
        ctor.body = .ctor ⟨definition.name, definition.origin⟩ fields ∧
        ctor.name = definition.name ++ "." ++ short ∧ Headed text extent ctor short)
      (closing : Written text .rightBrace closed "\x7d")
      (covers : extent = ⟨keyword.start, closed.stop⟩)
      (laid : Laid text extent
        (keyword :: definition.origin :: opened ::
          ctors.flatMap (fun ctor => headSpans ctor.origin ctor.params) ++ [closed])
        itemSeparators) :
      PlacedItem text extent (definition :: ctors)

variable {text : String}

theorem Ident.written_of_mem {ident : Ident} (mem : ident.token ∈ lexemes text) :
    ident.Written text :=
  LiveCheck.written_of_mem rfl mem

namespace Grammar

/-! ## Phrases as runs -/

theorem Listed.infix_tokens {α : Type} {yield : α → List Token} {list : Listed α} {phrase : α}
    (mem : phrase ∈ list.toList) : yield phrase <:+: list.tokens yield := by
  induction list using Listed.induct with
  | none => cases mem
  | one first =>
      obtain rfl := List.mem_singleton.1 mem
      rw [Listed.tokens_one]
  | cons first comma list ih =>
      rw [Listed.toList_cons, List.mem_cons] at mem
      rw [Listed.tokens_cons]
      rcases mem with rfl | mem
      · exact (List.prefix_append _ _).isInfix
      · exact (List.infix_cons (ih mem)).trans (List.suffix_append _ _).isInfix

theorem Enclosed.infix_tokens {α : Type} {yield : α → List Token} {list : Enclosed α}
    {phrase : α} {opening closing : TokenKind} (mem : phrase ∈ list.toList) :
    yield phrase <:+: list.tokens opening closing yield :=
  (List.infix_cons (Listed.infix_tokens mem)).trans (List.prefix_append _ _).isInfix

/-- A bracketed list is divided into its brackets and what its phrases are divided into. -/
theorem Enclosed.divided {α : Type} {yield : α → List Token} {list : Enclosed α}
    {opening closing : TokenKind} {places : α → List Span} {separators : List TokenKind}
    (comma : .comma ∈ separators)
    (divided : ∀ phrase ∈ list.toList, Divided separators (yield phrase) (places phrase)) :
    Divided separators (list.tokens opening closing yield)
      (list.opened :: list.toList.flatMap places ++ [list.closed]) :=
  .single ⟨opening, list.opened⟩
    ((divided_listed comma divided).append (.single ⟨closing, list.closed⟩ .nil))

theorem Labelled.divided {α : Type} {yield : α → List Token} {labelled : Labelled α}
    {span : Span} {separators : List TokenKind} (colon : .colon ∈ separators)
    (covers : Covers (yield labelled.body) span) :
    Divided separators (labelled.tokens yield) [labelled.label.span, span] :=
  .single labelled.label.token (.separator colon (.one covers))

/-! ## Terms -/

/-- The spans of a call and of its parts, once its arguments have theirs. -/
theorem placed_app {func : Ident} {args : Enclosed Tree}
    (infixed : (Tree.node (.app func args)).tokens <:+: lexemes text)
    (placed : ∀ arg ∈ args.toList, Placed text arg.term ∧ Covers arg.tokens arg.term.span) :
    Placed text (Tree.node (.app func args)).term ∧
      Covers (Tree.node (.app func args)).tokens (Tree.node (.app func args)).term.span := by
  rw [Tree.tokens_node, Node.tokens] at *
  rw [Tree.term_node, Node.term]
  have ends := covers_singleton ⟨.rightParen, args.closed⟩
  obtain ⟨merged, covers⟩ := ends.merge func.token
    (⟨.leftParen, args.opened⟩ :: args.items.tokens Tree.tokens) infixed
  refine ⟨?_, covers⟩
  have divided : Divided [.comma] (func.token :: args.tokens .leftParen .rightParen Tree.tokens)
      (func.span :: (args.opened :: args.toList.flatMap (fun arg => [arg.term.span]) ++
        [args.closed])) :=
    .single func.token (Enclosed.divided (by decide) fun arg mem => .one (placed arg mem).2)
  have laid := divided.laid infixed covers
  rw [← List.map_eq_flatMap] at laid
  have opening : Written text .leftParen args.opened "(" :=
    written_of_mem rfl (infixed.subset (by simp [Enclosed.tokens]))
  have closing : Written text .rightParen args.closed ")" :=
    written_of_mem rfl (infixed.subset (by simp [Enclosed.tokens]))
  refine .app ?_ opening ?_ closing merged ?_
  · exact Ident.written_of_mem (infixed.subset List.mem_cons_self)
  · exact List.forall_mem_map.2 fun arg mem => (placed arg mem).1
  · rw [List.map_map]
    exact laid

/-- The spans of a case distinction and of its parts, once the bodies have theirs. -/
theorem placed_case {keyword : Span} {scrutinee : Ident} {arms : Enclosed (Labelled Tree)}
    (infixed : (Tree.node (.case keyword scrutinee arms)).tokens <:+: lexemes text)
    (placed : ∀ arm ∈ arms.toList,
      Placed text arm.body.term ∧ Covers arm.body.tokens arm.body.term.span) :
    Placed text (Tree.node (.case keyword scrutinee arms)).term ∧
      Covers (Tree.node (.case keyword scrutinee arms)).tokens
        (Tree.node (.case keyword scrutinee arms)).term.span := by
  rw [Tree.tokens_node, Node.tokens] at *
  rw [Tree.term_node, Node.term]
  have ends := covers_singleton ⟨.rightBrace, arms.closed⟩
  obtain ⟨merged, covers⟩ := ends.merge ⟨.caseKeyword, keyword⟩
    (scrutinee.token :: ⟨.leftBrace, arms.opened⟩ ::
      arms.items.tokens (Labelled.tokens Tree.tokens)) infixed
  refine ⟨?_, covers⟩
  have divided : Divided [.comma, .colon]
      (⟨.caseKeyword, keyword⟩ :: scrutinee.token ::
        arms.tokens .leftBrace .rightBrace (Labelled.tokens Tree.tokens))
      (keyword :: scrutinee.span :: (arms.opened ::
        arms.toList.flatMap (fun arm => [arm.label.span, arm.body.term.span]) ++
        [arms.closed])) :=
    .single ⟨.caseKeyword, keyword⟩ (.single scrutinee.token
      (Enclosed.divided (by decide) fun arm mem => Labelled.divided (by decide) (placed arm mem).2))
  have laid := divided.laid infixed covers
  have labels : ∀ arm ∈ arms.toList, arm.label.token ∈ lexemes text := by
    intro arm mem
    have phrase := (List.infix_cons (List.infix_cons (Enclosed.infix_tokens mem))).trans infixed
    exact phrase.subset List.mem_cons_self
  have begins : Written text .caseKeyword keyword "case" :=
    written_of_mem rfl (infixed.subset List.mem_cons_self)
  have opening : Written text .leftBrace arms.opened "\x7b" :=
    written_of_mem rfl (infixed.subset (by simp [Enclosed.tokens]))
  have closing : Written text .rightBrace arms.closed "\x7d" :=
    written_of_mem rfl (infixed.subset (by simp [Enclosed.tokens]))
  refine .case begins ?_ opening ?_ ?_ closing merged ?_
  · exact Ident.written_of_mem (infixed.subset (List.mem_cons_of_mem _ List.mem_cons_self))
  · exact List.forall_mem_map.2 fun arm mem => Ident.written_of_mem (labels arm mem)
  · exact List.forall_mem_map.2 fun arm mem => (placed arm mem).1
  · rw [List.flatMap_map]
    exact laid

theorem Tree.placed (tree : Tree) (infixed : tree.tokens <:+: lexemes text) :
    Placed text tree.term ∧ Covers tree.tokens tree.term.span := by
  induction tree using Tree.induct with
  | node node ih =>
      have tokens := infixed
      rw [Tree.tokens_node] at tokens
      cases node with
      | ref name =>
          rw [Tree.tokens_node, Tree.term_node]
          have written := Ident.written_of_mem (tokens.subset List.mem_cons_self)
          exact ⟨.ref written, covers_singleton name.token⟩
      | app func args =>
          refine placed_app infixed fun arg mem => ih arg mem ?_
          exact (List.infix_cons (Enclosed.infix_tokens mem)).trans tokens
      | case keyword scrutinee arms =>
          refine placed_case infixed fun arm mem => ih arm.body (List.mem_map_of_mem mem) ?_
          -- The body is what the arm ends with.
          have phrase := List.infix_cons (List.infix_cons (Enclosed.infix_tokens mem)) |>.trans
            tokens
          exact (List.suffix_append [_, _] _).isInfix.trans phrase

/-! ## Items -/

theorem Head.divided (head : Head) :
    Divided itemSeparators head.tokens (headSpans head.name.span head.declared) := by
  obtain ⟨name, params⟩ := head
  refine .single name.token ?_
  cases params with
  | none => exact .nil
  | some params =>
      have inner : Divided itemSeparators
          (params.items.tokens (Labelled.tokens fun type => [type.token]))
          (params.toList.flatMap fun param => [param.label.span, param.body.span]) :=
        divided_listed (by decide) fun param _ =>
          Labelled.divided (by decide) (covers_singleton param.body.token)
      have closed : Divided itemSeparators [⟨.rightParen, params.closed⟩] [] :=
        .separator (by simp [itemSeparators]) .nil
      have divided := inner.append closed
      rw [List.append_nil] at divided
      show Divided itemSeparators _ ((params.toList.map _).flatMap _)
      rw [List.flatMap_map]
      exact .separator (by simp [itemSeparators]) divided

theorem Head.written {head : Head} (infixed : head.tokens <:+: lexemes text) :
    ∀ param ∈ head.declared, param.name.Written text ∧ param.type.Written text := by
  obtain ⟨name, params⟩ := head
  cases params with
  | none => exact List.forall_mem_nil _
  | some params =>
      refine List.forall_mem_map.2 fun param mem => ?_
      have phrase := (List.infix_cons (Enclosed.infix_tokens mem)).trans infixed
      exact ⟨Ident.written_of_mem (phrase.subset List.mem_cons_self),
        Ident.written_of_mem (phrase.subset
          (List.mem_cons_of_mem _ (List.mem_cons_of_mem _ List.mem_cons_self)))⟩

/-- The bytes an item covers. -/
def Item.extent : Item → Span
  | .type keyword _ ctors => keyword.merge ctors.closed
  | .func head _ _ body => head.name.span.merge body.term.span

theorem placed_func (uri : String) {head : Head} {colon : Span} {ret : Ident} {body : Tree}
    (infixed : (Item.func head colon ret body).tokens <:+: lexemes text) :
    PlacedItem text (Item.func head colon ret body).extent
        ((Item.func head colon ret body).definitions uri text) ∧
      Covers (Item.func head colon ret body).tokens (Item.func head colon ret body).extent := by
  have inOrder := (inOrder_lexemes text).sublist infixed.sublist
  obtain ⟨front, split⟩ : ∃ front, (Item.func head colon ret body).tokens =
      head.name.token :: front ++ body.tokens :=
    ⟨head.tokens.tail ++ [⟨.colon, colon⟩, ret.token], by simp [Item.tokens, Head.tokens]⟩
  have headInfix : head.tokens <:+: lexemes text := (List.prefix_append _ _).isInfix.trans infixed
  have bodyInfix : body.tokens <:+: lexemes text :=
    (List.suffix_append _ _).isInfix.trans (split ▸ infixed)
  obtain ⟨placed, bodyCovers⟩ := Tree.placed body bodyInfix
  obtain ⟨merged, covers⟩ := bodyCovers.merge _ _ (split ▸ infixed)
  rw [← split] at covers
  refine ⟨?_, covers⟩
  have divided : Divided itemSeparators (Item.func head colon ret body).tokens
      (headSpans head.name.span head.declared ++ [ret.span, body.term.span]) :=
    head.divided.append
      (.separator (by simp [itemSeparators]) (.single ret.token (.one bodyCovers)))
  have laid := divided.laid infixed covers
  have retMem : ret.token ∈ (Item.func head colon ret body).tokens := by simp [Item.tokens]
  have nameMem : head.name.token ∈ (Item.func head colon ret body).tokens := by
    rw [split]
    exact List.mem_cons_self
  refine .func rfl ?_ (Ident.written_of_mem (infixed.subset retMem)) placed merged laid
  exact ⟨rfl, written_of_mem rfl (infixed.subset nameMem), covers.inside inOrder nameMem,
    Head.written headInfix⟩

theorem placed_type (uri : String) {keyword : Span} {name : Ident} {ctors : Enclosed Head}
    (infixed : (Item.type keyword name ctors).tokens <:+: lexemes text) :
    PlacedItem text (Item.type keyword name ctors).extent
        ((Item.type keyword name ctors).definitions uri text) ∧
      Covers (Item.type keyword name ctors).tokens (Item.type keyword name ctors).extent := by
  have inOrder := (inOrder_lexemes text).sublist infixed.sublist
  have ends := covers_singleton ⟨.rightBrace, ctors.closed⟩
  obtain ⟨merged, covers⟩ := ends.merge ⟨.typeKeyword, keyword⟩
    (name.token :: ⟨.leftBrace, ctors.opened⟩ :: ctors.items.tokens Head.tokens) infixed
  refine ⟨?_, covers⟩
  have divided : Divided itemSeparators (Item.type keyword name ctors).tokens
      (keyword :: name.span :: (ctors.opened ::
        ctors.toList.flatMap (fun ctor => headSpans ctor.name.span ctor.declared) ++
        [ctors.closed])) :=
    .single ⟨.typeKeyword, keyword⟩ (.single name.token
      (Enclosed.divided (by decide) fun ctor _ => ctor.divided))
  have laid := divided.laid infixed covers
  have phrases : ∀ ctor ∈ ctors.toList, ctor.tokens <:+: (Item.type keyword name ctors).tokens :=
    fun ctor mem => List.infix_cons (List.infix_cons (Enclosed.infix_tokens mem))
  have nameMem : name.token ∈ (Item.type keyword name ctors).tokens :=
    List.mem_cons_of_mem _ List.mem_cons_self
  have begins : Written text .typeKeyword keyword "type" :=
    written_of_mem rfl (infixed.subset List.mem_cons_self)
  have opening : Written text .leftBrace ctors.opened "\x7b" :=
    written_of_mem rfl (infixed.subset (by simp [Item.tokens, Enclosed.tokens]))
  have closing : Written text .rightBrace ctors.closed "\x7d" :=
    written_of_mem rfl (infixed.subset (by simp [Item.tokens, Enclosed.tokens]))
  refine .type ?_ begins ?_ opening ?_ closing merged ?_
  · simp [Function.comp_def]
  · exact ⟨rfl, written_of_mem rfl (infixed.subset nameMem), covers.inside inOrder nameMem,
      List.forall_mem_nil _⟩
  · refine List.forall_mem_map.2 fun ctor mem => ⟨ctor.name.name, ctor.declared, rfl, rfl, ?_⟩
    have ctorMem : ctor.name.token ∈ (Item.type keyword name ctors).tokens :=
      (phrases ctor mem).subset List.mem_cons_self
    exact ⟨rfl, written_of_mem rfl (infixed.subset ctorMem), covers.inside inOrder ctorMem,
      Head.written ((phrases ctor mem).trans infixed)⟩
  · rw [List.flatMap_map]
    exact laid

theorem Item.placed (uri : String) (item : Item) (infixed : item.tokens <:+: lexemes text) :
    PlacedItem text item.extent (item.definitions uri text) ∧ Covers item.tokens item.extent := by
  cases item with
  | type keyword name ctors => exact placed_type uri infixed
  | func head colon ret body => exact placed_func uri infixed

theorem File.divided {file : File} (covers : ∀ item ∈ file, Covers item.tokens item.extent) :
    Divided [] file.tokens (file.map Item.extent) := by
  induction file with
  | nil => exact .nil
  | cons item file ih =>
      rw [List.forall_mem_cons] at covers
      exact .part covers.1 (ih covers.2)

/-- The items of a text stand one behind the other, and their definitions where the spans of
these say. -/
theorem File.placed (uri : String) {file : File} (tokens_eq : file.tokens = lexemes text) :
    (∀ item ∈ file, PlacedItem text item.extent (item.definitions uri text)) ∧
      file.Pairwise fun earlier later => earlier.extent.stop ≤ later.extent.start := by
  have placed : ∀ item ∈ file, PlacedItem text item.extent (item.definitions uri text) ∧
      Covers item.tokens item.extent := by
    intro item mem
    apply Item.placed
    rw [← tokens_eq]
    obtain ⟨before, after, rfl⟩ := List.append_of_mem mem
    exact ⟨File.tokens before, File.tokens after, by simp [File.tokens]⟩
  have divided := File.divided fun item mem => (placed item mem).2
  rw [tokens_eq] at divided
  exact ⟨fun item mem => (placed item mem).1,
    List.pairwise_map.1 (divided.ordered (inOrder_lexemes text))⟩

end Grammar

/-- The definitions of a text that parses come in items, one behind the other, and stand
where their spans say. -/
theorem parse_placed {uri text : String} {defs : List Def} (parsed : parse uri text = .ok defs) :
    ∃ items : List (Span × List Def), items.flatMap (·.2) = defs ∧
      (∀ item ∈ items, PlacedItem text item.1 item.2) ∧
      items.Pairwise fun earlier later => earlier.1.stop ≤ later.1.start := by
  obtain ⟨file, derived⟩ := Parser.items_sound List.nodup_nil parsed
  obtain ⟨placed, ordered⟩ := File.placed uri derived.tokens_eq
  refine ⟨file.map fun item => (item.extent, item.definitions uri text), ?_, ?_, ?_⟩
  · rw [List.flatMap_map]
    exact derived.definitions_eq
  · exact List.forall_mem_map.2 placed
  · exact List.pairwise_map.2 ordered

/-- The type and the function of a text, the function with a call inside a case distinction. -/
theorem parse_placed_two_items :
    let text := "type B \x7b t(x: B), \x7d f(b: B): B case b \x7b t: g(b.x, ) \x7d"
    let source : Parser.Source := ⟨"a", text⟩
    let owner : Ident := ⟨"B", ⟨5, 6⟩⟩
    let call : Term := .app ⟨"g", ⟨43, 44⟩⟩ [.ref ⟨"b.x", ⟨45, 48⟩⟩] ⟨43, 51⟩
    let body : Term := .case ⟨"b", ⟨36, 37⟩⟩ [⟨⟨"t", ⟨40, 41⟩⟩, call⟩] ⟨31, 53⟩
    let defs :=
      source.defineType ⟨0, 19⟩ owner
        [(⟨"t", ⟨9, 10⟩⟩, [⟨⟨"x", ⟨11, 12⟩⟩, ⟨"B", ⟨14, 15⟩⟩⟩])] ++
      [source.define "f" ⟨20, 21⟩ ⟨20, 53⟩
        (.func [⟨⟨"b", ⟨22, 23⟩⟩, ⟨"B", ⟨25, 26⟩⟩⟩] ⟨"B", ⟨29, 30⟩⟩ body)]
    parse "a" text = .ok defs ∧
      ∃ items : List (Span × List Def), items.flatMap (·.2) = defs ∧
        (∀ item ∈ items, PlacedItem text item.1 item.2) ∧
        items.Pairwise fun earlier later => earlier.1.stop ≤ later.1.start := by
  intro text source owner call body defs
  have parsed : parse "a" text = .ok defs := by cbv
  exact ⟨parsed, parse_placed parsed⟩

end LiveCheck
