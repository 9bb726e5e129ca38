import LiveCheck.Proofs.Language.Grammar

/-!
Where the terms of a derivation start.

The leaves of a derivation are its tokens in order. The token that a term starts with is
marked with the number of terms around that term, so a function body starts inside none and
the arguments of a call start inside one term more than the call.
-/

namespace LiveCheck

namespace Grammar

/-- A token of a derivation. If a term starts with it, that term stands inside `around`
others. -/
structure Leaf where
  token : Token
  around : Option Nat

/-- A token that no term starts with. -/
def Leaf.plain (token : Token) : Leaf := ⟨token, none⟩

variable {α β : Type}

namespace Listed

/-- The leaves of a list whose items have the leaves `yield`. -/
def leaves (yield : α → List Leaf) : Listed α → List Leaf
  | .none => []
  | .some first more trailing =>
    yield first ++ more.flatMap (fun item => .plain ⟨.comma, item.1⟩ :: yield item.2) ++
      (trailing.map fun comma => Leaf.plain ⟨.comma, comma⟩).toList

theorem leaves_one (yield : α → List Leaf) (first : α) :
    (one first).leaves yield = yield first := by
  simp [one, leaves]

theorem leaves_cons (yield : α → List Leaf) (first : α) (comma : Span) (rest : Listed α) :
    (cons first comma rest).leaves yield =
      yield first ++ .plain ⟨.comma, comma⟩ :: rest.leaves yield := by
  cases rest with
  | none => simp [cons, leaves]
  | some second more trailing => simp [cons, leaves]

theorem leaves_map (yield : β → List Leaf) (change : α → β) (list : Listed α) :
    (list.map change).leaves yield = list.leaves (yield ∘ change) := by
  cases list <;> simp [map, leaves, List.flatMap_map]

theorem map_token_leaves (yield : α → List Leaf) (list : Listed α) :
    (list.leaves yield).map Leaf.token = list.tokens fun item => (yield item).map Leaf.token := by
  cases list with
  | none => rfl
  | some first more trailing =>
      cases trailing <;> simp [leaves, tokens, Leaf.plain, List.map_flatMap]

theorem tokens_congr {yield yield' : α → List Token} {list : Listed α}
    (same : ∀ item ∈ list.toList, yield item = yield' item) :
    list.tokens yield = list.tokens yield' := by
  induction list using Listed.induct with
  | none => rfl
  | one first => rw [tokens_one, tokens_one, same first List.mem_cons_self]
  | cons first comma rest ih =>
      rw [toList_cons, List.forall_mem_cons] at same
      rw [tokens_cons, tokens_cons, same.1, ih same.2]

end Listed

namespace Enclosed

def leaves (opening closing : TokenKind) (yield : α → List Leaf) (list : Enclosed α) :
    List Leaf :=
  .plain ⟨opening, list.opened⟩ :: list.items.leaves yield ++ [.plain ⟨closing, list.closed⟩]

theorem leaves_map (opening closing : TokenKind) (yield : β → List Leaf) (change : α → β)
    (list : Enclosed α) :
    (list.map change).leaves opening closing yield =
      list.leaves opening closing (yield ∘ change) := by
  rw [leaves, leaves, map, Listed.leaves_map]

theorem map_token_leaves (opening closing : TokenKind) (yield : α → List Leaf)
    (list : Enclosed α) :
    (list.leaves opening closing yield).map Leaf.token =
      list.tokens opening closing fun item => (yield item).map Leaf.token := by
  simp [leaves, tokens, Listed.map_token_leaves, Leaf.plain]

end Enclosed

def Labelled.leaves (yield : α → List Leaf) (labelled : Labelled α) : List Leaf :=
  .plain labelled.label.token :: .plain ⟨.colon, labelled.colon⟩ :: yield labelled.body

def Head.leaves (head : Head) : List Leaf :=
  .plain head.name.token ::
    match head.params with
    | none => []
    | some params =>
      params.leaves .leftParen .rightParen (Labelled.leaves fun type => [.plain type.token])

theorem Head.map_token_leaves (head : Head) : head.leaves.map Leaf.token = head.tokens := by
  obtain ⟨name, params⟩ := head
  cases params with
  | none => rfl
  | some params => exact congrArg _ (Enclosed.map_token_leaves .leftParen .rightParen _ params)

/-! ## Terms -/

/-- The leaves of a term inside `around` others, whose subterms have the leaves `yield`. -/
def Node.leaves (yield : α → List Leaf) (around : Nat) : Node α → List Leaf
  | .ref name => [⟨name.token, around⟩]
  | .app func args => ⟨func.token, around⟩ :: args.leaves .leftParen .rightParen yield
  | .case keyword scrutinee arms =>
    ⟨⟨.caseKeyword, keyword⟩, around⟩ :: .plain scrutinee.token ::
      arms.leaves .leftBrace .rightBrace (Labelled.leaves yield)

theorem Node.leaves_map (yield : β → List Leaf) (around : Nat) (change : α → β) (node : Node α) :
    (node.map change).leaves yield around = node.leaves (yield ∘ change) around := by
  cases node with
  | ref name => rfl
  | app func args => rw [map, leaves, leaves, Enclosed.leaves_map]
  | case keyword scrutinee arms =>
      rw [map, leaves, leaves, Enclosed.leaves_map]
      rfl

theorem Node.map_token_leaves (yield : α → List Leaf) (around : Nat) (node : Node α) :
    (node.leaves yield around).map Leaf.token =
      node.tokens fun sub => (yield sub).map Leaf.token := by
  cases node with
  | ref name => rfl
  | app func args => exact congrArg _ (Enclosed.map_token_leaves .leftParen .rightParen _ args)
  | case keyword scrutinee arms =>
      have inner := Enclosed.map_token_leaves .leftBrace .rightBrace (Labelled.leaves yield) arms
      exact congrArg _ (congrArg _ inner)

theorem Node.tokens_congr {yield yield' : α → List Token} {node : Node α}
    (same : ∀ sub ∈ node.below, yield sub = yield' sub) :
    node.tokens yield = node.tokens yield' := by
  cases node with
  | ref name => rfl
  | app func args => rw [tokens, tokens, Enclosed.tokens, Enclosed.tokens, Listed.tokens_congr same]
  | case keyword scrutinee arms =>
      have arms_same : ∀ arm ∈ arms.toList,
          Labelled.tokens yield arm = Labelled.tokens yield' arm := by
        intro arm mem
        rw [Labelled.tokens, Labelled.tokens, same arm.body (List.mem_map_of_mem mem)]
      rw [tokens, tokens, Enclosed.tokens, Enclosed.tokens, Listed.tokens_congr arms_same]

namespace Tree

/-- The leaves of a term inside `around` others. -/
def leaves (tree : Tree) : (around : Nat) → List Leaf :=
  tree.fold fun node around => node.leaves (fun sub => sub (around + 1)) around

theorem leaves_node (node : Node Tree) (around : Nat) :
    (Tree.node node).leaves around = node.leaves (fun sub => sub.leaves (around + 1)) around := by
  rw [leaves, fold_node, Node.leaves_map]
  rfl

theorem map_token_leaves (tree : Tree) (around : Nat) :
    (tree.leaves around).map Leaf.token = tree.tokens := by
  induction tree using Tree.induct generalizing around with
  | node node ih =>
      rw [leaves_node, tokens_node, Node.map_token_leaves]
      exact Node.tokens_congr fun sub mem => ih sub mem (around + 1)

end Tree

/-! ## Items and files -/

def Item.leaves : Item → List Leaf
  | .type keyword name ctors =>
    .plain ⟨.typeKeyword, keyword⟩ :: .plain name.token ::
      ctors.leaves .leftBrace .rightBrace Head.leaves
  | .func head colon ret body =>
    head.leaves ++ .plain ⟨.colon, colon⟩ :: .plain ret.token :: body.leaves 0

theorem Item.map_token_leaves (item : Item) : item.leaves.map Leaf.token = item.tokens := by
  cases item with
  | type keyword name ctors =>
      simp [leaves, tokens, Enclosed.map_token_leaves, Head.map_token_leaves, Leaf.plain]
  | func head colon ret body =>
      simp [leaves, tokens, Tree.map_token_leaves, Head.map_token_leaves, Leaf.plain]

def File.leaves (file : File) : List Leaf := file.flatMap Item.leaves

theorem File.map_token_leaves (file : File) : file.leaves.map Leaf.token = file.tokens := by
  simp [leaves, tokens, List.map_flatMap, Item.map_token_leaves]

end Grammar

end LiveCheck
