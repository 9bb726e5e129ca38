import LiveCheck.Language.Definition
import LiveCheck.Language.Token

/-!
The grammar of files, as derivation trees.

```text
File   := Item*
Item   := "type" Ident "{" [Ctor ("," Ctor)* [","]] "}"
        | Ident [Params] ":" Ident Term
Ctor   := Ident [Params]
Params := "(" [Ident ":" Ident ("," Ident ":" Ident)* [","]] ")"
Term   := Ident
        | Ident "(" [Term ("," Term)* [","]] ")"
        | "case" Ident "{" [Ident ":" Term ("," Ident ":" Term)* [","]] "}"
```

A tree holds every token of what it derives: identifiers with their places, the
places of keywords and punctuation. `tokens` reads the tokens off a tree, and
`definitions` says what a tree denotes. One level of a term (`Node`) is kept apart
from its subterms, so that what is said of trees is said one level at a time.
-/

namespace LiveCheck

/-- The token of an identifier. -/
def Ident.token (ident : Ident) : Token := ⟨.ident ident.name, ident.span⟩

theorem Ident.token_inj {ident other : Ident} (same : ident.token = other.token) :
    ident = other := by
  cases ident
  cases other
  cases same
  rfl

namespace Grammar

/-! ## Derivations -/

/-- Derivations of `[Item ("," Item)* [","]]`. -/
inductive Listed (α : Type) where
  | none
  | some (first : α) (more : List (Span × α)) (trailing : Option Span)

/-- Derivations of a list between brackets. -/
structure Enclosed (α : Type) where
  opened : Span
  items : Listed α
  closed : Span

/-- Derivations of `Ident ":" Body`. -/
structure Labelled (α : Type) where
  label : Ident
  colon : Span
  body : α

/-- Derivations of `Ident [Params]`. -/
structure Head where
  name : Ident
  params : Option (Enclosed (Labelled Ident))

/-- Derivations of `Term`, whose subterms have derivations `τ`. -/
inductive Node (τ : Type) where
  | ref (name : Ident)
  | app (func : Ident) (args : Enclosed τ)
  | case (keyword : Span) (scrutinee : Ident) (arms : Enclosed (Labelled τ))

/-- Derivations of `Term`. -/
inductive Tree where
  | node (level : Node Tree)

/-- Derivations of `Item`. -/
inductive Item where
  | type (keyword : Span) (name : Ident) (ctors : Enclosed Head)
  | func (head : Head) (colon : Span) (ret : Ident) (body : Tree)

/-- Derivations of `File`. -/
abbrev File := List Item

variable {α β γ : Type}

/-! ## Items of a list -/

namespace Listed

def toList : Listed α → List α
  | .none => []
  | .some first more _ => first :: more.map (·.2)

def map (change : α → β) : Listed α → Listed β
  | .none => .none
  | .some first more trailing =>
    .some (change first) (more.map fun item => (item.1, change item.2)) trailing

/-- The tokens of a list whose items have the tokens `yield`. -/
def tokens (yield : α → List Token) : Listed α → List Token
  | .none => []
  | .some first more trailing =>
    yield first ++ more.flatMap (fun item => ⟨.comma, item.1⟩ :: yield item.2) ++
      (trailing.map fun comma => (⟨.comma, comma⟩ : Token)).toList

/-- The list of one item, with no comma after it. -/
def one (first : α) : Listed α := .some first [] .none

/-- The list that starts with an item and a comma. -/
def cons (first : α) (comma : Span) : Listed α → Listed α
  | .none => .some first [] comma
  | .some second more trailing => .some first ((comma, second) :: more) trailing

/-- Lists, read from the left: a list is empty, is one item, or goes on after a comma. -/
theorem induct {motive : Listed α → Prop} (none : motive .none)
    (one : ∀ first, motive (one first))
    (cons : ∀ first comma rest, motive rest → motive (cons first comma rest)) :
    ∀ list, motive list
  | .none => none
  | .some first more trailing => by
      induction more generalizing first with
      | nil =>
          cases trailing with
          | none => exact one first
          | some comma => exact cons first comma .none none
      | cons item more ih => exact cons first item.1 (.some item.2 more trailing) (ih item.2)

theorem toList_cons (first : α) (comma : Span) (rest : Listed α) :
    (cons first comma rest).toList = first :: rest.toList := by
  cases rest <;> rfl

theorem tokens_one (yield : α → List Token) (first : α) :
    (one first).tokens yield = yield first := by
  simp [one, tokens]

theorem tokens_cons (yield : α → List Token) (first : α) (comma : Span) (rest : Listed α) :
    (cons first comma rest).tokens yield =
      yield first ++ ⟨.comma, comma⟩ :: rest.tokens yield := by
  cases rest with
  | none => simp [cons, tokens]
  | some second more trailing => simp [cons, tokens]

theorem toList_map (change : α → β) (list : Listed α) :
    (list.map change).toList = list.toList.map change := by
  cases list <;> simp [map, toList]

theorem tokens_map (yield : β → List Token) (change : α → β) (list : Listed α) :
    (list.map change).tokens yield = list.tokens (yield ∘ change) := by
  cases list <;> simp [map, tokens, List.flatMap_map]

end Listed

namespace Enclosed

def map (change : α → β) (list : Enclosed α) : Enclosed β :=
  { list with items := list.items.map change }

def toList (list : Enclosed α) : List α := list.items.toList

/-- The tokens of a list between an opening and a closing bracket. -/
def tokens (opening closing : TokenKind) (yield : α → List Token) (list : Enclosed α) :
    List Token :=
  ⟨opening, list.opened⟩ :: list.items.tokens yield ++ [⟨closing, list.closed⟩]

end Enclosed

namespace Labelled

def map (change : α → β) (labelled : Labelled α) : Labelled β :=
  { labelled with body := change labelled.body }

def tokens (yield : α → List Token) (labelled : Labelled α) : List Token :=
  labelled.label.token :: ⟨.colon, labelled.colon⟩ :: yield labelled.body

end Labelled

namespace Head

def tokens (head : Head) : List Token :=
  head.name.token ::
    match head.params with
    | none => []
    | some params =>
      params.tokens .leftParen .rightParen (Labelled.tokens fun type => [type.token])

/-- The parameters a head declares. -/
def declared (head : Head) : List Param :=
  match head.params with
  | none => []
  | some params => params.toList.map fun param => ⟨param.label, param.body⟩

end Head

/-! ## Terms, one level at a time -/

namespace Node

/-- The subterms of a term. -/
def below : Node α → List α
  | .ref _ => []
  | .app _ args => args.toList
  | .case _ _ arms => arms.toList.map Labelled.body

def map (change : α → β) : Node α → Node β
  | .ref name => .ref name
  | .app func args => .app func (args.map change)
  | .case keyword scrutinee arms => .case keyword scrutinee (arms.map (Labelled.map change))

/-- The tokens of a term whose subterms have the tokens `yield`. -/
def tokens (yield : α → List Token) : Node α → List Token
  | .ref name => [name.token]
  | .app func args => func.token :: args.tokens .leftParen .rightParen yield
  | .case keyword scrutinee arms =>
    ⟨.caseKeyword, keyword⟩ :: scrutinee.token ::
      arms.tokens .leftBrace .rightBrace (Labelled.tokens yield)

/-- The depth of a term whose subterms have depth `depth`. -/
def depth (depth : α → Nat) (node : Node α) : Nat :=
  1 + (node.below.map depth).foldr max 0

/-- What a term denotes whose subterms denote `denote`. -/
def term (denote : α → Term) : Node α → Term
  | .ref name => .ref name
  | .app func args => .app func (args.toList.map denote) (func.span.merge args.closed)
  | .case keyword scrutinee arms =>
    .case scrutinee (arms.toList.map fun arm => ⟨arm.label, denote arm.body⟩)
      (keyword.merge arms.closed)

end Node

namespace Tree

variable (level : Node α → α)

mutual

/-- The value of a tree, where `level` gives the value of a term from the values of
its subterms. -/
def fold : Tree → α
  | .node (.ref name) => level (.ref name)
  | .node (.app func ⟨opened, args, closed⟩) =>
    level (.app func ⟨opened, foldArgs args, closed⟩)
  | .node (.case keyword scrutinee ⟨opened, arms, closed⟩) =>
    level (.case keyword scrutinee ⟨opened, foldArms arms, closed⟩)

def foldArgs : Listed Tree → Listed α
  | .none => .none
  | .some first more trailing => .some (fold first) (foldMoreArgs more) trailing

def foldMoreArgs : List (Span × Tree) → List (Span × α)
  | [] => []
  | (comma, arg) :: more => (comma, fold arg) :: foldMoreArgs more

def foldArms : Listed (Labelled Tree) → Listed (Labelled α)
  | .none => .none
  | .some ⟨label, colon, body⟩ more trailing =>
    .some ⟨label, colon, fold body⟩ (foldMoreArms more) trailing

def foldMoreArms : List (Span × Labelled Tree) → List (Span × Labelled α)
  | [] => []
  | (comma, ⟨label, colon, body⟩) :: more =>
    (comma, ⟨label, colon, fold body⟩) :: foldMoreArms more

end

theorem foldMoreArgs_eq (more : List (Span × Tree)) :
    foldMoreArgs level more = more.map fun item => (item.1, fold level item.2) := by
  induction more with
  | nil => rfl
  | cons item more ih => rw [foldMoreArgs, ih, List.map_cons]

theorem foldArgs_eq (args : Listed Tree) : foldArgs level args = args.map (fold level) := by
  cases args with
  | none => rfl
  | some first more trailing => rw [foldArgs, foldMoreArgs_eq, Listed.map]

theorem foldMoreArms_eq (more : List (Span × Labelled Tree)) :
    foldMoreArms level more = more.map fun item => (item.1, item.2.map (fold level)) := by
  induction more with
  | nil => rfl
  | cons item more ih => rw [foldMoreArms, ih, List.map_cons, Labelled.map]

theorem foldArms_eq (arms : Listed (Labelled Tree)) :
    foldArms level arms = arms.map (Labelled.map (fold level)) := by
  cases arms with
  | none => rfl
  | some first more trailing => rw [foldArms, foldMoreArms_eq, Listed.map, Labelled.map]

theorem fold_node (node : Node Tree) :
    fold level (.node node) = level (node.map (fold level)) := by
  cases node with
  | ref name => rfl
  | app func args => rw [fold, foldArgs_eq, Node.map, Enclosed.map]
  | case keyword scrutinee arms => rw [fold, foldArms_eq, Node.map, Enclosed.map]

end Tree

namespace Node

theorem below_map (change : α → β) (node : Node α) :
    (node.map change).below = node.below.map change := by
  cases node with
  | ref name => rfl
  | app func args => exact Listed.toList_map change args.items
  | case keyword scrutinee arms =>
      simp [map, below, Enclosed.map, Enclosed.toList, Listed.toList_map, Labelled.map]

theorem tokens_map (yield : β → List Token) (change : α → β) (node : Node α) :
    (node.map change).tokens yield = node.tokens (yield ∘ change) := by
  cases node with
  | ref name => rfl
  | app func args => simp [map, tokens, Enclosed.tokens, Enclosed.map, Listed.tokens_map]
  | case keyword scrutinee arms =>
      simp only [map, tokens, Enclosed.tokens, Enclosed.map, Listed.tokens_map]
      rfl

theorem depth_map (depth : β → Nat) (change : α → β) (node : Node α) :
    (node.map change).depth depth = node.depth (depth ∘ change) := by
  rw [Node.depth, Node.depth, below_map, List.map_map]

theorem term_map (denote : β → Term) (change : α → β) (node : Node α) :
    (node.map change).term denote = node.term (denote ∘ change) := by
  cases node with
  | ref name => rfl
  | app func args => simp [map, term, Enclosed.map, Enclosed.toList, Listed.toList_map]
  | case keyword scrutinee arms =>
      simp [map, term, Enclosed.map, Enclosed.toList, Listed.toList_map, Labelled.map]

theorem depth_le_succ {depth : α → Nat} {node : Node α} {bound : Nat} :
    node.depth depth ≤ bound + 1 ↔ ∀ sub ∈ node.below, depth sub ≤ bound := by
  rw [Node.depth]
  induction node.below with
  | nil => simp
  | cons first rest ih =>
      rw [List.forall_mem_cons, ← ih, List.map_cons, List.foldr_cons]
      omega

end Node

namespace Tree

/-- The tokens a term derives. -/
def tokens (tree : Tree) : List Token := tree.fold (Node.tokens id)

/-- How deep a term nests; a term without subterms has depth one. -/
def depth (tree : Tree) : Nat := tree.fold (Node.depth id)

/-- The term a derivation denotes. -/
def term (tree : Tree) : Term := tree.fold (Node.term id)

theorem tokens_node (node : Node Tree) : (Tree.node node).tokens = node.tokens tokens := by
  rw [tokens, fold_node, Node.tokens_map]
  rfl

theorem depth_node (node : Node Tree) : (Tree.node node).depth = node.depth depth := by
  rw [depth, fold_node, Node.depth_map]
  rfl

theorem term_node (node : Node Tree) : (Tree.node node).term = node.term term := by
  rw [term, fold_node, Node.term_map]
  rfl

/-- What holds of a term when it holds of its subterms holds of every term. -/
theorem induct {motive : Tree → Prop}
    (node : ∀ node, (∀ sub ∈ node.below, motive sub) → motive (.node node)) (tree : Tree) :
    motive tree := by
  -- Subterms nest less deep than the term they stand in.
  have bounded : ∀ bound tree, tree.depth ≤ bound → motive tree := by
    intro bound
    induction bound with
    | zero =>
        rintro ⟨level⟩ shallow
        rw [depth_node, Node.depth] at shallow
        omega
    | succ bound ih =>
        rintro ⟨level⟩ shallow
        rw [depth_node, Node.depth_le_succ] at shallow
        exact node level fun sub mem => ih sub (shallow sub mem)
  exact bounded tree.depth tree (Nat.le_refl _)

end Tree

/-! ## Items and files -/

namespace Item

def tokens : Item → List Token
  | .type keyword name ctors =>
    ⟨.typeKeyword, keyword⟩ :: name.token :: ctors.tokens .leftBrace .rightBrace Head.tokens
  | .func head colon ret body =>
    head.tokens ++ ⟨.colon, colon⟩ :: ret.token :: body.tokens

/-- The depth to which the terms of an item nest. -/
def depth : Item → Nat
  | .type _ _ _ => 0
  | .func _ _ _ body => body.depth

/-- The name of a constructor of the type `type`. -/
def qualified (type : Ident) (ctor : Head) : String := type.name ++ "." ++ ctor.name.name

/-- The names an item defines. -/
def names : Item → List String
  | .type _ name ctors => name.name :: ctors.toList.map (qualified name)
  | .func head _ _ _ => [head.name.name]

/-- The definitions an item of the file `uri` denotes: the function, or the type
followed by its constructors. -/
def definitions (uri text : String) : Item → List Def
  | .type keyword name ctors =>
    { name := name.name
      file := uri
      source := text
      origin := name.span
      extent := keyword.merge ctors.closed
      body := .type (ctors.toList.map (qualified name)) } ::
    ctors.toList.map fun ctor =>
      { name := qualified name ctor
        file := uri
        source := text
        origin := ctor.name.span
        extent := keyword.merge ctors.closed
        body := .ctor name ctor.declared }
  | .func head _ ret body =>
    [{ name := head.name.name
       file := uri
       source := text
       origin := head.name.span
       extent := head.name.span.merge body.term.span
       body := .func head.declared ret body.term }]

theorem map_name_definitions (uri text : String) (item : Item) :
    (item.definitions uri text).map Def.name = item.names := by
  cases item with
  | type keyword name ctors => simp [definitions, names, Function.comp_def]
  | func head colon ret body => rfl

end Item

namespace File

def tokens (file : File) : List Token := file.flatMap Item.tokens

/-- The names a file defines, in order. -/
def names (file : File) : List String := file.flatMap Item.names

/-- The definitions a file denotes, in order. -/
def definitions (uri text : String) (file : File) : List Def :=
  file.flatMap (Item.definitions uri text)

theorem map_name_definitions (uri text : String) (file : File) :
    (file.definitions uri text).map Def.name = file.names := by
  simp only [definitions, names, List.map_flatMap, Item.map_name_definitions]

end File

end Grammar

end LiveCheck
