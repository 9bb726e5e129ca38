import LiveCheck.Language.Token.Scan
import LiveCheck.Proofs.Language.Grammar

/-!
Moving a text to the right.

A text that stands behind another one has the tokens that it has alone, moved by the length of
what stands before it (`scan_shift`). The scanner forgets what it is in the middle of at a line
feed, so this holds of every text that begins a line (`lexemes_joined`). Derivations move with
their tokens (`Item.tokens_shift`), and what a moved derivation denotes are the definitions
moved by as much (`Item.definitions_shift`).
-/

namespace LiveCheck

variable {amount : Nat}

/-! ## Tokens, terms and definitions -/

theorem Span.merge_shift (amount : Nat) (first second : Span) :
    (first.shift amount).merge (second.shift amount) = (first.merge second).shift amount := by
  simp only [merge, shift, Nat.add_min_add_right, Nat.add_max_add_right]

/-- A token of a text that is moved. -/
def Token.shift (amount : Nat) (token : Token) : Token := ⟨token.kind, token.span.shift amount⟩

/-- A name of a text that is moved. -/
def Ident.shift (amount : Nat) (ident : Ident) : Ident := ⟨ident.name, ident.span.shift amount⟩

/-- A parameter of a text that is moved. -/
def Param.shift (amount : Nat) (param : Param) : Param :=
  ⟨param.name.shift amount, param.type.shift amount⟩

namespace Term

mutual

/-- A term of a text that is moved. -/
def shift (amount : Nat) : Term → Term
  | .ref ident => .ref (ident.shift amount)
  | .app func args span =>
    .app (func.shift amount) (shiftArgs amount args) (span.shift amount)
  | .case scrutinee branches span =>
    .case (scrutinee.shift amount) (shiftBranches amount branches) (span.shift amount)

/-- `shift` for the arguments of a call. -/
def shiftArgs (amount : Nat) : List Term → List Term
  | [] => []
  | arg :: rest => arg.shift amount :: shiftArgs amount rest

/-- `shift` for the arms of a case distinction. -/
def shiftBranches (amount : Nat) : List (Branch Term) → List (Branch Term)
  | [] => []
  | ⟨ctor, body⟩ :: rest => ⟨ctor.shift amount, body.shift amount⟩ :: shiftBranches amount rest

end

theorem shiftArgs_eq (amount : Nat) (args : List Term) :
    shiftArgs amount args = args.map (shift amount) := by
  induction args with
  | nil => rfl
  | cons arg rest ih => rw [shiftArgs, ih, List.map_cons]

theorem shiftBranches_eq (amount : Nat) (branches : List (Branch Term)) :
    shiftBranches amount branches =
      branches.map fun branch => ⟨branch.ctor.shift amount, branch.body.shift amount⟩ := by
  induction branches with
  | nil => rfl
  | cons branch rest ih => rw [shiftBranches, ih, List.map_cons]

theorem span_shift (amount : Nat) (term : Term) :
    (term.shift amount).span = term.span.shift amount := by
  cases term <;> rfl

end Term

namespace Def

/-- The body of a definition of a text that is moved. -/
def Body.shift (amount : Nat) : Body → Body
  | .type ctors => .type ctors
  | .ctor owner fields => .ctor (owner.shift amount) (fields.map (Param.shift amount))
  | .func params ret body =>
    .func (params.map (Param.shift amount)) (ret.shift amount) (body.shift amount)

/-- A definition of a text that is moved. -/
def shift (amount : Nat) (definition : Def) : Def :=
  { definition with
    origin := definition.origin.shift amount
    extent := definition.extent.shift amount
    body := definition.body.shift amount }

/-- A definition as part of another text. -/
def withSource (text : String) (definition : Def) : Def :=
  { definition with source := text }

end Def

/-! ## Scanning -/

namespace Scanner

/-- What the scanner is in the middle of in a text that is moved. -/
def State.shift (amount : Nat) : State → State
  | .between => .between
  | .word start read => .word (start + amount) read
  | .slash start => .slash (start + amount)
  | .comment => .comment

theorem begin_shift (amount offset : Nat) (c : Char) :
    begin (offset + amount) c =
      ((begin offset c).1.map (Token.shift amount), (begin offset c).2.shift amount) := by
  unfold begin
  split
  · rfl
  · split
    · rfl
    · split
      · rfl
      · rw [Nat.add_right_comm]
        rfl

theorem wordToken_shift (amount start stop : Nat) (read : List Char) :
    wordToken (start + amount) (stop + amount) read =
      (wordToken start stop read).shift amount := rfl

theorem slashToken_shift (amount start : Nat) :
    slashToken (start + amount) = (slashToken start).shift amount := by
  rw [slashToken, Nat.add_right_comm]
  rfl

theorem step_shift (amount offset : Nat) (state : State) (c : Char) :
    step (state.shift amount) (offset + amount) c =
      ((step state offset c).1.map (Token.shift amount), (step state offset c).2.shift amount) := by
  cases state with
  | between => exact begin_shift amount offset c
  | word start read =>
      simp only [State.shift, step]
      split
      · rfl
      · rw [begin_shift, wordToken_shift]
        rfl
  | slash start =>
      simp only [State.shift, step]
      split
      · rfl
      · rw [begin_shift, slashToken_shift]
        rfl
  | comment =>
      simp only [State.shift, step]
      split <;> rfl

theorem finish_shift (amount offset : Nat) (state : State) :
    finish (offset + amount) (state.shift amount) =
      (finish offset state).map (Token.shift amount) := by
  cases state with
  | slash start => exact congrArg (fun token => [token]) (slashToken_shift amount start)
  | _ => rfl

/-- A text that is moved has the same tokens, moved by as much. -/
theorem scan_shift (amount offset : Nat) (state : State) (text : List Char) :
    scan (state.shift amount) (offset + amount) text =
      (scan state offset text).map (Token.shift amount) := by
  induction text generalizing state offset with
  | nil => exact finish_shift amount offset state
  | cons c rest ih =>
      rw [scan, scan, step_shift, Nat.add_right_comm, ih, List.map_append]

/-- A line feed ends whatever the scanner is in the middle of. -/
theorem step_lineFeed (offset : Nat) (state : State) :
    step state offset '\n' = (finish offset state, .between) := by
  cases state <;> rfl

theorem scan_lineFeed (offset : Nat) (state : State) (before after : List Char) :
    scan state offset (before ++ '\n' :: after) =
      scan state offset before ++ scan .between (offset + (byteLength before + 1)) after := by
  induction before generalizing state offset with
  | nil =>
      rw [List.nil_append, scan, scan, step_lineFeed]
      rfl
  | cons c rest ih =>
      rw [List.cons_append, scan, scan, ih, List.append_assoc, byteLength_cons]
      congr 3
      omega

end Scanner

/-- The tokens of a text with another one on the lines below it. -/
theorem lexemes_joined (above below : String) :
    lexemes (above ++ "\n" ++ below) =
      lexemes above ++ (lexemes below).map (Token.shift (byteLength above.toList + 1)) := by
  have chars : (above ++ "\n" ++ below).toList = above.toList ++ '\n' :: below.toList := by
    simp
  rw [lexemes, chars, Scanner.scan_lineFeed, lexemes, lexemes, ← Scanner.scan_shift]
  rfl

/-! ## Derivations -/

namespace Grammar

variable {α β γ : Type} {yield : α → List Token} {yield' : β → List Token} {change : α → β}

namespace Listed

/-- A list of a text that is moved, where `change` moves its phrases. -/
def shift (amount : Nat) (change : α → β) : Listed α → Listed β
  | .none => .none
  | .some first more trailing =>
    .some (change first) (more.map fun item => (item.1.shift amount, change item.2))
      (trailing.map (Span.shift amount))

theorem shift_cons (amount : Nat) (change : α → β) (first : α) (comma : Span) (rest : Listed α) :
    (cons first comma rest).shift amount change =
      cons (change first) (comma.shift amount) (rest.shift amount change) := by
  cases rest <;> rfl

theorem shift_map (amount : Nat) (change : β → γ) (change' : α → β) (list : Listed α) :
    (list.map change').shift amount change = list.shift amount (change ∘ change') := by
  cases list <;> simp [map, shift]

theorem toList_shift (amount : Nat) (change : α → β) (list : Listed α) :
    (list.shift amount change).toList = list.toList.map change := by
  cases list <;> simp [shift, toList]

theorem tokens_shift {list : Listed α}
    (moved : ∀ phrase ∈ list.toList, yield' (change phrase) =
      (yield phrase).map (Token.shift amount)) :
    (list.shift amount change).tokens yield' = (list.tokens yield).map (Token.shift amount) := by
  induction list using Listed.induct with
  | none => rfl
  | one first =>
      have moved := moved first List.mem_cons_self
      rw [tokens_one, ← moved]
      exact tokens_one yield' (change first)
  | cons first comma rest ih =>
      rw [toList_cons, List.forall_mem_cons] at moved
      rw [shift_cons, tokens_cons, tokens_cons, moved.1, ih moved.2, List.map_append,
        List.map_cons]
      rfl

end Listed

namespace Enclosed

def shift (amount : Nat) (change : α → β) (list : Enclosed α) : Enclosed β :=
  ⟨list.opened.shift amount, list.items.shift amount change, list.closed.shift amount⟩

theorem toList_shift (amount : Nat) (change : α → β) (list : Enclosed α) :
    (list.shift amount change).toList = list.toList.map change :=
  Listed.toList_shift amount change list.items

theorem tokens_shift {list : Enclosed α} {opening closing : TokenKind}
    (moved : ∀ phrase ∈ list.toList, yield' (change phrase) =
      (yield phrase).map (Token.shift amount)) :
    (list.shift amount change).tokens opening closing yield' =
      (list.tokens opening closing yield).map (Token.shift amount) := by
  have items : (list.items.shift amount change).tokens yield' = _ := Listed.tokens_shift moved
  rw [tokens, tokens, List.map_append, List.map_cons, ← items]
  rfl

end Enclosed

namespace Labelled

def shift (amount : Nat) (change : α → β) (labelled : Labelled α) : Labelled β :=
  ⟨labelled.label.shift amount, labelled.colon.shift amount, change labelled.body⟩

theorem tokens_shift {labelled : Labelled α}
    (moved : yield' (change labelled.body) = (yield labelled.body).map (Token.shift amount)) :
    (labelled.shift amount change).tokens yield' =
      (labelled.tokens yield).map (Token.shift amount) := by
  rw [tokens, tokens, List.map_cons, List.map_cons, ← moved]
  rfl

end Labelled

namespace Head

def shift (amount : Nat) (head : Head) : Head :=
  ⟨head.name.shift amount,
    head.params.map (Enclosed.shift amount (Labelled.shift amount (Ident.shift amount)))⟩

theorem tokens_shift (amount : Nat) (head : Head) :
    (head.shift amount).tokens = head.tokens.map (Token.shift amount) := by
  obtain ⟨name, params⟩ := head
  cases params with
  | none => rfl
  | some params =>
      have moved : ∀ param ∈ params.toList,
          (param.shift amount (Ident.shift amount)).tokens (fun type => [type.token]) =
            (param.tokens fun type => [type.token]).map (Token.shift amount) :=
        fun _ _ => Labelled.tokens_shift rfl
      exact congrArg (_ :: ·) (Enclosed.tokens_shift moved)

theorem declared_shift (amount : Nat) (head : Head) :
    (head.shift amount).declared = head.declared.map (Param.shift amount) := by
  obtain ⟨name, params⟩ := head
  cases params with
  | none => rfl
  | some params =>
      simp only [shift, declared, Option.map_some, Enclosed.toList_shift, List.map_map]
      rfl

end Head

namespace Node

/-- A term of a text that is moved, where `change` moves its subterms. -/
def shift (amount : Nat) (change : α → β) : Node α → Node β
  | .ref name => .ref (name.shift amount)
  | .app func args => .app (func.shift amount) (args.shift amount change)
  | .case keyword scrutinee arms =>
    .case (keyword.shift amount) (scrutinee.shift amount)
      (arms.shift amount (Labelled.shift amount change))

theorem shift_map (amount : Nat) (change : β → γ) (change' : α → β) (node : Node α) :
    (node.map change').shift amount change = node.shift amount (change ∘ change') := by
  cases node with
  | ref name => rfl
  | app func args => simp [map, shift, Enclosed.map, Enclosed.shift, Listed.shift_map]
  | case keyword scrutinee arms =>
      simp only [map, shift, Enclosed.map, Enclosed.shift, Listed.shift_map]
      rfl

theorem below_shift (amount : Nat) (change : α → β) (node : Node α) :
    (node.shift amount change).below = node.below.map change := by
  cases node with
  | ref name => rfl
  | app func args => exact Enclosed.toList_shift amount change args
  | case keyword scrutinee arms =>
      simp [shift, below, Enclosed.toList_shift, Labelled.shift]

theorem tokens_shift {node : Node α}
    (moved : ∀ sub ∈ node.below, yield' (change sub) = (yield sub).map (Token.shift amount)) :
    (node.shift amount change).tokens yield' = (node.tokens yield).map (Token.shift amount) := by
  cases node with
  | ref name => rfl
  | app func args =>
      rw [shift, tokens, tokens, Enclosed.tokens_shift moved, List.map_cons]
      rfl
  | case keyword scrutinee arms =>
      have arms' : ∀ arm ∈ arms.toList, (arm.shift amount change).tokens yield' =
          (arm.tokens yield).map (Token.shift amount) :=
        fun arm mem => Labelled.tokens_shift (moved arm.body (List.mem_map_of_mem mem))
      rw [shift, tokens, tokens, Enclosed.tokens_shift arms', List.map_cons, List.map_cons]
      rfl

theorem depth_shift {node : Node α} {depth : α → Nat} {depth' : β → Nat}
    (same : ∀ sub ∈ node.below, depth' (change sub) = depth sub) :
    (node.shift amount change).depth depth' = node.depth depth := by
  have below : node.below.map (depth' ∘ change) = node.below.map depth := List.map_congr_left same
  rw [Node.depth, Node.depth, below_shift, List.map_map, below]

theorem term_shift {node : Node α} {denote : α → Term} {denote' : β → Term}
    (moved : ∀ sub ∈ node.below, denote' (change sub) = (denote sub).shift amount) :
    (node.shift amount change).term denote' = (node.term denote).shift amount := by
  cases node with
  | ref name => rfl
  | app func args =>
      simp only [shift, term, Term.shift, Enclosed.toList_shift, Term.shiftArgs_eq, List.map_map,
        ← Span.merge_shift]
      congr 1
      exact List.map_congr_left moved
  | case keyword scrutinee arms =>
      simp only [shift, term, Term.shift, Enclosed.toList_shift, Term.shiftBranches_eq,
        List.map_map, ← Span.merge_shift]
      congr 1
      refine List.map_congr_left fun arm mem => ?_
      have moved := moved arm.body (List.mem_map_of_mem mem)
      simp only [Function.comp_apply, Labelled.shift, moved]

end Node

namespace Tree

/-- A term of a text that is moved. -/
def shift (amount : Nat) (tree : Tree) : Tree :=
  tree.fold fun level => .node (level.shift amount id)

theorem shift_node (amount : Nat) (node : Node Tree) :
    (Tree.node node).shift amount = .node (node.shift amount (shift amount)) := by
  rw [shift, fold_node, Node.shift_map]
  rfl

theorem tokens_shift (amount : Nat) (tree : Tree) :
    (tree.shift amount).tokens = tree.tokens.map (Token.shift amount) := by
  induction tree using induct with
  | node node ih => rw [shift_node, tokens_node, tokens_node, Node.tokens_shift ih]

theorem depth_shift (amount : Nat) (tree : Tree) : (tree.shift amount).depth = tree.depth := by
  induction tree using induct with
  | node node ih => rw [shift_node, depth_node, depth_node, Node.depth_shift ih]

theorem term_shift (amount : Nat) (tree : Tree) :
    (tree.shift amount).term = tree.term.shift amount := by
  induction tree using induct with
  | node node ih => rw [shift_node, term_node, term_node, Node.term_shift ih]

end Tree

/-! ## Items -/

namespace Item

/-- An item of a text that is moved. -/
def shift (amount : Nat) : Item → Item
  | .type keyword name ctors =>
    .type (keyword.shift amount) (name.shift amount) (ctors.shift amount (Head.shift amount))
  | .func head colon ret body =>
    .func (head.shift amount) (colon.shift amount) (ret.shift amount) (body.shift amount)

theorem tokens_shift (amount : Nat) (item : Item) :
    (item.shift amount).tokens = item.tokens.map (Token.shift amount) := by
  cases item with
  | type keyword name ctors =>
      have ctors' : ∀ ctor ∈ ctors.toList, (ctor.shift amount).tokens =
          ctor.tokens.map (Token.shift amount) := fun ctor _ => ctor.tokens_shift amount
      rw [shift, tokens, tokens, Enclosed.tokens_shift ctors', List.map_cons, List.map_cons]
      rfl
  | func head colon ret body =>
      rw [shift, tokens, tokens, Head.tokens_shift, Tree.tokens_shift, List.map_append,
        List.map_cons, List.map_cons]
      rfl

theorem depth_shift (amount : Nat) (item : Item) : (item.shift amount).depth = item.depth := by
  cases item with
  | type keyword name ctors => rfl
  | func head colon ret body => exact body.depth_shift amount

/-- A moved item denotes its definitions moved by as much. -/
theorem definitions_shift (amount : Nat) (uri text : String) (item : Item) :
    (item.shift amount).definitions uri text =
      (item.definitions uri text).map (Def.shift amount) := by
  cases item with
  | type keyword name ctors =>
      have qualifies : qualified (name.shift amount) ∘ Head.shift amount = qualified name := rfl
      simp only [shift, definitions, Enclosed.toList_shift, List.map_cons, List.map_map,
        qualifies, Def.shift, Def.Body.shift]
      congr 1
      · rw [← Span.merge_shift]
        rfl
      · refine List.map_congr_left fun ctor _ => ?_
        simp only [Function.comp_apply, Head.declared_shift, Enclosed.shift, Def.shift,
          Def.Body.shift, Span.merge_shift]
        rfl
  | func head colon ret body =>
      simp only [shift, definitions, List.map_cons, List.map_nil, Def.shift, Def.Body.shift,
        Head.declared_shift, Tree.term_shift, Term.span_shift, ← Span.merge_shift]
      rfl

/-- The definitions of an item in another text, but for the text that they store. -/
theorem definitions_withSource (uri text other : String) (item : Item) :
    item.definitions uri other = (item.definitions uri text).map (Def.withSource other) := by
  cases item with
  | type keyword name ctors =>
      simp only [definitions, List.map_cons, List.map_map]
      rfl
  | func head colon ret body => rfl

end Item

end Grammar

end LiveCheck
