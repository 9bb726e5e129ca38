import LiveCheck.Proofs.Language.Grammar
import Mathlib.Data.List.Basic

/-!
A text has at most one derivation.

Every phrase of the grammar starts with a word, and lists are closed by a bracket, so
the next token decides which way a derivation goes on. There is one exception: after
the name of a term or of a head, a parenthesis belongs to it. `Settled` therefore
compares derivations only where no parenthesis follows, which is the case wherever
the grammar puts a term or a head.
-/

namespace LiveCheck

/-- Keywords and identifiers, as opposed to brackets and separators. -/
def TokenKind.isWord : TokenKind → Bool
  | .typeKeyword => true
  | .caseKeyword => true
  | .ident _ => true
  | _ => false

/-- The brackets that close a list. -/
def TokenKind.isClosing : TokenKind → Bool
  | .rightParen => true
  | .rightBrace => true
  | _ => false

theorem TokenKind.isWord_of_isClosing {kind : TokenKind} (closing : kind.isClosing = true) :
    kind.isWord = false := by
  cases kind with
  | rightParen => rfl
  | rightBrace => rfl
  | _ => cases closing

namespace Grammar

variable {α : Type} {yield : α → List Token}

/-- The tokens do not start with a parenthesis. -/
def Apart (rest : List Token) : Prop :=
  ∀ span more, rest ≠ ⟨.leftParen, span⟩ :: more

/-- Every phrase starts with a word. -/
def Worded (yield : α → List Token) : Prop :=
  ∀ phrase, ∃ kind span more, kind.isWord = true ∧ yield phrase = ⟨kind, span⟩ :: more

/-- Tokens that start with `phrase` start with no other phrase. -/
def Settled (yield : α → List Token) (phrase : α) : Prop :=
  ∀ ⦃other rest rest'⦄, Apart rest → Apart rest' →
    yield phrase ++ rest = yield other ++ rest' → phrase = other ∧ rest = rest'

theorem apart_nil : Apart [] := by
  intro span more eq
  cases eq

theorem apart_cons {kind : TokenKind} (differs : kind ≠ .leftParen) (span : Span)
    (more : List Token) : Apart (⟨kind, span⟩ :: more) := by
  intro span' more' eq
  cases eq
  exact differs rfl

theorem apart_closing {closing : TokenKind} (closes : closing.isClosing = true) (span : Span)
    (more : List Token) : Apart (⟨closing, span⟩ :: more) := by
  apply apart_cons
  intro eq
  subst eq
  cases closes

theorem Worded.apart (worded : Worded yield) (phrase : α) (rest : List Token) :
    Apart (yield phrase ++ rest) := by
  obtain ⟨kind, span, more, word, eq⟩ := worded phrase
  rw [eq]
  apply apart_cons
  intro paren
  subst paren
  cases word

/-- No phrase starts with a bracket or a separator. -/
theorem Worded.append_ne (worded : Worded yield) {kind : TokenKind}
    (symbol : kind.isWord = false) (phrase : α) {span : Span} {rest more : List Token} :
    yield phrase ++ rest ≠ ⟨kind, span⟩ :: more := by
  obtain ⟨kind', span', more', word, eq⟩ := worded phrase
  rw [eq]
  intro same
  cases same
  rw [word] at symbol
  cases symbol

theorem Worded.append_ne_nil (worded : Worded yield) (phrase : α) (rest : List Token) :
    yield phrase ++ rest ≠ [] := by
  obtain ⟨kind, span, more, -, eq⟩ := worded phrase
  rw [eq, List.cons_append]
  exact List.cons_ne_nil _ _

/-! ## Lists -/

theorem Listed.eq_of_tokens {closing : TokenKind} (closes : closing.isClosing = true)
    (worded : Worded yield)
    {list : Listed α} (settled : ∀ phrase ∈ list.toList, Settled yield phrase)
    {other : Listed α} {closed closed' : Span} {rest rest' : List Token}
    (same : list.tokens yield ++ ⟨closing, closed⟩ :: rest =
      other.tokens yield ++ ⟨closing, closed'⟩ :: rest') :
    list = other ∧ closed = closed' ∧ rest = rest' := by
  have symbol : closing.isWord = false := TokenKind.isWord_of_isClosing closes
  have apart := apart_closing closes
  have apartComma : ∀ span more, Apart (⟨.comma, span⟩ :: more) := apart_cons (by decide)
  induction list using Listed.induct generalizing other with
  | none =>
      induction other using Listed.induct with
      | none =>
          cases same
          exact ⟨rfl, rfl, rfl⟩
      | one first =>
          rw [Listed.tokens_one] at same
          exact absurd same.symm (worded.append_ne symbol first)
      | cons first comma others _ =>
          rw [Listed.tokens_cons, List.append_assoc] at same
          exact absurd same.symm (worded.append_ne symbol first)
  | one first =>
      have first_settled : Settled yield first := settled first List.mem_cons_self
      rw [Listed.tokens_one] at same
      induction other using Listed.induct with
      | none => exact absurd same (worded.append_ne symbol first)
      | one first' =>
          rw [Listed.tokens_one] at same
          obtain ⟨rfl, tail⟩ := first_settled (apart _ _) (apart _ _) same
          cases tail
          exact ⟨rfl, rfl, rfl⟩
      | cons first' comma others _ =>
          rw [Listed.tokens_cons, List.append_assoc] at same
          obtain ⟨-, tail⟩ := first_settled (apart _ _) (apartComma _ _) same
          cases tail
          cases closes
  | cons first comma list ih =>
      rw [Listed.toList_cons, List.forall_mem_cons] at settled
      rw [Listed.tokens_cons, List.append_assoc] at same
      induction other using Listed.induct with
      | none => exact absurd same (worded.append_ne symbol first)
      | one first' =>
          rw [Listed.tokens_one] at same
          obtain ⟨-, tail⟩ := settled.1 (apartComma _ _) (apart _ _) same
          cases tail
          cases closes
      | cons first' comma' others _ =>
          rw [Listed.tokens_cons, List.append_assoc] at same
          obtain ⟨rfl, tail⟩ := settled.1 (apartComma _ _) (apartComma _ _) same
          obtain ⟨token, tail⟩ := List.cons.inj tail
          obtain ⟨rfl, rfl, rfl⟩ := ih settled.2 tail
          cases token
          exact ⟨rfl, rfl, rfl⟩

theorem Enclosed.eq_of_tokens {opening closing : TokenKind}
    (closes : closing.isClosing = true) (worded : Worded yield)
    {list : Enclosed α} (settled : ∀ phrase ∈ list.toList, Settled yield phrase)
    {other : Enclosed α} {rest rest' : List Token}
    (same : list.tokens opening closing yield ++ rest =
      other.tokens opening closing yield ++ rest') :
    list = other ∧ rest = rest' := by
  obtain ⟨opened, items, closed⟩ := list
  obtain ⟨opened', items', closed'⟩ := other
  simp only [tokens, List.cons_append, List.append_assoc, List.nil_append] at same
  obtain ⟨token, tail⟩ := List.cons.inj same
  cases token
  obtain ⟨rfl, rfl, rfl⟩ := Listed.eq_of_tokens closes worded settled tail
  exact ⟨rfl, rfl⟩

/-! ## Labels and heads -/

theorem settled_ident (ident : Ident) : Settled (fun ident => [Ident.token ident]) ident := by
  intro other rest rest' _ _ same
  obtain ⟨token, tail⟩ := List.cons.inj same
  exact ⟨Ident.token_inj token, tail⟩

theorem worded_labelled : Worded (Labelled.tokens yield) := by
  intro labelled
  exact ⟨_, _, _, rfl, rfl⟩

theorem Settled.labelled {labelled : Labelled α} (settled : Settled yield labelled.body) :
    Settled (Labelled.tokens yield) labelled := by
  intro other rest rest' apart apart' same
  obtain ⟨label, colon, body⟩ := labelled
  obtain ⟨label', colon', body'⟩ := other
  obtain ⟨first, tail⟩ := List.cons.inj same
  obtain ⟨second, tail⟩ := List.cons.inj tail
  obtain ⟨eq, rfl⟩ := settled apart apart' tail
  cases Ident.token_inj first
  cases second
  cases eq
  exact ⟨rfl, rfl⟩

theorem worded_head : Worded Head.tokens := by
  intro head
  exact ⟨_, _, _, rfl, rfl⟩

theorem settled_head (head : Head) : Settled Head.tokens head := by
  intro other rest rest' apart apart' same
  obtain ⟨name, params⟩ := head
  obtain ⟨name', params'⟩ := other
  obtain ⟨first, tail⟩ := List.cons.inj same
  cases Ident.token_inj first
  cases params with
  | none =>
      cases params' with
      | none => exact ⟨rfl, tail⟩
      | some params' => exact absurd tail (apart _ _)
  | some params =>
      cases params' with
      | none => exact absurd tail.symm (apart' _ _)
      | some params' =>
          obtain ⟨rfl, rfl⟩ := Enclosed.eq_of_tokens rfl worded_labelled
            (fun param _ => (settled_ident param.body).labelled) tail
          exact ⟨rfl, rfl⟩

/-! ## Terms, items and files -/

theorem worded_tree : Worded Tree.tokens := by
  rintro ⟨node⟩
  rw [Tree.tokens_node]
  cases node with
  | ref name => exact ⟨_, _, _, rfl, rfl⟩
  | app func args => exact ⟨_, _, _, rfl, rfl⟩
  | case keyword scrutinee arms => exact ⟨_, _, _, rfl, rfl⟩

theorem settled_tree (tree : Tree) : Settled Tree.tokens tree := by
  induction tree using Tree.induct with
  | node node ih =>
      rintro ⟨other⟩ rest rest' apart apart' same
      rw [Tree.tokens_node, Tree.tokens_node] at same
      -- The first token tells a case from a name, the second a call from a name alone.
      cases node with
      | ref name =>
          cases other with
          | ref name' =>
              obtain ⟨first, tail⟩ := List.cons.inj same
              cases Ident.token_inj first
              exact ⟨rfl, tail⟩
          | app func args => exact absurd (List.cons.inj same).2 (apart _ _)
          | case keyword scrutinee arms => cases (List.cons.inj same).1
      | app func args =>
          cases other with
          | ref name => exact absurd (List.cons.inj same).2.symm (apart' _ _)
          | app func' args' =>
              obtain ⟨first, tail⟩ := List.cons.inj same
              cases Ident.token_inj first
              obtain ⟨rfl, rfl⟩ := Enclosed.eq_of_tokens rfl worded_tree ih tail
              exact ⟨rfl, rfl⟩
          | case keyword scrutinee arms => cases (List.cons.inj same).1
      | case keyword scrutinee arms =>
          cases other with
          | ref name => cases (List.cons.inj same).1
          | app func args => cases (List.cons.inj same).1
          | case keyword' scrutinee' arms' =>
              obtain ⟨first, tail⟩ := List.cons.inj same
              obtain ⟨second, enclosed⟩ := List.cons.inj tail
              cases first
              cases Ident.token_inj second
              obtain ⟨rfl, rfl⟩ := Enclosed.eq_of_tokens rfl worded_labelled
                (fun arm mem => (ih arm.body (List.mem_map_of_mem mem)).labelled) enclosed
              exact ⟨rfl, rfl⟩

theorem worded_item : Worded Item.tokens := by
  intro item
  cases item with
  | type keyword name ctors => exact ⟨_, _, _, rfl, rfl⟩
  | func head colon ret body => exact ⟨_, _, _, rfl, rfl⟩

theorem settled_item (item : Item) : Settled Item.tokens item := by
  intro other rest rest' apart apart' same
  cases item with
  | type keyword name ctors =>
      cases other with
      | type keyword' name' ctors' =>
          obtain ⟨first, tail⟩ := List.cons.inj same
          obtain ⟨second, enclosed⟩ := List.cons.inj tail
          cases first
          cases Ident.token_inj second
          obtain ⟨rfl, rfl⟩ := Enclosed.eq_of_tokens rfl worded_head
            (fun ctor _ => settled_head ctor) enclosed
          exact ⟨rfl, rfl⟩
      | func head colon ret body => cases (List.cons.inj same).1
  | func head colon ret body =>
      cases other with
      | type keyword name ctors => cases (List.cons.inj same).1
      | func head' colon' ret' body' =>
          have apartColon : ∀ span more, Apart (⟨.colon, span⟩ :: more) :=
            apart_cons (by decide)
          simp only [Item.tokens, List.append_assoc, List.cons_append] at same
          obtain ⟨rfl, tail⟩ := settled_head head (apartColon _ _) (apartColon _ _) same
          obtain ⟨first, tail⟩ := List.cons.inj tail
          obtain ⟨second, tail⟩ := List.cons.inj tail
          obtain ⟨rfl, rfl⟩ := settled_tree body apart apart' tail
          cases first
          cases Ident.token_inj second
          exact ⟨rfl, rfl⟩

theorem File.apart_tokens (file : File) : Apart file.tokens := by
  cases file with
  | nil => exact apart_nil
  | cons item rest => exact worded_item.apart item (File.tokens rest)

/-- No two derivations have the same tokens. -/
theorem File.eq_of_tokens {file other : File} (same : file.tokens = other.tokens) :
    file = other := by
  induction file generalizing other with
  | nil =>
      cases other with
      | nil => rfl
      | cons item rest => exact absurd same.symm (worded_item.append_ne_nil item _)
  | cons item rest ih =>
      cases other with
      | nil => exact absurd same (worded_item.append_ne_nil item _)
      | cons item' rest' =>
          obtain ⟨rfl, tail⟩ :=
            settled_item item (File.apart_tokens rest) (File.apart_tokens rest') same
          rw [ih tail]

end Grammar

end LiveCheck
