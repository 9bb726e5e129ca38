import LiveCheck.Proofs.Language.Nesting
import LiveCheck.Proofs.Language.Unambiguous
import Mathlib.Computability.Language

/-!
The sentences of each phrase.

The leaves of all derivations of a phrase are a language, and the productions of the grammar
are equations between these languages. Terms are counted by the terms around them, so the
language of the terms inside `n` others is defined by that of the terms inside `n + 1`.
-/

namespace LiveCheck

namespace Grammar

variable {α : Type} {yield : α → List Leaf}

/-- The sentences of all phrases, where `yield` gives the leaves of a phrase. -/
def phrases (yield : α → List Leaf) : Language Leaf :=
  {sentence | ∃ phrase, yield phrase = sentence}

/-- The sentences of one token, of one of the given kinds. -/
def single (kinds : TokenKind → Prop) (around : Option Nat) : Language Leaf :=
  {sentence | ∃ token : Token, kinds token.kind ∧ [⟨token, around⟩] = sentence}

/-- The kinds of identifiers. -/
def IsName (kind : TokenKind) : Prop := ∃ name, kind = .ident name

/-- An identifier that no term starts with. -/
def word : Language Leaf := single IsName none

/-- A keyword, bracket or separator that no term starts with. -/
def symbol (kind : TokenKind) : Language Leaf := single (· = kind) none

/-- Lists up to and including the bracket that closes them. -/
def closed (closing : TokenKind) (yield : α → List Leaf) : Language Leaf :=
  {sentence | ∃ (list : Listed α) (place : Span),
    list.leaves yield ++ [.plain ⟨closing, place⟩] = sentence}

/-- Lists between brackets. -/
def enclosed (opening closing : TokenKind) (yield : α → List Leaf) : Language Leaf :=
  symbol opening * closed closing yield

section Membership

variable {K : Language Leaf} {sentence : List Leaf}

theorem mem_phrases : sentence ∈ phrases yield ↔ ∃ phrase, yield phrase = sentence := Iff.rfl

theorem mem_phrases_mul :
    sentence ∈ phrases yield * K ↔ ∃ phrase, ∃ rest ∈ K, yield phrase ++ rest = sentence := by
  rw [Language.mem_mul]
  constructor
  · intro mem
    obtain ⟨_, ⟨phrase, rfl⟩, rest, restMem, eq⟩ := mem
    exact ⟨phrase, rest, restMem, eq⟩
  · intro mem
    obtain ⟨phrase, rest, restMem, eq⟩ := mem
    exact ⟨_, ⟨phrase, rfl⟩, rest, restMem, eq⟩

theorem mem_single_mul {kinds : TokenKind → Prop} {around : Option Nat} :
    sentence ∈ single kinds around * K ↔
      ∃ token : Token, kinds token.kind ∧ ∃ rest ∈ K, ⟨token, around⟩ :: rest = sentence := by
  rw [Language.mem_mul]
  constructor
  · intro mem
    obtain ⟨_, ⟨token, kind, rfl⟩, rest, restMem, eq⟩ := mem
    exact ⟨token, kind, rest, restMem, eq⟩
  · intro mem
    obtain ⟨token, kind, rest, restMem, eq⟩ := mem
    exact ⟨_, ⟨token, kind, rfl⟩, rest, restMem, eq⟩

theorem mem_name_mul {around : Option Nat} :
    sentence ∈ single IsName around * K ↔
      ∃ ident : Ident, ∃ rest ∈ K, ⟨ident.token, around⟩ :: rest = sentence := by
  rw [mem_single_mul]
  constructor
  · intro mem
    obtain ⟨⟨kind, span⟩, ⟨name, rfl⟩, rest, restMem, eq⟩ := mem
    exact ⟨⟨name, span⟩, rest, restMem, eq⟩
  · intro mem
    obtain ⟨ident, rest, restMem, eq⟩ := mem
    exact ⟨ident.token, ⟨ident.name, rfl⟩, rest, restMem, eq⟩

theorem mem_word_mul :
    sentence ∈ word * K ↔ ∃ ident : Ident, ∃ rest ∈ K, .plain ident.token :: rest = sentence :=
  mem_name_mul

theorem mem_kind_mul {kind : TokenKind} {around : Option Nat} :
    sentence ∈ single (· = kind) around * K ↔
      ∃ span : Span, ∃ rest ∈ K, ⟨⟨kind, span⟩, around⟩ :: rest = sentence := by
  rw [mem_single_mul]
  constructor
  · intro mem
    obtain ⟨⟨_, span⟩, rfl, rest, restMem, eq⟩ := mem
    exact ⟨span, rest, restMem, eq⟩
  · intro mem
    obtain ⟨span, rest, restMem, eq⟩ := mem
    exact ⟨⟨kind, span⟩, rfl, rest, restMem, eq⟩

theorem mem_symbol_mul {kind : TokenKind} :
    sentence ∈ symbol kind * K ↔
      ∃ span : Span, ∃ rest ∈ K, .plain ⟨kind, span⟩ :: rest = sentence :=
  mem_kind_mul

theorem mem_symbol {kind : TokenKind} :
    sentence ∈ symbol kind ↔ ∃ span : Span, [.plain ⟨kind, span⟩] = sentence := by
  rw [← mul_one (symbol kind), mem_symbol_mul]
  simp only [Language.mem_one, exists_eq_left]

theorem mem_word : sentence ∈ word ↔ ∃ ident : Ident, [.plain ident.token] = sentence := by
  rw [← mul_one word, mem_word_mul]
  simp only [Language.mem_one, exists_eq_left]

theorem mem_closed {closing : TokenKind} :
    sentence ∈ closed closing yield ↔ ∃ (list : Listed α) (place : Span),
      list.leaves yield ++ [.plain ⟨closing, place⟩] = sentence :=
  Iff.rfl

end Membership

/-! ## Productions -/

/-- A list is closed at once, or goes on with an item after which it is closed or a comma
follows. -/
theorem closed_eq (closing : TokenKind) (yield : α → List Leaf) :
    closed closing yield = symbol closing +
      phrases yield * (symbol closing + symbol .comma * closed closing yield) := by
  ext sentence
  simp only [Language.mem_add, mem_phrases_mul, mem_symbol, mem_symbol_mul]
  constructor
  · intro mem
    obtain ⟨list, place, rfl⟩ := mem_closed.1 mem
    induction list using Listed.induct with
    | none => exact Or.inl ⟨place, rfl⟩
    | one first =>
        rw [Listed.leaves_one]
        exact Or.inr ⟨first, _, Or.inl ⟨place, rfl⟩, rfl⟩
    | cons first comma rest _ =>
        rw [Listed.leaves_cons, List.append_assoc]
        exact Or.inr ⟨first, _, Or.inr ⟨comma, _, mem_closed.2 ⟨rest, place, rfl⟩, rfl⟩, rfl⟩
  · intro mem
    rcases mem with ⟨place, rfl⟩ | ⟨first, tail, ⟨place, rfl⟩ | ⟨comma, more, inner, rfl⟩, rfl⟩
    · exact mem_closed.2 ⟨.none, place, rfl⟩
    · refine mem_closed.2 ⟨.one first, place, ?_⟩
      rw [Listed.leaves_one]
    · obtain ⟨rest, place, rfl⟩ := mem_closed.1 inner
      refine mem_closed.2 ⟨.cons first comma rest, place, ?_⟩
      rw [Listed.leaves_cons, List.append_assoc, List.cons_append]

theorem phrases_enclosed (opening closing : TokenKind) (yield : α → List Leaf) :
    phrases (Enclosed.leaves opening closing yield) = enclosed opening closing yield := by
  ext sentence
  rw [enclosed, mem_symbol_mul, mem_phrases]
  constructor
  · intro mem
    obtain ⟨⟨opened, list, place⟩, rfl⟩ := mem
    exact ⟨opened, _, mem_closed.2 ⟨list, place, rfl⟩, rfl⟩
  · intro mem
    obtain ⟨opened, _, inner, rfl⟩ := mem
    obtain ⟨list, place, rfl⟩ := mem_closed.1 inner
    exact ⟨⟨opened, list, place⟩, rfl⟩

theorem phrases_labelled (yield : α → List Leaf) :
    phrases (Labelled.leaves yield) = word * (symbol .colon * phrases yield) := by
  ext sentence
  simp only [mem_word_mul, mem_symbol_mul, mem_phrases]
  constructor
  · intro mem
    obtain ⟨⟨label, colon, body⟩, rfl⟩ := mem
    exact ⟨label, _, ⟨colon, _, ⟨body, rfl⟩, rfl⟩, rfl⟩
  · intro mem
    obtain ⟨label, _, ⟨colon, _, ⟨body, rfl⟩, rfl⟩, rfl⟩ := mem
    exact ⟨⟨label, colon, body⟩, rfl⟩

theorem phrases_ident : phrases (fun ident : Ident => [Leaf.plain ident.token]) = word := by
  ext sentence
  rw [mem_word, mem_phrases]

/-- A name, and a list in parentheses if one follows. -/
theorem phrases_head :
    phrases Head.leaves = word * (1 + enclosed .leftParen .rightParen
      (Labelled.leaves fun type : Ident => [.plain type.token])) := by
  ext sentence
  simp only [← phrases_enclosed, mem_word_mul, Language.mem_add, Language.mem_one, mem_phrases]
  constructor
  · intro mem
    obtain ⟨⟨name, params⟩, rfl⟩ := mem
    cases params with
    | none => exact ⟨name, _, Or.inl rfl, rfl⟩
    | some params => exact ⟨name, _, Or.inr ⟨params, rfl⟩, rfl⟩
  · intro mem
    obtain ⟨name, _, rfl | ⟨params, rfl⟩, rfl⟩ := mem
    · exact ⟨⟨name, none⟩, rfl⟩
    · exact ⟨⟨name, some params⟩, rfl⟩

/-- A term inside `around` others starts with a name, which a list of arguments may follow,
or with the keyword of a case distinction. -/
theorem phrases_tree (around : Nat) :
    phrases (Tree.leaves · around) =
      single IsName around *
          (1 + enclosed .leftParen .rightParen (Tree.leaves · (around + 1))) +
        single (· = .caseKeyword) around *
          (word * enclosed .leftBrace .rightBrace
            (Labelled.leaves (Tree.leaves · (around + 1)))) := by
  ext sentence
  simp only [← phrases_enclosed, mem_word_mul, mem_name_mul, mem_kind_mul, Language.mem_add,
    Language.mem_one, mem_phrases]
  constructor
  · intro mem
    obtain ⟨⟨node⟩, rfl⟩ := mem
    rw [Tree.leaves_node]
    cases node with
    | ref name => exact Or.inl ⟨name, _, Or.inl rfl, rfl⟩
    | app func args => exact Or.inl ⟨func, _, Or.inr ⟨args, rfl⟩, rfl⟩
    | case keyword scrutinee arms =>
        exact Or.inr ⟨keyword, _, ⟨scrutinee, _, ⟨arms, rfl⟩, rfl⟩, rfl⟩
  · intro mem
    rcases mem with ⟨name, _, rfl | ⟨args, rfl⟩, rfl⟩ |
      ⟨keyword, _, ⟨scrutinee, _, ⟨arms, rfl⟩, rfl⟩, rfl⟩
    · exact ⟨.node (.ref name), Tree.leaves_node ..⟩
    · exact ⟨.node (.app name args), Tree.leaves_node ..⟩
    · exact ⟨.node (.case keyword scrutinee arms), Tree.leaves_node ..⟩

theorem phrases_item :
    phrases Item.leaves =
      symbol .typeKeyword * (word * enclosed .leftBrace .rightBrace Head.leaves) +
        phrases Head.leaves * (symbol .colon * (word * phrases (Tree.leaves · 0))) := by
  ext sentence
  simp only [← phrases_enclosed, mem_symbol_mul, mem_word_mul, Language.mem_add,
    mem_phrases_mul, mem_phrases]
  constructor
  · intro mem
    obtain ⟨item, rfl⟩ := mem
    cases item with
    | type keyword name ctors => exact Or.inl ⟨keyword, _, ⟨name, _, ⟨ctors, rfl⟩, rfl⟩, rfl⟩
    | func head colon ret body =>
        exact Or.inr ⟨head, _, ⟨colon, _, ⟨ret, _, ⟨body, rfl⟩, rfl⟩, rfl⟩, rfl⟩
  · intro mem
    rcases mem with ⟨keyword, _, ⟨name, _, ⟨ctors, rfl⟩, rfl⟩, rfl⟩ |
      ⟨head, _, ⟨colon, _, ⟨ret, _, ⟨body, rfl⟩, rfl⟩, rfl⟩, rfl⟩
    · exact ⟨.type keyword name ctors, rfl⟩
    · exact ⟨.func head colon ret body, rfl⟩

theorem phrases_file :
    phrases File.leaves = 1 + phrases Item.leaves * phrases File.leaves := by
  ext sentence
  simp only [Language.mem_add, Language.mem_one, mem_phrases_mul, mem_phrases]
  constructor
  · intro mem
    obtain ⟨file, rfl⟩ := mem
    cases file with
    | nil => exact Or.inl rfl
    | cons item file => exact Or.inr ⟨item, _, ⟨file, rfl⟩, rfl⟩
  · intro mem
    rcases mem with rfl | ⟨item, _, ⟨file, rfl⟩, rfl⟩
    · exact ⟨[], rfl⟩
    · exact ⟨item :: file, rfl⟩

end Grammar

end LiveCheck
