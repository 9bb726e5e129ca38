import LiveCheck.Language.Definition.Parse
import LiveCheck.Proofs.Language.Sentences

/-!
How far tokens can be read on.

`Leads L used K rest` says where reading `used` leads: the sentences of `L` that go on after
these tokens as `rest` does go on as a sentence of `K`, and all of `K` is left. A parser that
keeps to the grammar knows such a `K` at every token (`Follows`), so that it stops only where
nothing in `K` starts like the tokens that are left (`Refuses`). Whether the grammar allows
the tokens before the stop and forbids the next one is then read off `K`.
-/

namespace LiveCheck

namespace Grammar

variable {L M K : Language Leaf} {used used' : List Leaf} {tokens rest : List Token}
  {kinds : TokenKind → Prop} {around : Option Nat} {eof : Token}

def tokensOf (sentence : List Leaf) : List Token := sentence.map Leaf.token

theorem tokensOf_append (used used' : List Leaf) :
    tokensOf (used ++ used') = tokensOf used ++ tokensOf used' :=
  List.map_append

/-! ## Languages with a sentence -/

def Productive (L : Language Leaf) : Prop := ∃ sentence, sentence ∈ L

theorem Productive.mul (first : Productive L) (second : Productive M) : Productive (L * M) := by
  obtain ⟨front, frontMem⟩ := first
  obtain ⟨back, backMem⟩ := second
  exact ⟨front ++ back, Language.append_mem_mul frontMem backMem⟩

theorem Productive.add (first : Productive L) (M : Language Leaf) : Productive (L + M) := by
  obtain ⟨sentence, mem⟩ := first
  exact ⟨sentence, Or.inl mem⟩

theorem productive_single {kind : TokenKind} (ofKind : kinds kind) (around : Option Nat) :
    Productive (single kinds around) :=
  ⟨_, ⟨kind, default⟩, ofKind, rfl⟩

theorem productive_one : Productive 1 := ⟨[], Language.nil_mem_one⟩

theorem productive_word : Productive word := productive_single ⟨"", rfl⟩ none

theorem productive_symbol (kind : TokenKind) : Productive (symbol kind) :=
  ⟨_, mem_symbol.2 ⟨default, rfl⟩⟩

theorem productive_closed {α : Type} (closing : TokenKind) (yield : α → List Leaf) :
    Productive (closed closing yield) :=
  ⟨_, .none, default, rfl⟩

/-! ## What is left of a language -/

/-- After `used`, where `rest` follows, the sentences of `L` go on as those of `K`. -/
structure Leads (L : Language Leaf) (used : List Leaf) (K : Language Leaf)
    (rest : List Token) : Prop where
  complete : ∀ sentence ∈ K, used ++ sentence ∈ L
  forced : ∀ sentence ∈ L, ∀ more, tokensOf sentence = tokensOf used ++ more →
    more.head? = rest.head? → ∃ tail ∈ K, sentence = used ++ tail

theorem Leads.narrow (within : ∀ sentence ∈ K, sentence ∈ L)
    (only : ∀ sentence ∈ L, (tokensOf sentence).head? = rest.head? → sentence ∈ K) :
    Leads L [] K rest where
  complete := within
  forced sentence mem more split head := by
    obtain rfl : tokensOf sentence = more := split
    exact ⟨sentence, only sentence mem head, rfl⟩

theorem Leads.refl (L : Language Leaf) (rest : List Token) : Leads L [] L rest :=
  .narrow (fun _ mem => mem) fun _ mem _ => mem

theorem Leads.trans (first : Leads L used M (tokensOf used' ++ rest))
    (second : Leads M used' K rest) : Leads L (used ++ used') K rest where
  complete tail mem := by
    rw [List.append_assoc]
    exact first.complete _ (second.complete tail mem)
  forced sentence mem more split head := by
    rw [tokensOf_append, List.append_assoc] at split
    have heads : (tokensOf used' ++ more).head? = (tokensOf used' ++ rest).head? := by
      rw [List.head?_append, List.head?_append, head]
    obtain ⟨tail, tailMem, rfl⟩ := first.forced sentence mem _ split heads
    rw [tokensOf_append] at split
    obtain ⟨last, lastMem, rfl⟩ :=
      second.forced tail tailMem more (List.append_cancel_left split) head
    exact ⟨last, lastMem, (List.append_assoc ..).symm⟩

theorem Leads.single {token : Token} (kind : kinds token.kind) (K : Language Leaf)
    (rest : List Token) : Leads (single kinds around * K) [⟨token, around⟩] K rest where
  complete tail mem := mem_single_mul.2 ⟨token, kind, tail, mem, rfl⟩
  forced sentence mem more split head := by
    obtain ⟨token', -, tail, tailMem, rfl⟩ := mem_single_mul.1 mem
    obtain ⟨rfl, -⟩ := List.cons.inj split
    exact ⟨tail, tailMem, rfl⟩

/-! ## First tokens -/

/-- Every sentence starts with a token of one of the given kinds. -/
def Begins (kinds : TokenKind → Prop) (L : Language Leaf) : Prop :=
  ∀ sentence ∈ L, ∃ leaf more, sentence = leaf :: more ∧ kinds leaf.token.kind

/-- No sentence starts with a token of one of the given kinds. -/
def Avoids (kinds : TokenKind → Prop) (L : Language Leaf) : Prop :=
  ∀ leaf more, leaf :: more ∈ L → ¬ kinds leaf.token.kind

/-- The next token, if there is one, is of one of the given kinds. -/
def Next (kinds : TokenKind → Prop) (tokens : List Token) : Prop :=
  ∃ token rest, tokens = token :: rest ∧ kinds token.kind

theorem begins_single (kinds : TokenKind → Prop) (around : Option Nat) (K : Language Leaf) :
    Begins kinds (single kinds around * K) := by
  intro sentence mem
  obtain ⟨token, kind, rest, -, rfl⟩ := mem_single_mul.1 mem
  exact ⟨_, _, rfl, kind⟩

theorem Begins.mul (begins : Begins kinds L) (K : Language Leaf) : Begins kinds (L * K) := by
  intro sentence mem
  obtain ⟨front, frontMem, back, -, rfl⟩ := Language.mem_mul.1 mem
  obtain ⟨leaf, more, rfl, kind⟩ := begins front frontMem
  exact ⟨leaf, more ++ back, rfl, kind⟩

theorem Begins.mono {kinds' : TokenKind → Prop} (begins : Begins kinds L)
    (le : ∀ kind, kinds kind → kinds' kind) : Begins kinds' L := by
  intro sentence mem
  obtain ⟨leaf, more, eq, kind⟩ := begins sentence mem
  exact ⟨leaf, more, eq, le _ kind⟩

theorem Begins.add (first : Begins kinds L) (second : Begins kinds M) : Begins kinds (L + M) := by
  intro sentence mem
  rcases (Language.mem_add _ _ _).1 mem with mem | mem
  · exact first sentence mem
  · exact second sentence mem

theorem Begins.avoids {kinds' : TokenKind → Prop} (begins : Begins kinds L)
    (apart : ∀ kind, kinds kind → ¬ kinds' kind) : Avoids kinds' L := by
  intro leaf more mem
  obtain ⟨leaf', more', eq, kind⟩ := begins _ mem
  obtain ⟨rfl, -⟩ := List.cons.inj eq
  exact apart _ kind

theorem Begins.avoids_kind {kind : TokenKind} (begins : Begins kinds L) (other : ¬ kinds kind) :
    Avoids (· = kind) L := by
  apply begins.avoids
  intro found ofKind same
  exact other (same ▸ ofKind)

theorem avoids_symbol {kind other : TokenKind} (differs : other ≠ kind) (K : Language Leaf) :
    Avoids (· = other) (symbol kind * K) := by
  have begins : Begins (· = kind) (symbol kind * K) := begins_single _ none K
  exact begins.avoids_kind differs

theorem Avoids.add (first : Avoids kinds L) (second : Avoids kinds M) : Avoids kinds (L + M) := by
  intro leaf more mem
  rcases (Language.mem_add _ _ _).1 mem with mem | mem
  · exact first leaf more mem
  · exact second leaf more mem

theorem Begins.head?_ne (begins : Begins kinds L) (other : ¬ Next kinds rest) :
    ∀ sentence ∈ L, (tokensOf sentence).head? ≠ rest.head? := by
  intro sentence mem same
  obtain ⟨leaf, more, rfl, kind⟩ := begins sentence mem
  obtain ⟨tail, rfl⟩ := List.head?_eq_some_iff.1 same.symm
  exact other ⟨leaf.token, tail, rfl, kind⟩

theorem avoids_one (kinds : TokenKind → Prop) : Avoids kinds 1 := by
  intro leaf more mem
  cases (Language.mem_one _).1 mem

theorem Avoids.head?_ne (avoids : Avoids kinds L) (next : Next kinds rest) :
    ∀ sentence ∈ L, (tokensOf sentence).head? ≠ rest.head? := by
  obtain ⟨token, tail, rfl, kind⟩ := next
  intro sentence mem same
  cases sentence with
  | nil => cases same
  | cons leaf more =>
      obtain rfl : leaf.token = token := Option.some_inj.1 same
      exact avoids leaf more mem kind

theorem Leads.left (none : ∀ sentence ∈ M, (tokensOf sentence).head? ≠ rest.head?) :
    Leads (L + M) [] L rest := by
  refine .narrow (fun _ mem => Or.inl mem) fun sentence mem head => ?_
  rcases (Language.mem_add _ _ _).1 mem with mem | mem
  · exact mem
  · exact absurd head (none sentence mem)

theorem Leads.right (none : ∀ sentence ∈ L, (tokensOf sentence).head? ≠ rest.head?) :
    Leads (L + M) [] M rest := by
  rw [add_comm]
  exact .left none

/-! ## Where a parser stops -/

/-- The terms of a language start inside too many others. -/
def TooDeep (K : Language Leaf) : Prop :=
  ∀ sentence ∈ K, ∃ leaf more, sentence = leaf :: more ∧ leaf.around = some maxDepth

/-- No tokens read so far start a term inside too many others. -/
def Shallow (used : List Leaf) : Prop :=
  ∀ leaf ∈ used, leaf.around ≠ some maxDepth

theorem shallow_nil : Shallow [] := List.forall_mem_nil _

/-- The error is the one of `rest`, where a sentence of `K` is asked for. -/
inductive Refuses (eof : Token) (K : Language Leaf) (rest : List Token) (error : ParseError) :
    Prop where
  | unexpected (expected : Expected) (eq : error = .unexpected (Parser.peek eof rest) expected)
      (none : ∀ sentence ∈ K, (tokensOf sentence).head? ≠ rest.head?)
  | tooDeep (eq : error = .tooDeep (Parser.peek eof rest).span) (deep : TooDeep K)

/-- The error is the one of the place where `tokens` stop following `L`. -/
def Rejects (eof : Token) (L : Language Leaf) (tokens : List Token) (error : ParseError) : Prop :=
  ∃ used K rest, Shallow used ∧ tokens = tokensOf used ++ rest ∧ Leads L used K rest ∧
    Productive K ∧ Refuses eof K rest error

/-- A parser reads the beginning of a sentence of `L` and leaves the tokens where a sentence
of `K` is asked for, or stops where no sentence goes on. -/
def Follows (eof : Token) (L K : Language Leaf) (tokens : List Token) :
    Except ParseError (List Token) → Prop
  | .ok rest => ∃ used, Shallow used ∧ tokens = tokensOf used ++ rest ∧ Leads L used K rest
  | .error error => Rejects eof L tokens error

theorem follows_nothing (eof : Token) (K : Language Leaf) (tokens : List Token) :
    Follows eof K K tokens (.ok tokens) :=
  ⟨[], shallow_nil, rfl, .refl K tokens⟩

/-- What follows after some tokens were read follows from the start. -/
theorem Rejects.after {error : ParseError} (shallow : Shallow used)
    (split : tokens = tokensOf used ++ rest) (leads : Leads L used M rest)
    (rejects : Rejects eof M rest error) : Rejects eof L tokens error := by
  obtain ⟨used', K, rest', shallow', rfl, leads', viable, refuses⟩ := rejects
  refine ⟨used ++ used', K, rest', ?_, ?_, leads.trans leads', viable, refuses⟩
  · exact List.forall_mem_append.2 ⟨shallow, shallow'⟩
  · rw [split, tokensOf_append, List.append_assoc]

theorem Follows.after {result : Except ParseError (List Token)} (shallow : Shallow used)
    (split : tokens = tokensOf used ++ rest) (leads : Leads L used M rest)
    (follows : Follows eof M K rest result) : Follows eof L K tokens result := by
  cases result with
  | error error => exact Rejects.after shallow split leads follows
  | ok rest' =>
      obtain ⟨used', shallow', rfl, leads'⟩ := follows
      refine ⟨used ++ used', List.forall_mem_append.2 ⟨shallow, shallow'⟩, ?_,
        leads.trans leads'⟩
      rw [split, tokensOf_append, List.append_assoc]

theorem Follows.narrow {result : Except ParseError (List Token)} (leads : Leads L [] M tokens)
    (follows : Follows eof M K tokens result) : Follows eof L K tokens result :=
  follows.after shallow_nil rfl leads

end Grammar

end LiveCheck
