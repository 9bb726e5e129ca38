import LiveCheck.Proofs.Language.Readers
import LiveCheck.Proofs.Language.Viable

/-!
Every parser follows the sentences of its phrase.

A parser is called where the grammar asks for its phrase and then for something else, of which
there is some sentence. It reads a sentence of the phrase, or it stops where no sentence goes on
or where a term would start too deep (`Walks`). The cases are those of the productions: each
choice of a parser leaves the sentences that start like the tokens it sees.
-/

namespace LiveCheck

namespace Parser

open Grammar

variable {α β : Type} {eof : Token} {L M K : Language Leaf} {tokens : List Token}

/-- What is left after a parser, whatever it reads. -/
def rests (result : Except ParseError (Read α tokens)) : Except ParseError (List Token) :=
  result.map Read.rest

/-- A parser follows the sentences of `L` up to where those of `K` start. -/
def Walks (eof : Token) (reader : Reader α) (L K : Language Leaf) : Prop :=
  ∀ tokens, Follows eof L K tokens (rests (reader tokens))

/-! ## Steps -/

theorem Walks.bind {reader : Reader α} (walks : Walks eof reader L M) {tokens' : List Token}
    {next : Read α tokens → Except ParseError (Read β tokens')}
    (goesOn : ∀ read : Read α tokens, reader tokens = .ok read →
      Follows eof M K read.rest (rests (next read))) :
    Follows eof L K tokens (rests (reader tokens >>= next)) := by
  have follows := walks tokens
  cases eq : reader tokens with
  | error error =>
      rw [eq] at follows
      exact follows
  | ok read =>
      rw [eq] at follows
      obtain ⟨used, shallow, split, leads⟩ := follows
      exact (goesOn read eq).after shallow split leads

/-- A parser of one token. -/
structure ReadsOne (eof : Token) (reader : Reader α) (kinds : TokenKind → Prop) : Prop where
  accepts : ∀ token rest, kinds token.kind → rests (reader (token :: rest)) = .ok rest
  refuses : ∀ tokens, ¬ Next kinds tokens →
    ∃ expected, rests (reader tokens) = .error (.unexpected (peek eof tokens) expected)

theorem ReadsOne.walks {reader : Reader α} {kinds : TokenKind → Prop}
    (readsOne : ReadsOne eof reader kinds) (inhabited : ∃ kind, kinds kind)
    {around : Option Nat} (shallow : around ≠ some maxDepth) (productive : Productive K) :
    Walks eof reader (single kinds around * K) K := by
  intro tokens
  by_cases next : Next kinds tokens
  · obtain ⟨token, rest, rfl, kind⟩ := next
    rw [readsOne.accepts token rest kind]
    exact ⟨[⟨token, around⟩], List.forall_mem_singleton.2 shallow, rfl, .single kind K rest⟩
  · obtain ⟨expected, eq⟩ := readsOne.refuses tokens next
    obtain ⟨kind, ofKind⟩ := inhabited
    have viable := (productive_single ofKind around).mul productive
    have none := (begins_single kinds around K).head?_ne next
    rw [eq]
    exact ⟨[], _, tokens, shallow_nil, rfl, .refl _ tokens, viable, .unexpected expected rfl none⟩

theorem readsOne_ident : ReadsOne eof (ident eof) IsName where
  accepts token rest kind := by
    obtain ⟨kind, span⟩ := token
    obtain ⟨name, rfl⟩ := kind
    rfl
  refuses tokens other := by
    refine ⟨.identifier, ?_⟩
    unfold ident
    split
    · next name span rest => exact absurd ⟨_, rest, rfl, name, rfl⟩ other
    · rfl

theorem readsOne_symbol (kind : TokenKind) : ReadsOne eof (symbol eof kind) (· = kind) where
  accepts token rest same := by
    obtain ⟨found, span⟩ := token
    obtain rfl : found = kind := same
    rw [symbol_cons]
    rfl
  refuses tokens other := by
    refine ⟨.symbol kind, ?_⟩
    cases tokens with
    | nil => rfl
    | cons token rest =>
        obtain ⟨found, span⟩ := token
        have differs : found ≠ kind := fun same => other ⟨_, rest, rfl, same⟩
        rw [symbol_of_ne differs]
        rfl

theorem walks_ident (productive : Productive K) : Walks eof (ident eof) (word * K) K :=
  readsOne_ident.walks ⟨_, "", rfl⟩ nofun productive

theorem walks_symbol (kind : TokenKind) (productive : Productive K) :
    Walks eof (symbol eof kind) (Grammar.symbol kind * K) K :=
  (readsOne_symbol kind).walks ⟨kind, rfl⟩ nofun productive

theorem next_of_startsWith {kind : TokenKind} (starts : startsWith kind tokens = true) :
    Next (· = kind) tokens := by
  obtain ⟨span, rest, rfl⟩ := startsWith_eq_true.1 starts
  exact ⟨_, rest, rfl, rfl⟩

theorem not_next_of_startsWith {kind : TokenKind} (starts : ¬ startsWith kind tokens = true) :
    ¬ Next (· = kind) tokens := by
  intro next
  obtain ⟨⟨found, span⟩, rest, rfl, rfl⟩ := next
  exact starts (startsWith_eq_true.2 ⟨span, rest, rfl⟩)

/-! ## Lists -/

section Lists

variable {τ : Type} {yield : τ → List Leaf} {item : Reader α} {closing : TokenKind}

/-- What is asked for after an item of a list. -/
def onward (closing : TokenKind) (yield : τ → List Leaf) (K : Language Leaf) : Language Leaf :=
  Grammar.symbol closing * K + Grammar.symbol .comma * (closed closing yield * K)

theorem closed_mul (closing : TokenKind) (yield : τ → List Leaf) (K : Language Leaf) :
    closed closing yield * K =
      Grammar.symbol closing * K + phrases yield * onward closing yield K := by
  nth_rewrite 1 [closed_eq]
  rw [add_mul, mul_assoc, add_mul, mul_assoc, onward]

theorem productive_onward (productive : Productive K) : Productive (onward closing yield K) :=
  ((productive_symbol closing).mul productive).add _

theorem avoids_onward (closes : closing.isClosing = true) :
    Avoids (· = .leftParen) (onward closing yield K) := by
  have notClosing : TokenKind.leftParen ≠ closing := by
    intro same
    rw [← same] at closes
    cases closes
  exact (avoids_symbol notClosing K).add (avoids_symbol (by decide) _)

/-- A closing bracket ends the list, since no item starts with one. -/
theorem leads_close (closes : closing.isClosing = true)
    (words : Begins (·.isWord = true) (phrases yield)) (starts : Next (· = closing) tokens) :
    Leads (closed closing yield * K) [] (Grammar.symbol closing * K) tokens := by
  have noWord : ¬ closing.isWord = true := by
    rw [TokenKind.isWord_of_isClosing closes]
    exact Bool.false_ne_true
  rw [closed_mul]
  exact .left (((words.mul _).avoids_kind noWord).head?_ne starts)

theorem leads_item (goesOn : ¬ Next (· = closing) tokens) :
    Leads (closed closing yield * K) [] (phrases yield * onward closing yield K) tokens := by
  rw [closed_mul]
  exact .right ((begins_single _ _ _).head?_ne goesOn)

theorem leads_comma (closes : closing.isClosing = true) (next : Next (· = .comma) tokens) :
    Leads (onward closing yield K) [] (Grammar.symbol .comma * (closed closing yield * K))
      tokens := by
  have notClosing : TokenKind.comma ≠ closing := by
    intro same
    rw [← same] at closes
    cases closes
  exact .right ((avoids_symbol notClosing K).head?_ne next)

theorem leads_last (last : ¬ Next (· = .comma) tokens) :
    Leads (onward closing yield K) [] (Grammar.symbol closing * K) tokens :=
  .left ((begins_single _ _ _).head?_ne last)

theorem walks_listUntil (closes : closing.isClosing = true)
    (words : Begins (·.isWord = true) (phrases yield))
    (walks : ∀ K, Productive K → Avoids (· = .leftParen) K →
      Walks eof item (phrases yield * K) K) (productive : Productive K) :
    Walks eof (listUntil eof closing item) (closed closing yield * K) K := by
  intro tokens
  have close : Walks eof (symbol eof closing) (Grammar.symbol closing * K) K :=
    walks_symbol closing productive
  -- By induction on the number of tokens; a comma leaves fewer of them.
  induction length : tokens.length using Nat.strongRecOn generalizing tokens with
  | ind size ih =>
      rw [listUntil]
      split
      case isTrue starts =>
        refine .narrow (leads_close closes words (next_of_startsWith starts)) ?_
        have follows := close tokens
        cases eq : symbol eof closing tokens with
        | error error => rw [eq] at follows; exact follows
        | ok last => rw [eq] at follows; exact follows
      case isFalse goesOn =>
        refine .narrow (leads_item (not_next_of_startsWith goesOn)) ?_
        have follows := walks (onward closing yield K) (productive_onward productive)
          (avoids_onward closes) tokens
        cases eq : item tokens with
        | error error => rw [eq] at follows; exact follows
        | ok first =>
            rw [eq] at follows
            obtain ⟨used, shallow, split, leads⟩ := follows
            refine .after shallow split leads ?_
            dsimp only
            cases eqComma : symbol eof .comma first.rest with
            | ok comma =>
                have next : Next (· = .comma) first.rest :=
                  ⟨_, _, reads_symbol.1 (reads_of_eq eqComma), rfl⟩
                have fewer : comma.rest.length < size :=
                  length ▸ Nat.lt_trans comma.shorter first.shorter
                have walksComma : Walks eof (symbol eof .comma)
                    (Grammar.symbol .comma * (closed closing yield * K))
                    (closed closing yield * K) :=
                  walks_symbol .comma ((productive_closed closing yield).mul productive)
                have followsComma := walksComma first.rest
                rw [eqComma] at followsComma
                obtain ⟨used', shallow', split', leads'⟩ := followsComma
                refine .narrow (leads_comma closes next) (.after shallow' split' leads' ?_)
                have follows := ih comma.rest.length fewer comma.rest rfl
                dsimp only
                cases eqMore : listUntil eof closing item comma.rest with
                | error error => rw [eqMore] at follows; exact follows
                | ok more => rw [eqMore] at follows; exact follows
            | error error =>
                have last : ¬ Next (· = .comma) first.rest := by
                  intro next
                  obtain ⟨⟨_, span⟩, rest, split, rfl⟩ := next
                  rw [split, symbol_cons] at eqComma
                  cases eqComma
                refine .narrow (leads_last last) ?_
                have follows := close first.rest
                dsimp only
                cases eqLast : symbol eof closing first.rest with
                | error error => rw [eqLast] at follows; exact follows
                | ok last => rw [eqLast] at follows; exact follows

end Lists

/-! ## Parameters and heads -/

theorem begins_labelled {τ : Type} (yield : τ → List Leaf) :
    Begins IsName (phrases (Labelled.leaves yield)) := by
  rw [phrases_labelled]
  exact begins_single IsName none _

theorem begins_head : Begins IsName (phrases Head.leaves) := by
  rw [phrases_head]
  exact begins_single IsName none _

theorem isWord_of_isName (kind : TokenKind) (name : IsName kind) : kind.isWord = true := by
  obtain ⟨name, rfl⟩ := name
  rfl

theorem walks_param (productive : Productive K) :
    Walks eof (param eof)
      (phrases (Labelled.leaves fun type : Ident => [.plain type.token]) * K) K := by
  intro tokens
  have afterColon : Productive (word * K) := productive_word.mul productive
  have afterName := (productive_symbol .colon).mul afterColon
  rw [phrases_labelled, phrases_ident, mul_assoc, mul_assoc]
  refine (walks_ident afterName).bind fun name _ => ?_
  refine (walks_symbol .colon afterColon).bind fun colon _ => ?_
  refine (walks_ident productive).bind fun type _ => ?_
  exact follows_nothing eof K type.rest

section Optional

variable {τ : Type} {yield : τ → List Leaf}

theorem productive_optional (L : Language Leaf) (productive : Productive K) :
    Productive ((1 + L) * K) :=
  (productive_one.add L).mul productive

/-- A parenthesis belongs to the phrase before it, since nothing else starts with one. -/
theorem leads_optional (avoids : Avoids (· = .leftParen) K) (next : Next (· = .leftParen) tokens) :
    Leads ((1 + enclosed .leftParen .rightParen yield) * K) []
      (Grammar.symbol .leftParen * (closed .rightParen yield * K)) tokens := by
  rw [add_mul, one_mul, enclosed, mul_assoc]
  exact .right (avoids.head?_ne next)

theorem leads_without (ends : ¬ Next (· = .leftParen) tokens) :
    Leads ((1 + enclosed .leftParen .rightParen yield) * K) [] K tokens := by
  rw [add_mul, one_mul, enclosed, mul_assoc]
  exact .left ((begins_single _ _ _).head?_ne ends)

end Optional

theorem walks_head (productive : Productive K) (avoids : Avoids (· = .leftParen) K) :
    Walks eof (head eof) (phrases Head.leaves * K) K := by
  intro tokens
  rw [phrases_head, mul_assoc]
  refine (walks_ident (productive_optional _ productive)).bind fun name _ => ?_
  split
  case isTrue starts =>
    have list : Walks eof (listUntil eof .rightParen (param eof)) _ K :=
      walks_listUntil rfl ((begins_labelled _).mono isWord_of_isName)
        (fun _ productive _ => walks_param productive) productive
    refine .narrow (leads_optional avoids (next_of_startsWith starts)) ?_
    refine (walks_symbol .leftParen ((productive_closed _ _).mul productive)).bind
      fun opened _ => ?_
    refine list.bind fun params _ => ?_
    exact follows_nothing eof K params.rest
  case isFalse ends =>
    exact .narrow (leads_without (not_next_of_startsWith ends))
      (follows_nothing eof K name.rest)

/-! ## Terms -/

theorem begins_tree (around : Nat) :
    Begins (·.isWord = true) (phrases (Tree.leaves · around)) := by
  rw [phrases_tree]
  refine .add ((begins_single _ _ _).mono isWord_of_isName) ((begins_single _ _ _).mono ?_)
  rintro kind rfl
  rfl

theorem productive_tree (around : Nat) : Productive (phrases (Tree.leaves · around)) :=
  ⟨_, .node (.ref default), rfl⟩

theorem tooDeep_tree (K : Language Leaf) :
    TooDeep (phrases (Tree.leaves · maxDepth) * K) := by
  intro sentence mem
  obtain ⟨⟨node⟩, tail, -, rfl⟩ := mem_phrases_mul.1 mem
  rw [Tree.leaves_node]
  cases node <;> exact ⟨_, _, rfl, rfl⟩

theorem Walks.branch {body : Reader Term} {L : Language Leaf} (walks : Walks eof body (L * K) K)
    (productive : Productive (L * K)) :
    Walks eof (branch eof body) (word * (Grammar.symbol .colon * L) * K) K := by
  intro tokens
  rw [mul_assoc, mul_assoc]
  refine (walks_ident ((productive_symbol .colon).mul productive)).bind fun ctor _ => ?_
  refine (walks_symbol .colon productive).bind fun colon _ => ?_
  refine walks.bind fun term _ => ?_
  exact follows_nothing eof K term.rest

section Level

variable {depth around : Nat} (shallow : some around ≠ some maxDepth)
  (below : ∀ K, Productive K → Avoids (· = .leftParen) K →
    Walks eof (term eof depth) (phrases (Tree.leaves · (around + 1)) * K) K)
  (productive : Productive K)

include shallow below productive

theorem follows_case (starts : startsWith .caseKeyword tokens = true) :
    Follows eof (single (· = .caseKeyword) around * (word * enclosed .leftBrace .rightBrace
      (Labelled.leaves (Tree.leaves · (around + 1))) * K)) K tokens
      (rests (term eof (depth + 1) tokens)) := by
  have arms : Walks eof (listUntil eof .rightBrace (Parser.branch eof (term eof depth)))
      (closed .rightBrace (Labelled.leaves (Tree.leaves · (around + 1))) * K) K := by
    refine walks_listUntil rfl ((begins_labelled _).mono isWord_of_isName) ?_ productive
    intro K productive avoids
    rw [phrases_labelled]
    exact (below K productive avoids).branch ((productive_tree _).mul productive)
  have afterOpened := (productive_closed .rightBrace
    (Labelled.leaves (Tree.leaves · (around + 1)))).mul productive
  have afterScrutinee := (productive_symbol .leftBrace).mul afterOpened
  have afterKeyword := productive_word.mul afterScrutinee
  rw [enclosed, mul_assoc, mul_assoc, term]
  beta_reduce
  rw [if_pos starts]
  refine ((readsOne_symbol .caseKeyword).walks ⟨_, rfl⟩ shallow afterKeyword).bind
    fun keyword _ => ?_
  refine (walks_ident afterScrutinee).bind fun scrutinee _ => ?_
  refine (walks_symbol .leftBrace afterOpened).bind fun opened _ => ?_
  refine arms.bind fun branches _ => ?_
  exact follows_nothing eof K branches.rest

theorem follows_name (avoids : Avoids (· = .leftParen) K)
    (starts : ¬ startsWith .caseKeyword tokens = true) :
    Follows eof (single IsName around *
      ((1 + enclosed .leftParen .rightParen (Tree.leaves · (around + 1))) * K)) K tokens
      (rests (term eof (depth + 1) tokens)) := by
  have args : Walks eof (listUntil eof .rightParen (term eof depth))
      (closed .rightParen (Tree.leaves · (around + 1)) * K) K :=
    walks_listUntil rfl (begins_tree _) below productive
  have afterOpened := (productive_closed .rightParen
    (Tree.leaves · (around + 1))).mul productive
  rw [term]
  beta_reduce
  rw [if_neg starts]
  refine (readsOne_ident.walks ⟨_, "", rfl⟩ shallow (productive_optional _ productive)).bind
    fun func _ => ?_
  split
  case isTrue opens =>
    refine .narrow (leads_optional avoids (next_of_startsWith opens)) ?_
    refine (walks_symbol .leftParen afterOpened).bind fun opened _ => ?_
    refine args.bind fun args _ => ?_
    exact follows_nothing eof K args.rest
  case isFalse ends =>
    exact .narrow (leads_without (not_next_of_startsWith ends))
      (follows_nothing eof K func.rest)

end Level

/-- A term inside `around` others may nest as deep as `maxDepth` leaves room for. -/
theorem walks_term {depth around : Nat} (room : around + depth = maxDepth)
    (productive : Productive K) (avoids : Avoids (· = .leftParen) K) :
    Walks eof (term eof depth) (phrases (Tree.leaves · around) * K) K := by
  induction depth generalizing around K with
  | zero =>
      intro tokens
      obtain rfl : around = maxDepth := room
      exact ⟨[], _, tokens, shallow_nil, rfl, .refl _ tokens,
        (productive_tree maxDepth).mul productive, .tooDeep rfl (tooDeep_tree K)⟩
  | succ depth ih =>
      intro tokens
      have shallow : some around ≠ some maxDepth := by
        intro eq
        cases eq
        omega
      have room' : (around + 1) + depth = maxDepth := by omega
      rw [phrases_tree, add_mul, mul_assoc, mul_assoc]
      by_cases starts : startsWith .caseKeyword tokens = true
      · have next := next_of_startsWith starts
        have noName : ¬ IsName .caseKeyword := nofun
        exact .narrow (.right (((begins_single _ _ _).avoids_kind noName).head?_ne next))
          (follows_case shallow (fun K => ih room') productive starts)
      · have other := not_next_of_startsWith starts
        exact .narrow (.left ((begins_single _ _ _).head?_ne other))
          (follows_name shallow (fun K => ih room') productive avoids starts)

/-! ## Items -/

theorem walks_typeItem (source : Source) (productive : Productive K) :
    Walks eof (typeItem eof source)
      (Grammar.symbol .typeKeyword *
        (word * enclosed .leftBrace .rightBrace Head.leaves) * K) K := by
  intro tokens
  have ctors : Walks eof (listUntil eof .rightBrace (head eof))
      (closed .rightBrace Head.leaves * K) K :=
    walks_listUntil rfl (begins_head.mono isWord_of_isName) (fun _ => walks_head) productive
  have afterOpened := (productive_closed .rightBrace Head.leaves).mul productive
  have afterName := (productive_symbol .leftBrace).mul afterOpened
  rw [enclosed, mul_assoc, mul_assoc, mul_assoc]
  refine (walks_symbol .typeKeyword (productive_word.mul afterName)).bind fun keyword _ => ?_
  refine (walks_ident afterName).bind fun name _ => ?_
  refine (walks_symbol .leftBrace afterOpened).bind fun opened _ => ?_
  refine ctors.bind fun ctors _ => ?_
  exact follows_nothing eof K ctors.rest

theorem walks_funcItem (source : Source) (productive : Productive K)
    (avoids : Avoids (· = .leftParen) K) :
    Walks eof (funcItem eof source)
      (phrases Head.leaves *
        (Grammar.symbol .colon * (word * phrases (Tree.leaves · 0))) * K) K := by
  intro tokens
  have afterRet := (productive_tree 0).mul productive
  have afterColon := productive_word.mul afterRet
  have afterHead := (productive_symbol .colon).mul afterColon
  rw [mul_assoc, mul_assoc, mul_assoc]
  refine (walks_head afterHead (avoids_symbol (by decide) _)).bind fun head _ => ?_
  refine (walks_symbol .colon afterColon).bind fun colon _ => ?_
  refine (walks_ident afterRet).bind fun ret _ => ?_
  refine (walks_term (Nat.zero_add maxDepth) productive avoids).bind fun body _ => ?_
  exact follows_nothing eof K body.rest

/-- The kinds of tokens that an item starts with. -/
def StartsItem (kind : TokenKind) : Prop := kind = .typeKeyword ∨ IsName kind

theorem begins_item : Begins StartsItem (phrases Item.leaves) := by
  rw [phrases_item]
  refine .add ((begins_single _ _ _).mono ?_) ((begins_head.mul _).mono ?_)
  · exact fun kind same => Or.inl same
  · exact fun kind name => Or.inr name

theorem next_of_peek (final : eof.kind = .endOfFile) {kinds : TokenKind → Prop}
    (kind : kinds (peek eof tokens).kind) (other : ¬ kinds .endOfFile) : Next kinds tokens := by
  cases tokens with
  | nil =>
      rw [← final] at other
      exact absurd kind other
  | cons token rest => exact ⟨token, rest, rfl, kind⟩

theorem productive_item : Productive (phrases Item.leaves) :=
  ⟨_, .type default default ⟨default, .none, default⟩, rfl⟩

theorem walks_item (final : eof.kind = .endOfFile) (source : Source) (productive : Productive K)
    (avoids : Avoids (· = .leftParen) K) :
    Walks eof (item eof source) (phrases Item.leaves * K) K := by
  intro tokens
  unfold item
  split
  case h_1 keyword =>
    have next : Next (· = .typeKeyword) tokens := next_of_peek final keyword nofun
    have noName : ¬ IsName .typeKeyword := nofun
    rw [phrases_item, add_mul]
    exact .narrow (.left (((begins_head.mul _).mul K).avoids_kind noName |>.head?_ne next))
      (walks_typeItem source productive tokens)
  case h_2 name found =>
    have next : Next IsName tokens := next_of_peek final ⟨name, found⟩ nofun
    have apart : ∀ kind, kind = .typeKeyword → ¬ IsName kind := by
      rintro kind rfl ⟨name, eq⟩
      cases eq
    rw [phrases_item, add_mul]
    exact .narrow (.right (((begins_single _ _ _).mul K).avoids apart |>.head?_ne next))
      (walks_funcItem source productive avoids tokens)
  case h_3 noKeyword noName =>
    have other : ¬ Next StartsItem tokens := by
      rintro ⟨token, rest, rfl, keyword | ⟨name, found⟩⟩
      · exact noKeyword keyword
      · exact noName name found
    exact ⟨[], _, tokens, shallow_nil, rfl, .refl _ tokens, productive_item.mul productive,
      .unexpected .definition rfl ((begins_item.mul K).head?_ne other)⟩

end Parser

end LiveCheck
