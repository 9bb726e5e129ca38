import LiveCheck.Proofs.Language.Places
import LiveCheck.Proofs.Language.Walks

/-!
A parse error stands at the earliest possible place.

The parser of a file follows the sentences of the grammar, and it compares names only once an
item is read to its end. So the tokens before an error can be completed to a file, and the next
one cannot; or a term would start there too deep, which it does nowhere before; or the items up
to there are grammatical, and the error is the first name that comes up twice (`Earliest`).
-/

namespace LiveCheck

open Grammar

/-! ## The earliest place -/

/-- Some file starts with these tokens. -/
def Viable (tokens : List Token) : Prop := ∃ file : File, tokens <+: file.tokens

/-- After the tokens `before` a term would start inside `around` others: in some file it does,
and in every file that goes on with the same token as `rest`. -/
structure TermDue (around : Nat) (before rest : List Token) : Prop where
  possible : ∃ (file : File) (front : List Leaf) (leaf : Leaf) (back : List Leaf),
    file.leaves = front ++ leaf :: back ∧ tokensOf front = before ∧ leaf.around = some around
  forced : ∀ (file : File) (front : List Leaf) (leaf : Leaf) (back : List Leaf),
    file.leaves = front ++ leaf :: back → tokensOf front = before →
    rest.head? = some leaf.token → leaf.around = some around

/-- The tokens of the text before this one start a file, but not those up to it. -/
def StopsAt (text : String) (token : Token) : Prop :=
  ∃ before rest, lexemes text = before ++ token :: rest ∧ Viable before ∧
    ¬ Viable (before ++ [token])

/-- The place of an error is the earliest one there is. -/
def Earliest (uri text : String) : ParseError → Prop
  | .unexpectedToken span found _ => StopsAt text ⟨found, span⟩
  | .invalidCharacter span => StopsAt text ⟨.invalid, span⟩
  | .unexpectedEnd span _ =>
    span = (endToken text).span ∧ Viable (lexemes text) ∧
      ∀ file : File, file.tokens ≠ lexemes text
  | .tooDeep span =>
    ∃ before rest, lexemes text = before ++ rest ∧
      span = (Parser.peek (endToken text) rest).span ∧ TermDue 256 before rest ∧
      ∀ earlier later, lexemes text = earlier ++ later → earlier.length < before.length →
        ¬ TermDue 256 earlier later
  | .duplicate span name =>
    ∃ (earlier : File) (own : Item) (rest : List Token) (before after : List Def)
        (definition : Def),
      lexemes text = earlier.tokens ++ own.tokens ++ rest ∧
      own.definitions uri text = before ++ definition :: after ∧
      span = definition.origin ∧ name = definition.name ∧
      ((earlier.definitions uri text ++ before).map Def.name).Nodup ∧
      name ∈ (earlier.definitions uri text ++ before).map Def.name

/-! ## Files -/

namespace Parser

variable {eof : Token} {source : Source} {seen : List String} {tokens : List Token}
  {error : ParseError}

theorem avoids_file : Avoids (· = .leftParen) (phrases File.leaves) := by
  have noItem : ¬ StartsItem .leftParen := nofun
  rw [phrases_file]
  exact (avoids_one _).add ((begins_item.mul _).avoids_kind noItem)

theorem productive_file : Productive (phrases File.leaves) := ⟨_, [], rfl⟩

theorem leads_file (nonempty : tokens ≠ []) :
    Leads (phrases File.leaves) [] (phrases Item.leaves * phrases File.leaves) tokens := by
  nth_rewrite 1 [phrases_file]
  refine .right fun sentence mem same => nonempty ?_
  rw [(Language.mem_one _).1 mem] at same
  exact List.head?_eq_none_iff.1 same.symm

/-- A name that comes up again is that of the first definition which was seen before. -/
theorem declare_eq_error (fresh : seen.Nodup) {defs : List Def}
    (eq : declare seen defs = .error error) :
    ∃ before definition after, defs = before ++ definition :: after ∧
      error = .duplicate definition.origin definition.name ∧
      ((before.map Def.name).reverse ++ seen).Nodup ∧
      definition.name ∈ (before.map Def.name).reverse ++ seen := by
  induction defs generalizing seen with
  | nil => cases eq
  | cons first rest ih =>
      rw [declare] at eq
      split at eq
      case isTrue mem =>
        cases eq
        exact ⟨[], first, rest, rfl, rfl, fresh, mem⟩
      case isFalse notMem =>
        obtain ⟨before, definition, after, rfl, rfl, nodup, mem⟩ :=
          ih (List.nodup_cons.2 ⟨notMem, fresh⟩) eq
        refine ⟨first :: before, definition, after, rfl, rfl, ?_, ?_⟩
        · rw [List.map_cons, List.reverse_cons, List.append_assoc]
          exact nodup
        · rw [List.map_cons, List.reverse_cons, List.append_assoc]
          exact mem

/-- After some items, one defines a name that was seen before. -/
def Repeats (source : Source) (seen : List String) (tokens : List Token)
    (error : ParseError) : Prop :=
  ∃ (earlier : File) (own : Item) (rest : List Token) (before after : List Def)
      (definition : Def),
    tokens = earlier.tokens ++ own.tokens ++ rest ∧
    own.definitions source.uri source.text = before ++ definition :: after ∧
    error = .duplicate definition.origin definition.name ∧
    (((earlier.definitions source.uri source.text ++ before).map Def.name).reverse ++
      seen).Nodup ∧
    definition.name ∈
      ((earlier.definitions source.uri source.text ++ before).map Def.name).reverse ++ seen

/-- An item may stand before. -/
theorem Repeats.prepend {own : Item} {rest : List Token}
    (repeats : Repeats source
      (((own.definitions source.uri source.text).map Def.name).reverse ++ seen) rest error)
    (split : tokens = own.tokens ++ rest) : Repeats source seen tokens error := by
  obtain ⟨earlier, last, rest, before, after, definition, rfl, parts, eq, nodup, mem⟩ := repeats
  refine ⟨own :: earlier, last, rest, before, after, definition, ?_, parts, eq, ?_, ?_⟩
  · rw [split, File.tokens, File.tokens, List.flatMap_cons]
    simp only [List.append_assoc]
  · simpa [File.definitions] using nodup
  · simpa [File.definitions] using mem

theorem items_error (final : eof.kind = .endOfFile) (fresh : seen.Nodup)
    (eq : items eof source seen tokens = .error error) :
    Rejects eof (phrases File.leaves) tokens error ∨ Repeats source seen tokens error := by
  -- By induction on the number of tokens; an item leaves fewer of them.
  induction length : tokens.length using Nat.strongRecOn generalizing tokens seen with
  | ind size ih =>
      have nonempty : tokens ≠ [] := by
        rintro rfl
        rw [items_nil] at eq
        cases eq
      have follows := walks_item final source productive_file avoids_file tokens
      rw [items, if_neg (by simpa using nonempty)] at eq
      cases readFirst : item eof source tokens with
      | error error' =>
          rw [readFirst] at eq follows
          cases eq
          exact Or.inl (Rejects.after shallow_nil rfl (leads_file nonempty) follows)
      | ok first =>
          rw [readFirst] at eq follows
          dsimp only at eq
          obtain ⟨used, shallow, split, leads⟩ := follows
          obtain ⟨own, -, denotes, tokens_eq⟩ :=
            (recognizes_item source).sound (reads_of_eq readFirst)
          cases declared : declare seen first.value with
          | error error' =>
              rw [declared] at eq
              cases eq
              obtain ⟨before, definition, after, parts, rfl, nodup, mem⟩ :=
                declare_eq_error fresh declared
              exact Or.inr ⟨[], own, first.rest, before, after, definition, tokens_eq,
                denotes.symm.trans parts, rfl, nodup, mem⟩
          | ok seen' =>
              rw [declared] at eq
              dsimp only at eq
              cases readRest : items eof source seen' first.rest with
              | ok others =>
                  rw [readRest] at eq
                  cases eq
              | error error' =>
                  rw [readRest] at eq
                  cases eq
                  obtain ⟨rfl, fresh'⟩ := (declare_eq_ok fresh).1 declared
                  have fewer : first.rest.length < size := length ▸ first.shorter
                  rcases ih _ fewer fresh' readRest rfl with rejects | repeats
                  · exact Or.inl (Rejects.after shallow_nil rfl (leads_file nonempty)
                      (Rejects.after shallow split leads rejects))
                  · rw [denotes] at repeats
                    exact Or.inr (repeats.prepend tokens_eq)

end Parser

/-! ## Places of errors -/

section Places

variable {eof : Token} {K : Language Leaf} {used : List Leaf} {rest tokens : List Token}
  {text : String}

/-- Tokens that lead to where something may go on start a file. -/
theorem viable_of_leads (leads : Leads (phrases File.leaves) used K rest)
    (productive : Productive K) : Viable (tokensOf used) := by
  obtain ⟨sentence, mem⟩ := productive
  obtain ⟨file, leaves⟩ := leads.complete sentence mem
  refine ⟨file, tokensOf sentence, ?_⟩
  rw [← tokensOf_append, ← leaves, tokensOf, File.map_token_leaves]

/-- A file with these tokens goes on as the language does that they lead to. -/
theorem head?_ne_of_leads (leads : Leads (phrases File.leaves) used K rest)
    (none : ∀ sentence ∈ K, (tokensOf sentence).head? ≠ rest.head?) (file : File)
    {more : List Token} (split : tokensOf used ++ more = file.tokens) :
    more.head? ≠ rest.head? := by
  intro same
  have tokens : tokensOf file.leaves = tokensOf used ++ more := by
    rw [split, tokensOf, File.map_token_leaves]
  obtain ⟨tail, mem, eq⟩ := leads.forced file.leaves ⟨file, rfl⟩ more tokens same
  rw [eq, tokensOf_append] at tokens
  rw [← List.append_cancel_left tokens] at same
  exact none tail mem same

theorem not_viable_of_leads {token : Token}
    (leads : Leads (phrases File.leaves) used K (token :: rest))
    (none : ∀ sentence ∈ K, (tokensOf sentence).head? ≠ (token :: rest).head?) :
    ¬ Viable (tokensOf used ++ [token]) := by
  intro viable
  obtain ⟨file, more, split⟩ := viable
  rw [List.append_assoc] at split
  exact head?_ne_of_leads leads none file split rfl

theorem kind_ne_endOfFile {token : Token} (mem : token ∈ lexemes text) :
    token.kind ≠ .endOfFile := by
  obtain ⟨before, chars, after, -, lexeme, -⟩ :=
    (divides 0 text.toList).lossless.lexeme token mem
  intro same
  rw [same] at lexeme
  cases lexeme with
  | word start parts longest kinds => cases kinds
  | punctuation rest kinds => cases kinds

/-- Where the parser asks for what none of the next tokens starts, it is at the earliest
place. -/
theorem earliest_unexpected (uri : String) (expected : Expected)
    (split : lexemes text = tokensOf used ++ rest)
    (leads : Leads (phrases File.leaves) used K rest) (productive : Productive K)
    (none : ∀ sentence ∈ K, (tokensOf sentence).head? ≠ rest.head?) :
    Earliest uri text (.unexpected (Parser.peek (endToken text) rest) expected) := by
  have viable := viable_of_leads leads productive
  cases rest with
  | nil =>
      refine ⟨rfl, ?_, fun file same => ?_⟩
      · rw [split, List.append_nil]
        exact viable
      · exact head?_ne_of_leads leads none file (split.symm.trans same.symm) rfl
  | cons token rest =>
      have stops : StopsAt text token :=
        ⟨tokensOf used, rest, split, viable, not_viable_of_leads leads none⟩
      have mem : token ∈ lexemes text := by
        rw [split]
        exact List.mem_append_right _ List.mem_cons_self
      have noEnd := kind_ne_endOfFile mem
      obtain ⟨kind, span⟩ := token
      cases kind with
      | endOfFile => exact absurd rfl noEnd
      | _ => exact stops

/-- Where the next term would be too deep, a term would start after the tokens so far. -/
theorem termDue_of_leads (leads : Leads (phrases File.leaves) used K rest)
    (productive : Productive K) (deep : TooDeep K) : TermDue 256 (tokensOf used) rest where
  possible := by
    obtain ⟨sentence, mem⟩ := productive
    obtain ⟨file, leaves⟩ := leads.complete sentence mem
    obtain ⟨leaf, back, rfl, around⟩ := deep sentence mem
    exact ⟨file, used, leaf, back, leaves, rfl, around⟩
  forced file front leaf back leaves before next := by
    have tokens : tokensOf file.leaves = tokensOf used ++ tokensOf (leaf :: back) := by
      rw [leaves, tokensOf_append, before]
    obtain ⟨tail, mem, eq⟩ := leads.forced file.leaves ⟨file, rfl⟩ _ tokens next.symm
    obtain ⟨leaf', back', rfl, around⟩ := deep tail mem
    have sameLength : front.length = used.length := by
      have lengths := congrArg List.length before
      simpa [tokensOf] using lengths
    obtain ⟨-, same⟩ := List.append_inj (leaves.symm.trans eq) sameLength
    obtain ⟨rfl, -⟩ := List.cons.inj same
    exact around

/-- At no token read before did a term start that deep. -/
theorem not_termDue_of_shallow (shallow : Shallow used)
    (viable : ∃ (file : File) (sentence : List Leaf), file.leaves = used ++ sentence)
    {earlier later : List Token} (split : earlier ++ later = tokensOf used ++ rest)
    (shorter : earlier.length < (tokensOf used).length) : ¬ TermDue 256 earlier later := by
  intro due
  obtain ⟨file, sentence, leaves⟩ := viable
  have front : earlier <+: tokensOf used :=
    List.prefix_of_prefix_length_le ⟨later, split⟩ (List.prefix_append _ _) shorter.le
  obtain ⟨next, tokens⟩ := front
  obtain ⟨read, back, rfl, before, after⟩ := List.map_eq_append_iff.1 tokens.symm
  rw [← tokens, List.append_assoc] at split
  cases back with
  | nil =>
      obtain rfl : next = [] := after.symm
      rw [← tokens, List.append_nil] at shorter
      exact absurd shorter (Nat.lt_irrefl _)
  | cons leaf back =>
      have head : later.head? = some leaf.token := by
        rw [List.append_cancel_left split, ← after]
        rfl
      have around := due.forced file read leaf (back ++ sentence)
        (by rw [leaves, List.append_assoc, List.cons_append]) before head
      exact shallow leaf (List.mem_append_right _ List.mem_cons_self) around

theorem earliest_tooDeep (uri : String) (shallow : Shallow used)
    (split : lexemes text = tokensOf used ++ rest)
    (leads : Leads (phrases File.leaves) used K rest) (productive : Productive K)
    (deep : TooDeep K) :
    Earliest uri text (.tooDeep (Parser.peek (endToken text) rest).span) := by
  refine ⟨tokensOf used, rest, split, rfl, termDue_of_leads leads productive deep, ?_⟩
  intro earlier later split' shorter
  obtain ⟨sentence, mem⟩ := productive
  obtain ⟨file, leaves⟩ := leads.complete sentence mem
  exact not_termDue_of_shallow shallow ⟨file, sentence, leaves⟩ (split'.symm.trans split) shorter

end Places

/-! ## Offsets -/

theorem start_le_of_mem {text : String} {token : Token} (mem : token ∈ lexemes text) :
    token.span.start ≤ byteLength text.toList := by
  obtain ⟨before, chars, after, split, -, span⟩ :=
    (divides 0 text.toList).lossless.lexeme token mem
  rw [span, ← split, byteLength_append]
  show 0 + byteLength before ≤ _
  omega

theorem start_peek_le {text : String} {before rest : List Token}
    (split : lexemes text = before ++ rest) :
    (Parser.peek (endToken text) rest).span.start ≤ byteLength text.toList := by
  cases rest with
  | nil => exact Nat.le_refl _
  | cons token rest =>
      apply start_le_of_mem
      rw [split]
      exact List.mem_append_right _ List.mem_cons_self

theorem PlacedItem.origin_mem {text : String} {extent : Span} {defs : List Def}
    (placed : PlacedItem text extent defs) :
    ∀ definition ∈ defs, ∃ kind, ⟨kind, definition.origin⟩ ∈ lexemes text := by
  cases placed with
  | func function head result placed covers laid =>
      exact List.forall_mem_singleton.2 ⟨_, head.origin.token⟩
  | type type begins head opening constructors closing covers laid =>
      refine List.forall_mem_cons.2 ⟨⟨_, head.origin.token⟩, fun ctor mem => ?_⟩
      obtain ⟨short, fields, -, -, ctorHead⟩ := constructors ctor mem
      exact ⟨_, ctorHead.origin.token⟩

/-- An error stands at the earliest possible place of the text, and inside it or at its end. -/
theorem Earliest.offset_le {uri text : String} {error : ParseError}
    (earliest : Earliest uri text error) : error.offset ≤ byteLength text.toList := by
  have stopped : ∀ token, StopsAt text token → token.span.start ≤ byteLength text.toList := by
    rintro token ⟨before, rest, split, -⟩
    exact start_peek_le split
  cases error with
  | unexpectedToken span found expected => exact stopped _ earliest
  | invalidCharacter span => exact stopped _ earliest
  | unexpectedEnd span expected =>
      obtain ⟨rfl, -⟩ := earliest
      exact Nat.le_refl _
  | tooDeep span =>
      obtain ⟨before, rest, split, rfl, -⟩ := earliest
      exact start_peek_le split
  | duplicate span name =>
      obtain ⟨earlier, own, rest, before, after, definition, split, parts, rfl, -⟩ := earliest
      have infixed : own.tokens <:+: lexemes text := ⟨_, _, split.symm⟩
      obtain ⟨placed, -⟩ := Item.placed uri own infixed
      obtain ⟨kind, mem⟩ := placed.origin_mem definition (by rw [parts]; simp)
      exact start_le_of_mem mem

/-- The error of a text that does not parse stands at the earliest possible place. -/
theorem parse_error_earliest {uri text : String} {error : ParseError}
    (failed : parse uri text = .error error) :
    Earliest uri text error ∧ error.offset ≤ byteLength text.toList := by
  have earliest : Earliest uri text error := by
    rcases Parser.items_error rfl List.nodup_nil failed with rejects | repeats
    · obtain ⟨used, K, rest, shallow, split, leads, productive, refuses⟩ := rejects
      rcases refuses with ⟨expected, rfl, none⟩ | ⟨rfl, deep⟩
      · exact earliest_unexpected uri expected split leads productive none
      · exact earliest_tooDeep uri shallow split leads productive deep
    · obtain ⟨earlier, own, rest, before, after, definition, split, parts, rfl, nodup, mem⟩ :=
        repeats
      rw [List.append_nil, List.nodup_reverse] at nodup
      rw [List.append_nil, List.mem_reverse] at mem
      exact ⟨earlier, own, rest, before, after, definition, split, parts, rfl, rfl, nodup, mem⟩
  exact ⟨earliest, earliest.offset_le⟩

/-- A constructor list that closes as if it were parameters, a body that is missing, and a
constructor that comes twice. -/
theorem parse_error_earliest_of_three_texts :
    let closedEarly := "type B \x7b t ) \x7d"
    let unfinished := "f(b: B): B case b \x7b t:"
    let twice := "type B \x7b t, f, t \x7d"
    let unexpected : ParseError := .unexpectedToken ⟨11, 12⟩ .rightParen (.symbol .rightBrace)
    let ended : ParseError := .unexpectedEnd ⟨22, 22⟩ .identifier
    let repeated : ParseError := .duplicate ⟨15, 16⟩ "B.t"
    (parse "a" closedEarly = .error unexpected ∧ Earliest "a" closedEarly unexpected ∧
        unexpected.offset ≤ byteLength closedEarly.toList) ∧
      (parse "a" unfinished = .error ended ∧ Earliest "a" unfinished ended ∧
        ended.offset ≤ byteLength unfinished.toList) ∧
      parse "a" twice = .error repeated ∧ Earliest "a" twice repeated ∧
        repeated.offset ≤ byteLength twice.toList := by
  intro closedEarly unfinished twice unexpected ended repeated
  have failed : parse "a" closedEarly = .error unexpected := by cbv
  have failed' : parse "a" unfinished = .error ended := by cbv
  have failed'' : parse "a" twice = .error repeated := by cbv
  exact ⟨⟨failed, parse_error_earliest failed⟩, ⟨failed', parse_error_earliest failed'⟩,
    failed'', parse_error_earliest failed''⟩

end LiveCheck
