import LiveCheck.Language.Definition.Parse
import LiveCheck.Proofs.Language.Unambiguous

/-!
What each parser accepts.

`Reads reader tokens value rest` says that a parser succeeds. For every parser there
is one equivalence that says when it does, in terms of the tokens it consumes and of
the parsers it calls; what lies above them never unfolds a parser again.
-/

namespace LiveCheck

namespace Parser

open Grammar

variable {α : Type} {eof : Token} {tokens rest : List Token}

/-- The parser reads `value` from `tokens` and leaves `rest`. -/
def Reads (reader : Reader α) (tokens : List Token) (value : α) (rest : List Token) : Prop :=
  ∃ shorter, reader tokens = .ok ⟨value, rest, shorter⟩

theorem reads_of_eq {reader : Reader α} {read : Read α tokens}
    (eq : reader tokens = .ok read) : Reads reader tokens read.value read.rest :=
  ⟨read.shorter, eq⟩

theorem Reads.shorter {reader : Reader α} {value : α} (reads : Reads reader tokens value rest) :
    rest.length < tokens.length := by
  obtain ⟨shorter, -⟩ := reads
  exact shorter

/-- A parser that goes on after `reader` succeeds when both do. -/
theorem bind_eq_ok {β : Type} {reader : Reader α} {next : Read α tokens → Except ParseError β}
    {result : β} :
    (reader tokens >>= next) = .ok result ↔
      ∃ value rest, ∃ reads : Reads reader tokens value rest,
        next ⟨value, rest, reads.shorter⟩ = .ok result := by
  constructor
  · intro eq
    cases first : reader tokens with
    | error error =>
        rw [first] at eq
        cases eq
    | ok read =>
        rw [first] at eq
        exact ⟨read.value, read.rest, reads_of_eq first, eq⟩
  · intro parts
    obtain ⟨value, rest, ⟨shorter, first⟩, eq⟩ := parts
    rw [first]
    exact eq

/-! ## Tokens -/

theorem startsWith_eq_true {kind : TokenKind} :
    startsWith kind tokens = true ↔ ∃ span more, tokens = ⟨kind, span⟩ :: more := by
  cases tokens with
  | nil => simp [startsWith]
  | cons token more =>
      obtain ⟨found, span⟩ := token
      simp [startsWith]

theorem not_startsWith_leftParen :
    ¬startsWith .leftParen tokens = true ↔ Apart tokens := by
  rw [startsWith_eq_true]
  simp [Apart]

theorem reads_ident {ident : Ident} :
    Reads (Parser.ident eof) tokens ident rest ↔ tokens = ident.token :: rest := by
  constructor
  · intro reads
    obtain ⟨shorter, eq⟩ := reads
    unfold Parser.ident at eq
    split at eq
    · cases eq
      rfl
    · cases eq
  · rintro rfl
    exact ⟨_, rfl⟩

theorem symbol_cons (eof : Token) (kind : TokenKind) (span : Span) (rest : List Token) :
    symbol eof kind (⟨kind, span⟩ :: rest) = .ok ⟨span, rest, Nat.lt_succ_self _⟩ := by
  rw [symbol, if_pos rfl]

theorem symbol_of_ne {kind found : TokenKind} (differs : found ≠ kind) (span : Span) :
    symbol eof kind (⟨found, span⟩ :: rest) =
      refuse eof (.symbol kind) (⟨found, span⟩ :: rest) := by
  rw [symbol, if_neg differs]

theorem reads_symbol {kind : TokenKind} {span : Span} :
    Reads (symbol eof kind) tokens span rest ↔ tokens = ⟨kind, span⟩ :: rest := by
  constructor
  · intro reads
    obtain ⟨shorter, eq⟩ := reads
    unfold symbol at eq
    split at eq
    · split at eq
      case isTrue found =>
        cases eq
        rw [found]
      case isFalse => cases eq
    · cases eq
  · rintro rfl
    exact ⟨_, symbol_cons eof kind span rest⟩

/-! ## Lists -/

theorem reads_listUntil {closing : TokenKind} (closes : closing.isClosing = true)
    {item : Reader α} {values : List α} {closed : Span} :
    Reads (listUntil eof closing item) tokens (values, closed) rest ↔
      (values = [] ∧ tokens = ⟨closing, closed⟩ :: rest) ∨
      startsWith closing tokens = false ∧ ∃ first after, Reads item tokens first after ∧
        ((values = [first] ∧ after = ⟨closing, closed⟩ :: rest) ∨
          ∃ comma inner more, values = first :: more ∧ after = ⟨.comma, comma⟩ :: inner ∧
            Reads (listUntil eof closing item) inner (more, closed) rest) := by
  constructor
  · intro reads
    obtain ⟨shorter, eq⟩ := reads
    rw [listUntil] at eq
    split at eq
    case isTrue =>
      split at eq
      · cases eq
      case h_2 last readLast =>
        cases eq
        exact .inl ⟨rfl, reads_symbol.1 (reads_of_eq readLast)⟩
    case isFalse goesOn =>
      refine .inr ⟨Bool.eq_false_iff.2 goesOn, ?_⟩
      split at eq
      · cases eq
      case h_2 first readFirst =>
        refine ⟨first.value, first.rest, reads_of_eq readFirst, ?_⟩
        split at eq
        case h_1 comma readComma =>
          split at eq
          · cases eq
          case h_2 more readMore =>
            cases eq
            exact .inr ⟨comma.value, comma.rest, more.value.1, rfl,
              reads_symbol.1 (reads_of_eq readComma), reads_of_eq readMore⟩
        case h_2 =>
          split at eq
          · cases eq
          case h_2 last readLast =>
            cases eq
            exact .inl ⟨rfl, reads_symbol.1 (reads_of_eq readLast)⟩
  · intro parts
    rcases parts with ⟨rfl, rfl⟩ | ⟨goesOn, first, after, ⟨_, readFirst⟩, ⟨rfl, rfl⟩ | more⟩
    · have starts : startsWith closing (⟨closing, closed⟩ :: rest) = true :=
        startsWith_eq_true.2 ⟨_, _, rfl⟩
      refine ⟨Nat.lt_succ_self _, ?_⟩
      rw [listUntil, if_pos starts, symbol_cons]
    · -- The closing bracket is no comma, so the list ends here.
      have noComma : closing ≠ .comma := by
        rintro rfl
        cases closes
      apply Exists.intro
      rw [listUntil, if_neg (by simp [goesOn]), readFirst]
      dsimp only
      rw [symbol_of_ne noComma, refuse]
      dsimp only
      rw [symbol_cons]
    · obtain ⟨comma, inner, more, rfl, rfl, _, readMore⟩ := more
      apply Exists.intro
      rw [listUntil, if_neg (by simp [goesOn]), readFirst]
      dsimp only
      rw [symbol_cons]
      dsimp only
      rw [readMore]

/-! ## Parameters, heads and arms -/

theorem reads_param {param : Param} :
    Reads (Parser.param eof) tokens param rest ↔
      ∃ colon, tokens = param.name.token :: ⟨.colon, colon⟩ :: param.type.token :: rest := by
  constructor
  · intro reads
    obtain ⟨shorter, eq⟩ := reads
    obtain ⟨name, afterName, readName, eq⟩ := bind_eq_ok.1 eq
    obtain ⟨colon, afterColon, readColon, eq⟩ := bind_eq_ok.1 eq
    obtain ⟨type, afterType, readType, eq⟩ := bind_eq_ok.1 eq
    cases eq
    cases reads_ident.1 readName
    cases reads_symbol.1 readColon
    cases reads_ident.1 readType
    exact ⟨colon, rfl⟩
  · intro parts
    obtain ⟨colon, rfl⟩ := parts
    exact ⟨_, rfl⟩

theorem reads_branch {body : Reader Term} {branch : Branch Term} :
    Reads (Parser.branch eof body) tokens branch rest ↔
      ∃ colon after, tokens = branch.ctor.token :: ⟨.colon, colon⟩ :: after ∧
        Reads body after branch.body rest := by
  constructor
  · intro reads
    obtain ⟨shorter, eq⟩ := reads
    obtain ⟨ctor, afterCtor, readCtor, eq⟩ := bind_eq_ok.1 eq
    obtain ⟨colon, afterColon, readColon, eq⟩ := bind_eq_ok.1 eq
    obtain ⟨term, afterTerm, readTerm, eq⟩ := bind_eq_ok.1 eq
    cases eq
    cases reads_ident.1 readCtor
    cases reads_symbol.1 readColon
    exact ⟨colon, afterColon, rfl, readTerm⟩
  · intro parts
    obtain ⟨colon, after, rfl, readBody⟩ := parts
    apply Exists.intro
    refine bind_eq_ok.2 ⟨_, _, reads_ident.2 rfl, ?_⟩
    refine bind_eq_ok.2 ⟨_, _, reads_symbol.2 rfl, ?_⟩
    exact bind_eq_ok.2 ⟨_, _, readBody, rfl⟩

theorem reads_head {name : Ident} {params : List Param} :
    Reads (head eof) tokens (name, params) rest ↔
      (params = [] ∧ tokens = name.token :: rest ∧ Apart rest) ∨
      ∃ opened inner closed, tokens = name.token :: ⟨.leftParen, opened⟩ :: inner ∧
        Reads (listUntil eof .rightParen (param eof)) inner (params, closed) rest := by
  constructor
  · intro reads
    obtain ⟨shorter, eq⟩ := reads
    obtain ⟨name, afterName, readName, eq⟩ := bind_eq_ok.1 eq
    cases reads_ident.1 readName
    split at eq
    case isTrue =>
      obtain ⟨opened, inner, readOpened, eq⟩ := bind_eq_ok.1 eq
      obtain ⟨params, afterParams, readParams, eq⟩ := bind_eq_ok.1 eq
      cases eq
      cases reads_symbol.1 readOpened
      exact .inr ⟨opened, inner, params.2, rfl, readParams⟩
    case isFalse ends =>
      cases eq
      exact .inl ⟨rfl, rfl, not_startsWith_leftParen.1 ends⟩
  · intro parts
    rcases parts with ⟨rfl, rfl, apart⟩ | ⟨opened, inner, closed, rfl, readParams⟩
    · apply Exists.intro
      refine bind_eq_ok.2 ⟨_, _, reads_ident.2 rfl, ?_⟩
      rw [if_neg (not_startsWith_leftParen.2 apart)]
      rfl
    · apply Exists.intro
      refine bind_eq_ok.2 ⟨_, _, reads_ident.2 rfl, ?_⟩
      rw [if_pos (startsWith_eq_true.2 ⟨_, _, rfl⟩)]
      refine bind_eq_ok.2 ⟨_, _, reads_symbol.2 rfl, ?_⟩
      exact bind_eq_ok.2 ⟨_, _, readParams, rfl⟩

/-! ## Terms -/

theorem reads_term {depth : Nat} {value : Term} :
    Reads (term eof (depth + 1)) tokens value rest ↔
      (∃ name, value = .ref name ∧ tokens = name.token :: rest ∧ Apart rest) ∨
      (∃ func args opened inner closed, value = .app func args (func.span.merge closed) ∧
        tokens = func.token :: ⟨.leftParen, opened⟩ :: inner ∧
        Reads (listUntil eof .rightParen (term eof depth)) inner (args, closed) rest) ∨
      ∃ keyword scrutinee arms opened inner closed,
        value = .case scrutinee arms (keyword.merge closed) ∧
        tokens = ⟨.caseKeyword, keyword⟩ :: scrutinee.token :: ⟨.leftBrace, opened⟩ :: inner ∧
        Reads (listUntil eof .rightBrace (branch eof (term eof depth))) inner (arms, closed)
          rest := by
  constructor
  · intro reads
    obtain ⟨shorter, eq⟩ := reads
    rw [term] at eq
    beta_reduce at eq
    split at eq
    case isTrue =>
      obtain ⟨keyword, afterKeyword, readKeyword, eq⟩ := bind_eq_ok.1 eq
      obtain ⟨scrutinee, afterScrutinee, readScrutinee, eq⟩ := bind_eq_ok.1 eq
      obtain ⟨opened, inner, readOpened, eq⟩ := bind_eq_ok.1 eq
      obtain ⟨arms, afterArms, readArms, eq⟩ := bind_eq_ok.1 eq
      cases eq
      cases reads_symbol.1 readKeyword
      cases reads_ident.1 readScrutinee
      cases reads_symbol.1 readOpened
      exact .inr (.inr ⟨keyword, scrutinee, arms.1, opened, inner, arms.2, rfl, rfl, readArms⟩)
    case isFalse =>
      obtain ⟨func, afterFunc, readFunc, eq⟩ := bind_eq_ok.1 eq
      cases reads_ident.1 readFunc
      split at eq
      case isTrue =>
        obtain ⟨opened, inner, readOpened, eq⟩ := bind_eq_ok.1 eq
        obtain ⟨args, afterArgs, readArgs, eq⟩ := bind_eq_ok.1 eq
        cases eq
        cases reads_symbol.1 readOpened
        exact .inr (.inl ⟨func, args.1, opened, inner, args.2, rfl, rfl, readArgs⟩)
      case isFalse ends =>
        cases eq
        exact .inl ⟨func, rfl, rfl, not_startsWith_leftParen.1 ends⟩
  · have noCase : ∀ (ident : Ident) (more : List Token),
        ¬startsWith .caseKeyword (ident.token :: more) = true := fun _ _ => Bool.false_ne_true
    intro parts
    rcases parts with ⟨name, rfl, rfl, apart⟩ |
      ⟨func, args, opened, inner, closed, rfl, rfl, readArgs⟩ |
      ⟨keyword, scrutinee, arms, opened, inner, closed, rfl, rfl, readArms⟩
    · apply Exists.intro
      rw [term]
      beta_reduce
      rw [if_neg (noCase _ _)]
      refine bind_eq_ok.2 ⟨_, _, reads_ident.2 rfl, ?_⟩
      rw [if_neg (not_startsWith_leftParen.2 apart)]
      rfl
    · apply Exists.intro
      rw [term]
      beta_reduce
      rw [if_neg (noCase _ _)]
      refine bind_eq_ok.2 ⟨_, _, reads_ident.2 rfl, ?_⟩
      rw [if_pos (startsWith_eq_true.2 ⟨_, _, rfl⟩)]
      refine bind_eq_ok.2 ⟨_, _, reads_symbol.2 rfl, ?_⟩
      exact bind_eq_ok.2 ⟨_, _, readArgs, rfl⟩
    · apply Exists.intro
      rw [term]
      beta_reduce
      rw [if_pos (startsWith_eq_true.2 ⟨_, _, rfl⟩)]
      refine bind_eq_ok.2 ⟨_, _, reads_symbol.2 rfl, ?_⟩
      refine bind_eq_ok.2 ⟨_, _, reads_ident.2 rfl, ?_⟩
      refine bind_eq_ok.2 ⟨_, _, reads_symbol.2 rfl, ?_⟩
      exact bind_eq_ok.2 ⟨_, _, readArms, rfl⟩

/-! ## Items -/

theorem reads_typeItem {source : Source} {defs : List Def} :
    Reads (typeItem eof source) tokens defs rest ↔
      ∃ keyword name ctors opened inner closed,
        defs = source.defineType (keyword.merge closed) name ctors ∧
        tokens = ⟨.typeKeyword, keyword⟩ :: name.token :: ⟨.leftBrace, opened⟩ :: inner ∧
        Reads (listUntil eof .rightBrace (head eof)) inner (ctors, closed) rest := by
  constructor
  · intro reads
    obtain ⟨shorter, eq⟩ := reads
    obtain ⟨keyword, afterKeyword, readKeyword, eq⟩ := bind_eq_ok.1 eq
    obtain ⟨name, afterName, readName, eq⟩ := bind_eq_ok.1 eq
    obtain ⟨opened, inner, readOpened, eq⟩ := bind_eq_ok.1 eq
    obtain ⟨ctors, afterCtors, readCtors, eq⟩ := bind_eq_ok.1 eq
    cases eq
    cases reads_symbol.1 readKeyword
    cases reads_ident.1 readName
    cases reads_symbol.1 readOpened
    exact ⟨keyword, name, ctors.1, opened, inner, ctors.2, rfl, rfl, readCtors⟩
  · intro parts
    obtain ⟨keyword, name, ctors, opened, inner, closed, rfl, rfl, readCtors⟩ := parts
    apply Exists.intro
    refine bind_eq_ok.2 ⟨_, _, reads_symbol.2 rfl, ?_⟩
    refine bind_eq_ok.2 ⟨_, _, reads_ident.2 rfl, ?_⟩
    refine bind_eq_ok.2 ⟨_, _, reads_symbol.2 rfl, ?_⟩
    exact bind_eq_ok.2 ⟨_, _, readCtors, rfl⟩

theorem reads_funcItem {source : Source} {defs : List Def} :
    Reads (funcItem eof source) tokens defs rest ↔
      ∃ name params colon ret body afterHead afterRet,
        defs = [source.define name.name name.span (name.span.merge body.span)
          (.func params ret body)] ∧
        Reads (head eof) tokens (name, params) afterHead ∧
        afterHead = ⟨.colon, colon⟩ :: ret.token :: afterRet ∧
        Reads (term eof maxDepth) afterRet body rest := by
  constructor
  · intro reads
    obtain ⟨shorter, eq⟩ := reads
    obtain ⟨⟨name, params⟩, afterHead, readHead, eq⟩ := bind_eq_ok.1 eq
    obtain ⟨colon, afterColon, readColon, eq⟩ := bind_eq_ok.1 eq
    obtain ⟨ret, afterRet, readRet, eq⟩ := bind_eq_ok.1 eq
    obtain ⟨body, afterBody, readBody, eq⟩ := bind_eq_ok.1 eq
    cases eq
    cases reads_symbol.1 readColon
    cases reads_ident.1 readRet
    exact ⟨name, params, colon, ret, body, _, afterRet, rfl, readHead, rfl, readBody⟩
  · intro parts
    obtain ⟨name, params, colon, ret, body, afterHead, afterRet, rfl, readHead, rfl, readBody⟩ :=
      parts
    apply Exists.intro
    refine bind_eq_ok.2 ⟨_, _, readHead, ?_⟩
    refine bind_eq_ok.2 ⟨_, _, reads_symbol.2 rfl, ?_⟩
    refine bind_eq_ok.2 ⟨_, _, reads_ident.2 rfl, ?_⟩
    exact bind_eq_ok.2 ⟨_, _, readBody, rfl⟩

theorem reads_item {source : Source} {defs : List Def} :
    Reads (item eof source) tokens defs rest ↔
      Reads (typeItem eof source) tokens defs rest ∨
        Reads (funcItem eof source) tokens defs rest := by
  constructor
  · intro reads
    obtain ⟨shorter, eq⟩ := reads
    unfold item at eq
    split at eq
    · exact .inl ⟨shorter, eq⟩
    · exact .inr ⟨shorter, eq⟩
    · cases eq
  · intro reads
    rcases reads with reads | reads
    · obtain ⟨keyword, name, ctors, opened, inner, closed, -, rfl, -⟩ := reads_typeItem.1 reads
      exact reads
    · obtain ⟨name, params, colon, ret, body, afterHead, afterRet, -, readHead, -⟩ :=
        reads_funcItem.1 reads
      -- A head starts with an identifier, whether or not it has parameters.
      rcases reads_head.1 readHead with ⟨-, rfl, -⟩ | ⟨opened, inner, closed, rfl, -⟩
      · exact reads
      · exact reads

/-! ## Files -/

theorem items_nil (source : Source) (seen : List String) :
    items eof source seen [] = .ok [] := by
  rw [items]
  rfl

theorem items_eq_ok {source : Source} {seen : List String} (nonempty : tokens ≠ [])
    {defs : List Def} :
    items eof source seen tokens = .ok defs ↔
      ∃ first rest seen' others, Reads (item eof source) tokens first rest ∧
        declare seen first = .ok seen' ∧ items eof source seen' rest = .ok others ∧
        defs = first ++ others := by
  have more : ¬tokens.isEmpty = true := by
    rw [List.isEmpty_iff]
    exact nonempty
  constructor
  · intro eq
    rw [items, if_neg more] at eq
    split at eq
    · cases eq
    case h_2 first readFirst =>
      split at eq
      · cases eq
      case h_2 seen' declared =>
        cases readOthers : items eof source seen' first.rest with
        | error error =>
            rw [readOthers] at eq
            cases eq
        | ok others =>
            rw [readOthers] at eq
            cases eq
            exact ⟨_, _, seen', others, reads_of_eq readFirst, declared, readOthers, rfl⟩
  · intro parts
    obtain ⟨first, rest, seen', others, ⟨_, readFirst⟩, declared, readOthers, rfl⟩ := parts
    rw [items, if_neg more, readFirst]
    dsimp only
    rw [declared]
    dsimp only
    rw [readOthers]
    rfl

/-- Definitions are declared when no name comes up a second time. -/
theorem declare_eq_ok {seen seen' : List String} (fresh : seen.Nodup) {defs : List Def} :
    declare seen defs = .ok seen' ↔
      seen' = (defs.map Def.name).reverse ++ seen ∧ seen'.Nodup := by
  induction defs generalizing seen with
  | nil =>
      rw [declare, Except.ok.injEq]
      constructor
      · rintro rfl
        exact ⟨rfl, fresh⟩
      · intro parts
        obtain ⟨rfl, -⟩ := parts
        rfl
  | cons definition rest ih =>
      rw [declare, List.map_cons, List.reverse_cons, List.append_assoc, List.singleton_append]
      split
      case isTrue mem =>
        constructor
        · intro eq
          cases eq
        · intro parts
          obtain ⟨rfl, nodup⟩ := parts
          have names := (List.nodup_append.1 nodup).2.1
          exact absurd mem (List.nodup_cons.1 names).1
      case isFalse notMem => exact ih (List.nodup_cons.2 ⟨notMem, fresh⟩)

end Parser

end LiveCheck
