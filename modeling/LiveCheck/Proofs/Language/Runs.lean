import LiveCheck.Proofs.Language.Grammar
import LiveCheck.Proofs.Language.Lexemes
import Mathlib.Data.List.Infix

/-!
Runs of tokens and the bytes they cover.

The tokens of a text stand one behind the other, so a run of them covers the bytes from its
first token to its last (`Covers`). A run can be divided into parts, with separators between
them (`Divided`). The bytes of the parts then lie inside those of the run, apart from each
other and in order, and nothing else in the run is a token (`Divided.laid`).
-/

namespace LiveCheck

/-- A span lies inside another. -/
def Span.Inside (inner outer : Span) : Prop :=
  outer.start ≤ inner.start ∧ inner.stop ≤ outer.stop

theorem Span.merge_of_le {first last : Span} (start : first.start ≤ last.start)
    (stop : first.stop ≤ last.stop) : first.merge last = ⟨first.start, last.stop⟩ := by
  rw [merge, Nat.min_eq_left start, Nat.max_eq_right stop]

/-! ## Words of a text -/

/-- The bytes of `span` are those of `word`. -/
def Spells (text : String) (span : Span) (word : String) : Prop :=
  ∃ before after, before ++ word.toList ++ after = text.toList ∧
    span = ⟨byteLength before, byteLength before + byteLength word.toList⟩

/-- How tokens of a kind are written. -/
def TokenKind.spelling? : TokenKind → Option String
  | .typeKeyword => some "type"
  | .caseKeyword => some "case"
  | .ident name => some name
  | .leftParen => some "("
  | .rightParen => some ")"
  | .leftBrace => some "\x7b"
  | .rightBrace => some "\x7d"
  | .colon => some ":"
  | .comma => some ","
  | .invalid => none
  | .endOfFile => none

/-- A token of a text that is written as `word`. -/
structure Written (text : String) (kind : TokenKind) (span : Span) (word : String) : Prop where
  token : ⟨kind, span⟩ ∈ lexemes text
  spells : Spells text span word

/-- An identifier that stands in a text where its span says. -/
def Ident.Written (text : String) (ident : Ident) : Prop :=
  LiveCheck.Written text (.ident ident.name) ident.span ident.name

theorem WordKind.eq_spelling {chars : List Char} {kind : TokenKind} {word : String}
    (kinds : WordKind chars kind) (spelling : kind.spelling? = some word) :
    chars = word.toList := by
  cases kinds with
  | typeKeyword => cases spelling; rfl
  | caseKeyword => cases spelling; rfl
  | ident other other' => cases spelling; exact String.toList_ofList.symm

theorem Lexeme.eq_spelling {chars rest : List Char} {kind : TokenKind} {word : String}
    (lexeme : Lexeme chars rest kind) (spelling : kind.spelling? = some word) :
    chars = word.toList := by
  cases lexeme with
  | word start parts longest kinds => exact kinds.eq_spelling spelling
  | punctuation rest kinds => cases kinds <;> cases spelling <;> rfl
  | invalid space start punctuation comment => cases spelling

theorem written_of_mem {text : String} {kind : TokenKind} {span : Span} {word : String}
    (spelling : kind.spelling? = some word) (mem : ⟨kind, span⟩ ∈ lexemes text) :
    Written text kind span word := by
  obtain ⟨before, chars, after, split, lexeme, place⟩ :=
    (divides 0 text.toList).lossless.lexeme _ mem
  obtain rfl := lexeme.eq_spelling spelling
  rw [Nat.zero_add] at place
  exact ⟨mem, before, after, List.append_assoc .. ▸ split, place⟩

/-! ## Runs -/

variable {text : String} {run more : List Token} {token : Token} {span whole part : Span}
  {parts others : List Span} {separators : List TokenKind}

/-- Tokens that stand one behind the other. -/
structure InOrder (tokens : List Token) : Prop where
  nonempty : ∀ token ∈ tokens, token.span.start < token.span.stop
  ordered : tokens.Pairwise fun earlier later => earlier.span.stop ≤ later.span.start

theorem inOrder_lexemes (text : String) : InOrder (lexemes text) :=
  ⟨(divides 0 text.toList).lossless.nonempty, (divides 0 text.toList).lossless.ordered⟩

theorem InOrder.sublist (inOrder : InOrder more) (sublist : run.Sublist more) : InOrder run :=
  ⟨fun token mem => inOrder.nonempty token (sublist.subset mem), inOrder.ordered.sublist sublist⟩

/-- A span reaches from the first token of a run to the last. -/
structure Covers (run : List Token) (span : Span) : Prop where
  first : ∃ token ∈ run.head?, span.start = token.span.start
  last : ∃ token ∈ run.getLast?, span.stop = token.span.stop

theorem covers_singleton (token : Token) : Covers [token] token.span :=
  ⟨⟨token, rfl, rfl⟩, token, rfl, rfl⟩

/-- What stands before a run extends the bytes it covers to the left. -/
theorem Covers.prepend (covers : Covers run span) (first : Token) (middle : List Token) :
    Covers (first :: middle ++ run) ⟨first.span.start, span.stop⟩ := by
  obtain ⟨last, final, stop⟩ := covers.last
  refine ⟨⟨first, rfl, rfl⟩, last, ?_, stop⟩
  rw [List.getLast?_append, Option.mem_def.1 final]
  rfl

theorem Covers.inside (covers : Covers run span) (inOrder : InOrder run) (mem : token ∈ run) :
    token.span.Inside span := by
  obtain ⟨first, head, start⟩ := covers.first
  obtain ⟨last, final, stop⟩ := covers.last
  constructor
  · obtain ⟨rest, rfl⟩ := List.head?_eq_some_iff.1 head
    rcases List.mem_cons.1 mem with rfl | mem
    · exact start.le
    · have before := (List.pairwise_cons.1 inOrder.ordered).1 token mem
      have proper := inOrder.nonempty first List.mem_cons_self
      omega
  · obtain ⟨rest, rfl⟩ := List.getLast?_eq_some_iff.1 final
    rcases List.mem_append.1 mem with mem | mem
    · have behind := (List.pairwise_append.1 inOrder.ordered).2.2 token mem last (by simp)
      have proper := inOrder.nonempty last (by simp)
      omega
    · obtain rfl := List.mem_singleton.1 mem
      exact stop.ge

theorem Covers.proper (covers : Covers run span) (inOrder : InOrder run) :
    span.start < span.stop := by
  obtain ⟨first, head, start⟩ := covers.first
  have mem := List.mem_of_mem_head? head
  have inside := covers.inside inOrder mem
  have proper := inOrder.nonempty first mem
  have stop := inside.2
  omega

/-- A token of the text that lies inside a run belongs to it. -/
theorem Covers.mem_of_inside (covers : Covers run span) (infixed : run <:+: lexemes text)
    (mem : token ∈ lexemes text) (inside : token.span.Inside span) : token ∈ run := by
  have inOrder := inOrder_lexemes text
  have proper := inOrder.nonempty token mem
  obtain ⟨before, after, split⟩ := infixed
  rw [← split] at mem inOrder
  obtain ⟨first, head, start⟩ := covers.first
  obtain ⟨last, final, stop⟩ := covers.last
  have ordered := inOrder.ordered
  rw [List.pairwise_append, List.pairwise_append] at ordered
  obtain ⟨⟨-, -, front⟩, -, back⟩ := ordered
  obtain ⟨startLe, leStop⟩ := inside
  rw [List.mem_append, List.mem_append] at mem
  rcases mem with (mem | mem) | mem
  · have ahead := front token mem first (List.mem_of_mem_head? head)
    omega
  · exact mem
  · have behind := back last (List.mem_append_right _ (List.mem_of_mem_getLast? final)) token mem
    omega

/-- The least span around the first token of a run and what the end of the run covers is
the one that the run covers. -/
theorem Covers.merge (covers : Covers run span) (first : Token) (middle : List Token)
    (infixed : first :: middle ++ run <:+: lexemes text) :
    first.span.merge span = ⟨first.span.start, span.stop⟩ ∧
      Covers (first :: middle ++ run) (first.span.merge span) := by
  have inOrder := (inOrder_lexemes text).sublist infixed.sublist
  have extended := covers.prepend first middle
  obtain ⟨token, head, start⟩ := covers.first
  have mem := List.mem_append_right (first :: middle) (List.mem_of_mem_head? head)
  have firstInside := extended.inside inOrder List.mem_cons_self
  have tokenInside := extended.inside inOrder mem
  have merged : first.span.merge span = ⟨first.span.start, span.stop⟩ :=
    Span.merge_of_le (start ▸ tokenInside.1) firstInside.2
  exact ⟨merged, merged ▸ extended⟩

/-! ## Parts of a run -/

/-- A run of tokens consists of parts that cover the given spans, and of separators. -/
inductive Divided (separators : List TokenKind) : List Token → List Span → Prop where
  | nil : Divided separators [] []
  | separator {token : Token} {run : List Token} {parts : List Span}
      (kind : token.kind ∈ separators) (rest : Divided separators run parts) :
      Divided separators (token :: run) parts
  | part {piece run : List Token} {span : Span} {parts : List Span} (covers : Covers piece span)
      (rest : Divided separators run parts) : Divided separators (piece ++ run) (span :: parts)

theorem Divided.single (token : Token) (rest : Divided separators run parts) :
    Divided separators (token :: run) (token.span :: parts) :=
  .part (covers_singleton token) rest

theorem Divided.append (first : Divided separators run parts)
    (second : Divided separators more others) :
    Divided separators (run ++ more) (parts ++ others) := by
  induction first with
  | nil => exact second
  | separator kind rest ih => exact .separator kind ih
  | part covers rest ih =>
      rw [List.append_assoc, List.cons_append]
      exact .part covers ih

theorem Divided.one (covers : Covers run span) : Divided separators run [span] := by
  have divided : Divided separators (run ++ []) [span] := .part covers .nil
  rwa [List.append_nil] at divided

/-- A list is divided as its phrases are, where commas separate. -/
theorem divided_listed {α : Type} {yield : α → List Token} {places : α → List Span}
    {list : Grammar.Listed α} (comma : .comma ∈ separators)
    (divided : ∀ phrase ∈ list.toList, Divided separators (yield phrase) (places phrase)) :
    Divided separators (list.tokens yield) (list.toList.flatMap places) := by
  induction list using Grammar.Listed.induct with
  | none => exact .nil
  | one first =>
      have first := divided first List.mem_cons_self
      rw [Grammar.Listed.tokens_one]
      simpa [Grammar.Listed.one, Grammar.Listed.toList] using first
  | cons first span list ih =>
      rw [Grammar.Listed.toList_cons, List.forall_mem_cons] at divided
      rw [Grammar.Listed.tokens_cons, Grammar.Listed.toList_cons, List.flatMap_cons]
      exact divided.1.append (.separator comma (ih divided.2))

theorem Divided.exists_piece (divided : Divided separators run parts) (mem : part ∈ parts) :
    ∃ piece, piece <:+: run ∧ Covers piece part := by
  induction divided with
  | nil => cases mem
  | separator kind rest ih =>
      obtain ⟨piece, infixed, covers⟩ := ih mem
      exact ⟨piece, List.infix_cons infixed, covers⟩
  | @part piece run span parts covers rest ih =>
      rcases List.mem_cons.1 mem with rfl | mem
      · exact ⟨piece, (List.prefix_append _ _).isInfix, covers⟩
      · obtain ⟨other, infixed, covers⟩ := ih mem
        exact ⟨other, infixed.trans (List.suffix_append _ _).isInfix, covers⟩

theorem Divided.ordered (divided : Divided separators run parts) (inOrder : InOrder run) :
    parts.Pairwise fun earlier later => earlier.stop ≤ later.start := by
  induction divided with
  | nil => exact .nil
  | separator kind rest ih => exact ih (inOrder.sublist (List.sublist_cons_self _ _))
  | part covers rest ih =>
      refine .cons ?_ (ih (inOrder.sublist (List.sublist_append_right _ _)))
      intro later mem
      obtain ⟨other, infixed, covers'⟩ := rest.exists_piece mem
      obtain ⟨last, final, stop⟩ := covers.last
      obtain ⟨first, head, start⟩ := covers'.first
      have behind := (List.pairwise_append.1 inOrder.ordered).2.2 last
        (List.mem_of_mem_getLast? final) first (infixed.subset (List.mem_of_mem_head? head))
      rw [stop, start]
      exact behind

theorem Divided.separator_or_inside (divided : Divided separators run parts)
    (inOrder : InOrder run) (mem : token ∈ run) :
    token.kind ∈ separators ∨ ∃ part ∈ parts, token.span.Inside part := by
  induction divided with
  | nil => cases mem
  | separator kind rest ih =>
      rcases List.mem_cons.1 mem with rfl | mem
      · exact Or.inl kind
      · exact ih (inOrder.sublist (List.sublist_cons_self _ _)) mem
  | @part piece run span parts covers rest ih =>
      rcases List.mem_append.1 mem with mem | mem
      · have inside := covers.inside (inOrder.sublist (List.sublist_append_left _ _)) mem
        exact Or.inr ⟨span, List.mem_cons_self, inside⟩
      · rcases ih (inOrder.sublist (List.sublist_append_right _ _)) mem with kind | found
        · exact Or.inl kind
        · obtain ⟨part, partMem, inside⟩ := found
          exact Or.inr ⟨part, List.mem_cons_of_mem _ partMem, inside⟩

/-- The parts of what covers `whole`, in order. -/
structure Laid (text : String) (whole : Span) (parts : List Span)
    (separators : List TokenKind) : Prop where
  proper : ∀ part ∈ parts, part.start < part.stop
  inside : ∀ part ∈ parts, part.Inside whole
  ordered : parts.Pairwise fun earlier later => earlier.stop ≤ later.start
  /-- No other token is there but separators. -/
  rest : ∀ token ∈ lexemes text, token.span.Inside whole →
    token.kind ∈ separators ∨ ∃ part ∈ parts, token.span.Inside part

theorem Divided.laid (divided : Divided separators run parts) (infixed : run <:+: lexemes text)
    (covers : Covers run whole) : Laid text whole parts separators := by
  have inOrder := (inOrder_lexemes text).sublist infixed.sublist
  refine ⟨?_, ?_, divided.ordered inOrder, ?_⟩
  · intro part mem
    obtain ⟨piece, infixed', covers'⟩ := divided.exists_piece mem
    exact covers'.proper (inOrder.sublist infixed'.sublist)
  · intro part mem
    obtain ⟨piece, infixed', covers'⟩ := divided.exists_piece mem
    obtain ⟨first, head, start⟩ := covers'.first
    obtain ⟨last, final, stop⟩ := covers'.last
    have firstMem := infixed'.subset (List.mem_of_mem_head? head)
    have lastMem := infixed'.subset (List.mem_of_mem_getLast? final)
    constructor
    · rw [start]
      exact (covers.inside inOrder firstMem).1
    · rw [stop]
      exact (covers.inside inOrder lastMem).2
  · intro token mem inside
    exact divided.separator_or_inside inOrder (covers.mem_of_inside infixed mem inside)

end LiveCheck
