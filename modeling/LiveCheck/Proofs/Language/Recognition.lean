import LiveCheck.Proofs.Language.Readers
import Mathlib.Data.List.Nodup

/-!
The parser accepts exactly what the grammar derives, and returns what the derivation
denotes.

`Recognizes` ties a parser to the derivations of one nonterminal: what it reads has a
derivation, and what has a derivation it reads, unless a parenthesis follows that the
parser would take for more of the same phrase.
-/

namespace LiveCheck

namespace Parser

open Grammar

section

variable {α τ : Type} {eof : Token} {reader : Reader α} {yield : τ → List Token}
  {value : τ → α} {fits : τ → Prop}

/-- The parser reads the phrases that fit, and gives their values. -/
structure Recognizes (reader : Reader α) (yield : τ → List Token) (value : τ → α)
    (fits : τ → Prop) : Prop where
  sound : ∀ {tokens read rest}, Reads reader tokens read rest →
    ∃ phrase, fits phrase ∧ read = value phrase ∧ tokens = yield phrase ++ rest
  complete : ∀ {phrase rest}, fits phrase → Apart rest →
    Reads reader (yield phrase ++ rest) (value phrase) rest

/-! ## Lists -/

theorem Recognizes.listUntil_sound (recognizes : Recognizes reader yield value fits)
    {closing : TokenKind} (closes : closing.isClosing = true) {tokens rest : List Token}
    {values : List α} {closed : Span}
    (reads : Reads (listUntil eof closing reader) tokens (values, closed) rest) :
    ∃ list : Listed τ, (∀ phrase ∈ list.toList, fits phrase) ∧
      values = list.toList.map value ∧
      tokens = list.tokens yield ++ ⟨closing, closed⟩ :: rest := by
  -- By induction on the number of tokens; a comma leaves fewer of them.
  induction length : tokens.length using Nat.strongRecOn generalizing tokens values with
  | ind size ih =>
      rcases (reads_listUntil closes).1 reads with
        ⟨rfl, rfl⟩ | ⟨-, first, after, readFirst, ⟨rfl, rfl⟩ | more⟩
      · exact ⟨.none, by simp [Listed.toList], rfl, rfl⟩
      · obtain ⟨phrase, fit, rfl, rfl⟩ := recognizes.sound readFirst
        refine ⟨.one phrase, ?_, rfl, ?_⟩
        · simpa [Listed.one, Listed.toList] using fit
        · rw [Listed.tokens_one]
      · obtain ⟨comma, inner, more, rfl, rfl, readMore⟩ := more
        obtain ⟨phrase, fit, rfl, rfl⟩ := recognizes.sound readFirst
        have fewer : inner.length < size := by
          rw [← length, List.length_append, List.length_cons]
          omega
        obtain ⟨list, fits, rfl, rfl⟩ := ih inner.length fewer readMore rfl
        refine ⟨.cons phrase comma list, ?_, ?_, ?_⟩
        · rw [Listed.toList_cons]
          exact List.forall_mem_cons.2 ⟨fit, fits⟩
        · rw [Listed.toList_cons, List.map_cons]
        · rw [Listed.tokens_cons, List.append_assoc, List.cons_append]

theorem Recognizes.listUntil_complete (recognizes : Recognizes reader yield value fits)
    (worded : Worded yield) {closing : TokenKind} (closes : closing.isClosing = true)
    {list : Listed τ} (fit : ∀ phrase ∈ list.toList, fits phrase) {rest : List Token}
    {closed : Span} :
    Reads (listUntil eof closing reader) (list.tokens yield ++ ⟨closing, closed⟩ :: rest)
      (list.toList.map value, closed) rest := by
  have goesOn : ∀ phrase more, startsWith closing (yield phrase ++ more) = false := by
    intro phrase more
    rw [Bool.eq_false_iff, Ne, startsWith_eq_true]
    intro parts
    obtain ⟨span, tail, eq⟩ := parts
    exact worded.append_ne (TokenKind.isWord_of_isClosing closes) phrase eq
  induction list using Listed.induct with
  | none => exact (reads_listUntil closes).2 (.inl ⟨rfl, rfl⟩)
  | one first =>
      have fit : fits first := fit first List.mem_cons_self
      rw [Listed.tokens_one]
      refine (reads_listUntil closes).2 (.inr ⟨goesOn _ _, value first, _, ?_, .inl ⟨rfl, rfl⟩⟩)
      exact recognizes.complete fit (apart_closing closes _ _)
  | cons first comma list ih =>
      rw [Listed.toList_cons, List.forall_mem_cons] at fit
      rw [Listed.tokens_cons, Listed.toList_cons, List.map_cons, List.append_assoc,
        List.cons_append]
      refine (reads_listUntil closes).2 (.inr ⟨goesOn _ _, value first, _, ?_, .inr
        ⟨comma, _, _, rfl, rfl, ih fit.2⟩⟩)
      exact recognizes.complete fit.1 (apart_cons (by decide) _ _)

theorem Recognizes.enclosed_sound (recognizes : Recognizes reader yield value fits)
    {closing : TokenKind} {inner rest : List Token} {values : List α} {closed : Span}
    (reads : Reads (listUntil eof closing reader) inner (values, closed) rest)
    (closes : closing.isClosing = true) (opening : TokenKind) (opened : Span) :
    ∃ list : Enclosed τ, (∀ phrase ∈ list.toList, fits phrase) ∧
      values = list.toList.map value ∧ closed = list.closed ∧
      ⟨opening, opened⟩ :: inner = list.tokens opening closing yield ++ rest := by
  obtain ⟨list, fit, rfl, rfl⟩ := recognizes.listUntil_sound closes reads
  refine ⟨⟨opened, list, closed⟩, fit, rfl, rfl, ?_⟩
  simp [Enclosed.tokens]

theorem Recognizes.enclosed_complete (recognizes : Recognizes reader yield value fits)
    (worded : Worded yield) (opening closing : TokenKind) (closes : closing.isClosing = true)
    {list : Enclosed τ} (fit : ∀ phrase ∈ list.toList, fits phrase) (rest : List Token) :
    ∃ inner, list.tokens opening closing yield ++ rest = ⟨opening, list.opened⟩ :: inner ∧
      Reads (listUntil eof closing reader) inner (list.toList.map value, list.closed) rest := by
  refine ⟨list.items.tokens yield ++ ⟨closing, list.closed⟩ :: rest, ?_, ?_⟩
  · simp [Enclosed.tokens]
  · exact recognizes.listUntil_complete worded closes fit

end

variable {eof : Token}

/-! ## Heads and terms -/

theorem recognizes_param :
    Recognizes (param eof) (Labelled.tokens fun type => [Ident.token type])
      (fun param => ⟨param.label, param.body⟩) fun _ => True where
  sound {tokens param rest} reads := by
    obtain ⟨colon, rfl⟩ := reads_param.1 reads
    exact ⟨⟨param.name, colon, param.type⟩, trivial, rfl, rfl⟩
  complete {param rest} _ _ := reads_param.2 ⟨param.colon, rfl⟩

theorem recognizes_head :
    Recognizes (head eof) Head.tokens (fun head => (head.name, head.declared)) fun _ => True where
  sound {tokens read rest} reads := by
    obtain ⟨name, values⟩ := read
    rcases reads_head.1 reads with ⟨rfl, rfl, -⟩ | ⟨opened, inner, closed, rfl, readParams⟩
    · exact ⟨⟨name, none⟩, trivial, rfl, rfl⟩
    · obtain ⟨params, -, rfl, -, eq⟩ :=
        recognizes_param.enclosed_sound readParams rfl .leftParen opened
      refine ⟨⟨name, some params⟩, trivial, rfl, ?_⟩
      rw [eq]
      rfl
  complete {head rest} _ apart := by
    obtain ⟨name, params⟩ := head
    apply reads_head.2
    cases params with
    | none => exact .inl ⟨rfl, rfl, apart⟩
    | some params =>
        obtain ⟨inner, eq, readParams⟩ := recognizes_param.enclosed_complete worded_labelled
          .leftParen .rightParen rfl (fun _ _ => trivial) rest
        exact .inr ⟨params.opened, inner, params.closed, congrArg _ eq, readParams⟩

theorem Recognizes.branch {body : Reader Term} {depth : Nat}
    (recognizes : Recognizes body Tree.tokens Tree.term fun tree => tree.depth ≤ depth) :
    Recognizes (branch eof body) (Labelled.tokens Tree.tokens)
      (fun arm => ⟨arm.label, arm.body.term⟩) fun arm => arm.body.depth ≤ depth where
  sound {tokens arm rest} reads := by
    obtain ⟨colon, after, rfl, readBody⟩ := reads_branch.1 reads
    obtain ⟨tree, fit, eq, rfl⟩ := recognizes.sound readBody
    refine ⟨⟨arm.ctor, colon, tree⟩, fit, ?_, rfl⟩
    rw [← eq]
  complete {arm rest} fit apart :=
    reads_branch.2 ⟨arm.colon, _, rfl, recognizes.complete fit apart⟩

/-- Terms of one more level are read when their subterms are. -/
theorem Recognizes.term_succ {depth : Nat}
    (recognizes : Recognizes (term eof depth) Tree.tokens Tree.term
      fun tree => tree.depth ≤ depth) :
    Recognizes (term eof (depth + 1)) Tree.tokens Tree.term
      fun tree => tree.depth ≤ depth + 1 where
  sound {tokens read rest} reads := by
    rcases reads_term.1 reads with ⟨name, rfl, rfl, -⟩ |
      ⟨func, values, opened, inner, closed, rfl, rfl, readArgs⟩ |
      ⟨keyword, scrutinee, values, opened, inner, closed, rfl, rfl, readArms⟩
    · refine ⟨.node (.ref name), ?_, ?_, ?_⟩
      · rw [Tree.depth_node, Node.depth_le_succ]
        intro sub mem
        cases mem
      · rw [Tree.term_node, Node.term]
      · rw [Tree.tokens_node, Node.tokens, List.singleton_append]
    · obtain ⟨args, fit, rfl, rfl, eq⟩ :=
        recognizes.enclosed_sound readArgs rfl .leftParen opened
      refine ⟨.node (.app func args), ?_, ?_, ?_⟩
      · rw [Tree.depth_node, Node.depth_le_succ]
        exact fit
      · rw [Tree.term_node, Node.term]
      · rw [Tree.tokens_node, Node.tokens, List.cons_append, eq]
    · obtain ⟨arms, fit, rfl, rfl, eq⟩ :=
        recognizes.branch.enclosed_sound readArms rfl .leftBrace opened
      refine ⟨.node (.case keyword scrutinee arms), ?_, ?_, ?_⟩
      · rw [Tree.depth_node, Node.depth_le_succ]
        exact List.forall_mem_map.2 fit
      · rw [Tree.term_node, Node.term]
      · rw [Tree.tokens_node, Node.tokens, List.cons_append, List.cons_append, eq]
  complete {tree rest} shallow apart := by
    obtain ⟨node⟩ := tree
    rw [Tree.depth_node, Node.depth_le_succ] at shallow
    rw [Tree.tokens_node, Tree.term_node]
    apply reads_term.2
    cases node with
    | ref name => exact .inl ⟨name, rfl, rfl, apart⟩
    | app func args =>
        obtain ⟨inner, eq, readArgs⟩ := recognizes.enclosed_complete worded_tree
          .leftParen .rightParen rfl shallow rest
        exact .inr (.inl ⟨func, _, args.opened, inner, args.closed, rfl, congrArg _ eq, readArgs⟩)
    | case keyword scrutinee arms =>
        obtain ⟨inner, eq, readArms⟩ := recognizes.branch.enclosed_complete worded_labelled
          .leftBrace .rightBrace rfl (List.forall_mem_map.1 shallow) rest
        refine .inr (.inr
          ⟨keyword, scrutinee, _, arms.opened, inner, arms.closed, rfl, ?_, readArms⟩)
        rw [Node.tokens, List.cons_append, List.cons_append, eq]

theorem recognizes_term (depth : Nat) :
    Recognizes (term eof depth) Tree.tokens Tree.term fun tree => tree.depth ≤ depth := by
  induction depth with
  | zero =>
      refine ⟨?_, ?_⟩
      · rintro tokens read rest ⟨shorter, eq⟩
        cases eq
      · rintro ⟨node⟩ rest shallow
        rw [Tree.depth_node, Node.depth] at shallow
        omega
  | succ depth ih => exact ih.term_succ

/-! ## Items -/

theorem defineType_eq_definitions (source : Source) (keyword : Span) (name : Ident)
    (ctors : Enclosed Head) :
    source.defineType (keyword.merge ctors.closed) name
      (ctors.toList.map fun ctor => (ctor.name, ctor.declared)) =
      Item.definitions source.uri source.text (.type keyword name ctors) := by
  simp [Source.defineType, Source.define, Item.definitions, Item.qualified]

theorem recognizes_item (source : Source) :
    Recognizes (item eof source) Item.tokens (Item.definitions source.uri source.text)
      fun item => item.depth ≤ maxDepth where
  sound {tokens read rest} reads := by
    rcases reads_item.1 reads with reads | reads
    · obtain ⟨keyword, name, values, opened, inner, closed, rfl, rfl, readCtors⟩ :=
        reads_typeItem.1 reads
      obtain ⟨ctors, -, rfl, rfl, eq⟩ :=
        recognizes_head.enclosed_sound readCtors rfl .leftBrace opened
      refine ⟨.type keyword name ctors, Nat.zero_le _, ?_, ?_⟩
      · exact defineType_eq_definitions source keyword name ctors
      · rw [Item.tokens, List.cons_append, List.cons_append, eq]
    · obtain ⟨name, values, colon, ret, body, afterHead, afterRet, rfl, readHead, rfl, readBody⟩ :=
        reads_funcItem.1 reads
      obtain ⟨head, -, declared, rfl⟩ := recognizes_head.sound readHead
      obtain ⟨tree, fit, rfl, rfl⟩ := (recognizes_term maxDepth).sound readBody
      cases declared
      refine ⟨.func head colon ret tree, fit, rfl, ?_⟩
      rw [Item.tokens, List.append_assoc, List.cons_append, List.cons_append]
  complete {item rest} fit apart := by
    apply reads_item.2
    cases item with
    | type keyword name ctors =>
        obtain ⟨inner, eq, readCtors⟩ := recognizes_head.enclosed_complete worded_head
          .leftBrace .rightBrace rfl (fun _ _ => trivial) rest
        left
        apply reads_typeItem.2
        refine ⟨keyword, name, _, ctors.opened, inner, ctors.closed, ?_, ?_, readCtors⟩
        · exact (defineType_eq_definitions source keyword name ctors).symm
        · rw [Item.tokens, List.cons_append, List.cons_append, eq]
    | func head colon ret body =>
        have apartColon : Apart (⟨.colon, colon⟩ :: ret.token :: (body.tokens ++ rest)) :=
          apart_cons (by decide) _ _
        have readHead : Reads (Parser.head eof) _ (head.name, head.declared) _ :=
          recognizes_head.complete trivial apartColon
        have readBody : Reads (term eof maxDepth) _ body.term rest :=
          (recognizes_term maxDepth).complete fit apart
        right
        rw [Item.tokens, List.append_assoc, List.cons_append, List.cons_append]
        exact reads_funcItem.2 ⟨head.name, head.declared, colon, ret, body.term, _, _,
          rfl, readHead, rfl, readBody⟩

/-! ## Files -/

/-- The tokens derive a file that nests at most `maxDepth` deep and defines none of the
names seen before, nor any name twice. -/
structure Derived (source : Source) (seen : List String) (tokens : List Token)
    (defs : List Def) (file : File) : Prop where
  tokens_eq : file.tokens = tokens
  shallow : ∀ item ∈ file, item.depth ≤ maxDepth
  nodup : (file.names.reverse ++ seen).Nodup
  definitions_eq : file.definitions source.uri source.text = defs

theorem names_cons (item : Item) (file : File) (seen : List String) :
    (File.names (item :: file)).reverse ++ seen =
      file.names.reverse ++ (item.names.reverse ++ seen) := by
  rw [File.names, List.flatMap_cons, List.reverse_append, List.append_assoc]
  rfl

theorem items_sound {source : Source} {seen : List String} (fresh : seen.Nodup)
    {tokens : List Token} {defs : List Def} (eq : items eof source seen tokens = .ok defs) :
    ∃ file, Derived source seen tokens defs file := by
  -- By induction on the number of tokens; an item leaves fewer of them.
  induction length : tokens.length using Nat.strongRecOn generalizing tokens seen defs with
  | ind size ih =>
      by_cases empty : tokens = []
      · rw [empty, items_nil] at eq
        cases eq
        cases empty
        exact ⟨[], rfl, by simp, fresh, rfl⟩
      · obtain ⟨first, rest, seen', others, readFirst, declared, readOthers, rfl⟩ :=
          (items_eq_ok empty).1 eq
        obtain ⟨rfl, fresh'⟩ := (declare_eq_ok fresh).1 declared
        have fewer : rest.length < size := length ▸ readFirst.shorter
        obtain ⟨file, rfl, shallow, nodup, rfl⟩ := ih _ fewer fresh' readOthers rfl
        obtain ⟨item, fit, rfl, rfl⟩ := (recognizes_item source).sound readFirst
        rw [Item.map_name_definitions] at nodup
        refine ⟨item :: file, rfl, List.forall_mem_cons.2 ⟨fit, shallow⟩, ?_, rfl⟩
        rw [names_cons]
        exact nodup

theorem declare_append (seen : List String) (first second : List Def) :
    declare seen (first ++ second) =
      (declare seen first).bind fun seen' => declare seen' second := by
  induction first generalizing seen with
  | nil => rfl
  | cons definition rest ih =>
      rw [List.cons_append, declare, declare]
      split
      · rfl
      · exact ih _

/-- The items of a file are read one after the other, and only a name stops that. -/
theorem items_tokens {source : Source} {file : File}
    (shallow : ∀ item ∈ file, item.depth ≤ maxDepth) (seen : List String) :
    items eof source seen file.tokens =
      (declare seen (file.definitions source.uri source.text)).map
        fun _ => file.definitions source.uri source.text := by
  induction file generalizing seen with
  | nil => exact items_nil source seen
  | cons item file ih =>
      rw [List.forall_mem_cons] at shallow
      have readFirst : Reads (Parser.item eof source) (item.tokens ++ File.tokens file)
          (item.definitions source.uri source.text) (File.tokens file) :=
        (recognizes_item source).complete shallow.1 (File.apart_tokens file)
      obtain ⟨shorter, readFirst⟩ := readFirst
      have nonempty : ¬ (item.tokens ++ File.tokens file).isEmpty = true := by
        rw [List.isEmpty_iff]
        exact worded_item.append_ne_nil item _
      rw [File.definitions, List.flatMap_cons, declare_append]
      show items eof source seen (item.tokens ++ File.tokens file) = _
      rw [items, if_neg nonempty, readFirst]
      dsimp only
      cases declare seen (item.definitions source.uri source.text) with
      | error error => rfl
      | ok seen' =>
          dsimp only [Except.bind]
          rw [ih shallow.2 seen', File.definitions]
          cases declare seen' (List.flatMap _ file) <;> rfl

theorem items_complete {source : Source} {seen : List String} (fresh : seen.Nodup)
    {tokens : List Token} {defs : List Def} {file : File}
    (derived : Derived source seen tokens defs file) :
    items eof source seen tokens = .ok defs := by
  obtain ⟨rfl, shallow, nodup, rfl⟩ := derived
  rw [← File.map_name_definitions source.uri source.text] at nodup
  rw [items_tokens shallow, (declare_eq_ok fresh).2 ⟨rfl, nodup⟩]
  rfl

end Parser

/-- A text parses exactly when its tokens derive a file whose terms nest at most 256 deep
and whose names are pairwise distinct. It then parses to what the file denotes, and no
other file has these tokens. -/
theorem parse_eq_ok_iff_derived (uri text : String) :
    (∀ defs, parse uri text = .ok defs ↔
      ∃ file : Grammar.File, file.tokens = lexemes text ∧ (∀ item ∈ file, item.depth ≤ 256) ∧
        file.names.Nodup ∧ file.definitions uri text = defs) ∧
    Subsingleton {file : Grammar.File // file.tokens = lexemes text} := by
  constructor
  · intro defs
    constructor
    · intro eq
      obtain ⟨file, tokens, shallow, nodup, definitions⟩ := Parser.items_sound List.nodup_nil eq
      rw [List.append_nil, List.nodup_reverse] at nodup
      exact ⟨file, tokens, shallow, nodup, definitions⟩
    · intro parts
      obtain ⟨file, tokens, shallow, nodup, definitions⟩ := parts
      apply Parser.items_complete List.nodup_nil
      refine ⟨tokens, shallow, ?_, definitions⟩
      rw [List.append_nil, List.nodup_reverse]
      exact nodup
  · constructor
    rintro ⟨file, tokens⟩ ⟨other, tokens'⟩
    apply Subtype.ext
    exact Grammar.File.eq_of_tokens (tokens.trans tokens'.symm)

end LiveCheck
