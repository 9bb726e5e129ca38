import LiveCheck.Language.Token.Scan
import LiveCheck.Proofs.Text.Cut
import Mathlib.Data.List.TakeWhile

/-!
What the tokens of a text are.

`Lexeme` says which characters make a token of which kind, given what follows them, and
`Lexed` how a text is made of tokens, blanks and comments. The scanner, which reads one
character at a time, finds exactly such a division (`divides`). So it loses nothing and
takes the longest words: `Lossless` says this of spans.
-/

namespace LiveCheck

open Scanner

/-! ## Lexemes -/

/-- The kind of a whole word. -/
inductive WordKind : List Char → TokenKind → Prop where
  | typeKeyword : WordKind "type".toList .typeKeyword
  | caseKeyword : WordKind "case".toList .caseKeyword
  | ident {word : List Char} (other : word ≠ "type".toList) (other' : word ≠ "case".toList) :
      WordKind word (.ident (String.ofList word))

/-- The kind of a character that is a token by itself. -/
inductive Punctuation : Char → TokenKind → Prop where
  | leftParen : Punctuation '(' .leftParen
  | rightParen : Punctuation ')' .rightParen
  | leftBrace : Punctuation '{' .leftBrace
  | rightBrace : Punctuation '}' .rightBrace
  | colon : Punctuation ':' .colon
  | comma : Punctuation ',' .comma

/-- The characters of a token, what follows them, and the kind of the token. -/
inductive Lexeme : List Char → List Char → TokenKind → Prop where
  /-- A word goes on as long as it can. -/
  | word {first : Char} {run rest : List Char} {kind : TokenKind}
      (start : isWordStart first = true) (parts : ∀ c ∈ run, isWordPart c = true)
      (longest : ∀ c ∈ rest.head?, isWordPart c = false) (kinds : WordKind (first :: run) kind) :
      Lexeme (first :: run) rest kind
  | punctuation {c : Char} {kind : TokenKind} (rest : List Char) (kinds : Punctuation c kind) :
      Lexeme [c] rest kind
  /-- A character with which neither a token nor a blank nor a comment begins. -/
  | invalid {c : Char} {rest : List Char} (space : isSpace c = false)
      (start : isWordStart c = false) (punctuation : ∀ kind, ¬ Punctuation c kind)
      (comment : ¬ (c = '/' ∧ rest.head? = some '/')) : Lexeme [c] rest .invalid

/-- From the two slashes to before the next line feed, where `rest` follows. -/
structure Comment (body rest : List Char) : Prop where
  line : '\n' ∉ body
  longest : ∀ c ∈ rest.head?, c = '\n'

/-- The tokens of a text that begins at an offset. -/
inductive Lexed : Nat → List Char → List Token → Prop where
  | nil (offset : Nat) : Lexed offset [] []
  | space {offset : Nat} {c : Char} {rest : List Char} {tokens : List Token}
      (space : isSpace c = true) (lexed : Lexed (offset + byteLength [c]) rest tokens) :
      Lexed offset ([c] ++ rest) tokens
  | comment {offset : Nat} {body rest : List Char} {tokens : List Token}
      (comment : Comment body rest)
      (lexed : Lexed (offset + byteLength ('/' :: '/' :: body)) rest tokens) :
      Lexed offset ('/' :: '/' :: body ++ rest) tokens
  | token {offset : Nat} {chars rest : List Char} {kind : TokenKind} {tokens : List Token}
      (lexeme : Lexeme chars rest kind)
      (lexed : Lexed (offset + byteLength chars) rest tokens) :
      Lexed offset (chars ++ rest) (⟨kind, ⟨offset, offset + byteLength chars⟩⟩ :: tokens)

/-! ## What the scanner finds -/

variable {offset start : Nat} {c : Char} {read run body rest text : List Char}
  {tokens : List Token}

theorem wordKind_kind (word : List Char) : WordKind word (wordKind (String.ofList word)) := by
  unfold wordKind
  split
  · next same =>
    rw [← String.toList_ofList (l := word), same]
    exact .typeKeyword
  · next other =>
    split
    · next same =>
      rw [← String.toList_ofList (l := word), same]
      exact .caseKeyword
    · next other' =>
      refine .ident ?_ ?_
      · rintro rfl
        exact other String.ofList_toList
      · rintro rfl
        exact other' String.ofList_toList

theorem punctuation?_eq_some {kind : TokenKind} (found : punctuation? c = some kind) :
    Punctuation c kind := by
  unfold punctuation? at found
  split at found <;> cases found <;> constructor

theorem not_punctuation (missing : punctuation? c = none) (kind : TokenKind) :
    ¬ Punctuation c kind := by
  intro punctuation
  cases punctuation <;> cases missing

/-- A word is read to its end. -/
theorem scan_word (parts : ∀ c ∈ run, isWordPart c = true)
    (longest : ∀ c ∈ rest.head?, isWordPart c = false) :
    scan (.word start read) offset (run ++ rest) =
      wordToken start (offset + byteLength run) (run.reverse ++ read) ::
        scan .between (offset + byteLength run) rest := by
  induction run generalizing offset read with
  | nil =>
      cases rest with
      | nil => rfl
      | cons c rest =>
          have part := longest c rfl
          simp [scan, step, part]
  | cons c run ih =>
      have part := parts c List.mem_cons_self
      rw [List.cons_append, scan, step, if_pos part, List.nil_append,
        ih fun c mem => parts c (List.mem_cons_of_mem _ mem), byteLength_cons, ← Nat.add_assoc,
        List.reverse_cons, List.append_assoc, List.singleton_append]

/-- A comment is read to its end, which leaves no token. -/
theorem scan_comment (comment : Comment body rest) :
    scan .comment offset (body ++ rest) = scan .between (offset + byteLength body) rest := by
  obtain ⟨line, longest⟩ := comment
  induction body generalizing offset with
  | nil =>
      cases rest with
      | nil => rfl
      | cons c rest =>
          obtain rfl := longest c rfl
          rfl
  | cons c body ih =>
      rw [List.mem_cons, not_or] at line
      rw [List.cons_append, scan, step, if_neg (Ne.symm line.1), List.nil_append, ih line.2,
        byteLength_cons, ← Nat.add_assoc]

theorem scan_space (space : isSpace c = true) :
    scan .between offset (c :: rest) = scan .between (offset + byteLength [c]) rest := by
  rw [scan, step, begin, if_pos space]
  rfl

theorem scan_slashes (comment : Comment body rest) :
    scan .between offset ('/' :: '/' :: body ++ rest) =
      scan .between (offset + byteLength ('/' :: '/' :: body)) rest := by
  show scan .comment (offset + 1 + 1) (body ++ rest) =
    scan .between (offset + (1 + (1 + byteLength body))) rest
  rw [scan_comment comment, Nat.add_assoc (offset + 1), Nat.add_assoc offset]

theorem scan_slash (alone : rest.head? ≠ some '/') :
    scan .between offset ('/' :: rest) =
      ⟨.invalid, ⟨offset, offset + byteLength ['/']⟩⟩ ::
        scan .between (offset + byteLength ['/']) rest := by
  cases rest with
  | nil => rfl
  | cons c rest =>
      have other : c ≠ '/' := fun same => alone (congrArg some same)
      show scan (.slash offset) (offset + byteLength ['/']) (c :: rest) = _
      rw [scan, step, if_neg other, scan]
      rfl

theorem not_space_of_start (start : isWordStart c = true) : ¬ isSpace c = true := by
  intro space
  simp only [isSpace, Bool.or_eq_true, beq_iff_eq] at space
  rcases space with (((rfl | rfl) | rfl) | rfl) | rfl <;> exact absurd start (by decide)

theorem ne_slash_of_start (start : isWordStart c = true) : c ≠ '/' := by
  rintro rfl
  exact absurd start (by decide)

theorem scan_start (start : isWordStart c = true) (parts : ∀ c ∈ run, isWordPart c = true)
    (longest : ∀ c ∈ rest.head?, isWordPart c = false) :
    scan .between offset (c :: run ++ rest) =
      ⟨wordKind (String.ofList (c :: run)), ⟨offset, offset + byteLength (c :: run)⟩⟩ ::
        scan .between (offset + byteLength (c :: run)) rest := by
  rw [List.cons_append, scan, step, begin, if_neg (not_space_of_start start),
    if_neg (ne_slash_of_start start), if_pos start, List.nil_append, scan_word parts longest,
    byteLength_cons, ← Nat.add_assoc]
  simp [wordToken]

theorem scan_single (space : isSpace c = false) (slash : c ≠ '/')
    (start : isWordStart c = false) :
    scan .between offset (c :: rest) =
      ⟨(punctuation? c).getD .invalid, ⟨offset, offset + byteLength [c]⟩⟩ ::
        scan .between (offset + byteLength [c]) rest := by
  rw [scan, step, begin, if_neg (ne_true_of_eq_false space), if_neg slash,
    if_neg (ne_true_of_eq_false start)]
  rfl

theorem head?_dropWhile (going : Char → Bool) (text : List Char) :
    ∀ c ∈ (text.dropWhile going).head?, going c = false := by
  intro c head
  have stops := List.head?_dropWhile_not going text
  rw [head] at stops
  exact stops

theorem comment_takeWhile (text : List Char) :
    Comment (text.takeWhile (· != '\n')) (text.dropWhile (· != '\n')) := by
  refine ⟨fun mem => ?_, fun c head => ?_⟩
  · simpa using List.mem_takeWhile_imp mem
  · simpa using head?_dropWhile _ _ c head

/-- The scanner at an offset divides a text as it should. -/
def Divides (offset : Nat) (text : List Char) : Prop :=
  Lexed offset text (scan .between offset text)

theorem Divides.space (divides : Divides (offset + byteLength [c]) rest)
    (space : isSpace c = true) : Divides offset (c :: rest) := by
  rw [Divides, scan_space space]
  exact .space space divides

theorem Divides.comment (divides : Divides
      (offset + byteLength ('/' :: '/' :: rest.takeWhile (· != '\n')))
      (rest.dropWhile (· != '\n'))) :
    Divides offset ('/' :: '/' :: rest) := by
  have lexed := Lexed.comment (comment_takeWhile rest) divides
  rwa [← scan_slashes (comment_takeWhile rest), List.cons_append, List.cons_append,
    List.takeWhile_append_dropWhile] at lexed

theorem Divides.slash (divides : Divides (offset + byteLength ['/']) rest)
    (alone : rest.head? ≠ some '/') : Divides offset ('/' :: rest) := by
  rw [Divides, scan_slash alone]
  exact .token (.invalid rfl rfl (not_punctuation rfl) fun both => alone both.2) divides

theorem Divides.word (divides : Divides (offset + byteLength (c :: rest.takeWhile isWordPart))
      (rest.dropWhile isWordPart)) (start : isWordStart c = true) :
    Divides offset (c :: rest) := by
  have parts : ∀ d ∈ rest.takeWhile isWordPart, isWordPart d = true :=
    fun d mem => List.mem_takeWhile_imp mem
  have longest := head?_dropWhile isWordPart rest
  have lexed := Lexed.token (.word start parts longest (wordKind_kind _)) divides
  rwa [← scan_start start parts longest, List.cons_append,
    List.takeWhile_append_dropWhile] at lexed

theorem Divides.single (divides : Divides (offset + byteLength [c]) rest)
    (space : isSpace c = false) (slash : c ≠ '/') (start : isWordStart c = false) :
    Divides offset (c :: rest) := by
  rw [Divides, scan_single space slash start]
  cases found : punctuation? c with
  | some kind => exact .token (.punctuation rest (punctuation?_eq_some found)) divides
  | none =>
      refine .token (.invalid space start (not_punctuation found) ?_) divides
      exact fun both => slash both.1

theorem divides (offset : Nat) (text : List Char) : Divides offset text := by
  -- A word or a comment is read at once, so the induction is on the length of the text.
  induction length : text.length using Nat.strong_induction_on generalizing offset text with
  | _ n ih =>
    cases text with
    | nil => exact .nil offset
    | cons c rest =>
        subst length
        have next : ∀ offset, Divides offset rest :=
          fun offset => ih _ (Nat.lt_succ_self _) offset rest rfl
        by_cases space : isSpace c = true
        · exact (next _).space space
        by_cases slash : c = '/'
        · subst slash
          by_cases doubled : rest.head? = some '/'
          · obtain ⟨more, rfl⟩ := List.head?_eq_some_iff.1 doubled
            have shorter : (more.dropWhile (· != '\n')).length < ('/' :: '/' :: more).length :=
              Nat.lt_succ_of_le (Nat.le_succ_of_le (List.dropWhile_suffix _).length_le)
            exact Divides.comment (ih _ shorter _ _ rfl)
          · exact (next _).slash doubled
        by_cases start : isWordStart c = true
        · have shorter : (rest.dropWhile isWordPart).length < (c :: rest).length :=
            Nat.lt_succ_of_le (List.dropWhile_suffix _).length_le
          exact Divides.word (ih _ shorter _ _ rfl) start
        exact (next _).single (eq_false_of_ne_true space) slash (eq_false_of_ne_true start)

/-! ## Spans -/

/-- The byte at `place` is a blank of the text that begins at `offset`. -/
def InSpace (offset : Nat) (text : List Char) (place : Nat) : Prop :=
  ∃ before c after, before ++ c :: after = text ∧ isSpace c = true ∧
    place = offset + byteLength before

/-- The byte at `place` belongs to a comment that no token reaches into. -/
def InComment (offset : Nat) (text : List Char) (tokens : List Token) (place : Nat) : Prop :=
  ∃ before body after, before ++ ('/' :: '/' :: body ++ after) = text ∧ Comment body after ∧
    offset + byteLength before ≤ place ∧
    place < offset + byteLength before + byteLength ('/' :: '/' :: body) ∧
    ∀ token ∈ tokens, token.span.stop ≤ offset + byteLength before ∨
      offset + byteLength before + byteLength ('/' :: '/' :: body) ≤ token.span.start

/-- The tokens of the text that begins at `offset` account for all of it. -/
structure Lossless (offset : Nat) (text : List Char) (tokens : List Token) : Prop where
  /-- A token stands for whole characters, which make a token of its kind. -/
  lexeme : ∀ token ∈ tokens, ∃ before chars after, before ++ (chars ++ after) = text ∧
    Lexeme chars after token.kind ∧ token.span =
      ⟨offset + byteLength before, offset + byteLength before + byteLength chars⟩
  nonempty : ∀ token ∈ tokens, token.span.start < token.span.stop
  ordered : tokens.Pairwise fun earlier later => earlier.span.stop ≤ later.span.start
  /-- Between tokens there are only blanks and comments. -/
  skipped : ∀ place, offset ≤ place → place < offset + byteLength text →
    (∀ token ∈ tokens, ¬ token.span.contains place = true) →
    InSpace offset text place ∨ InComment offset text tokens place

theorem utf8Size_of_space (space : isSpace c = true) : c.utf8Size = 1 := by
  simp only [isSpace, Bool.or_eq_true, beq_iff_eq] at space
  rcases space with (((rfl | rfl) | rfl) | rfl) | rfl <;> rfl

theorem Lexeme.ne_nil {kind : TokenKind} (lexeme : Lexeme text rest kind) : text ≠ [] := by
  cases lexeme <;> exact List.cons_ne_nil _ _

section Prepend

variable {piece : List Char} {place : Nat}

theorem InSpace.prepend (space : InSpace (offset + byteLength piece) rest place) :
    InSpace offset (piece ++ rest) place := by
  obtain ⟨before, c, after, rfl, space, rfl⟩ := space
  refine ⟨piece ++ before, c, after, List.append_assoc .., space, ?_⟩
  rw [byteLength_append, Nat.add_assoc]

theorem InComment.prepend {earlier : List Token}
    (comment : InComment (offset + byteLength piece) rest tokens place)
    (before : ∀ token ∈ earlier, token.span.stop ≤ offset + byteLength piece) :
    InComment offset (piece ++ rest) (earlier ++ tokens) place := by
  obtain ⟨front, body, after, rfl, comment, le, lt, apart⟩ := comment
  refine ⟨piece ++ front, body, after, List.append_assoc .., comment, ?_⟩
  rw [byteLength_append, ← Nat.add_assoc]
  refine ⟨le, lt, fun token mem => ?_⟩
  rcases List.mem_append.1 mem with mem | mem
  · exact Or.inl (Nat.le_trans (before token mem) (Nat.le_add_right _ _))
  · exact apart token mem

variable (lossless : Lossless (offset + byteLength piece) rest tokens)
include lossless

theorem Lossless.lexeme_prepend {token : Token} (mem : token ∈ tokens) :
    ∃ before chars after, before ++ (chars ++ after) = piece ++ rest ∧
      Lexeme chars after token.kind ∧ token.span =
        ⟨offset + byteLength before, offset + byteLength before + byteLength chars⟩ := by
  obtain ⟨before, chars, after, rfl, lexeme, span⟩ := lossless.lexeme token mem
  refine ⟨piece ++ before, chars, after, List.append_assoc .., lexeme, ?_⟩
  rw [byteLength_append, ← Nat.add_assoc]
  exact span

theorem Lossless.start_le {token : Token} (mem : token ∈ tokens) :
    offset + byteLength piece ≤ token.span.start := by
  obtain ⟨before, chars, after, -, -, span⟩ := lossless.lexeme token mem
  rw [span]
  exact Nat.le_add_right _ _

theorem Lossless.skipped_prepend (earlier : List Token)
    (before : ∀ token ∈ earlier, token.span.stop ≤ offset + byteLength piece)
    (le : offset + byteLength piece ≤ place)
    (lt : place < offset + byteLength (piece ++ rest))
    (uncovered : ∀ token ∈ tokens, ¬ token.span.contains place = true) :
    InSpace offset (piece ++ rest) place ∨
      InComment offset (piece ++ rest) (earlier ++ tokens) place := by
  rw [byteLength_append, ← Nat.add_assoc] at lt
  rcases lossless.skipped place le lt uncovered with space | comment
  · exact Or.inl space.prepend
  · exact Or.inr (comment.prepend before)

/-- Something without tokens may stand before the text. -/
theorem Lossless.skip (gap : ∀ place, offset ≤ place → place < offset + byteLength piece →
      InSpace offset (piece ++ rest) place ∨ InComment offset (piece ++ rest) tokens place) :
    Lossless offset (piece ++ rest) tokens where
  lexeme _ mem := lossless.lexeme_prepend mem
  nonempty := lossless.nonempty
  ordered := lossless.ordered
  skipped place le lt uncovered := by
    rcases Nat.lt_or_ge place (offset + byteLength piece) with inside | behind
    · exact gap place le inside
    · exact lossless.skipped_prepend [] nofun behind lt uncovered

/-- A token may stand before the text. -/
theorem Lossless.token {kind : TokenKind} (lexeme : Lexeme piece rest kind) :
    Lossless offset (piece ++ rest) (⟨kind, ⟨offset, offset + byteLength piece⟩⟩ :: tokens) where
  lexeme := by
    intro token mem
    rcases List.mem_cons.1 mem with rfl | mem
    · exact ⟨[], piece, rest, rfl, lexeme, rfl⟩
    · exact lossless.lexeme_prepend mem
  nonempty := by
    refine List.forall_mem_cons.2 ⟨?_, lossless.nonempty⟩
    have := byteLength_pos lexeme.ne_nil
    dsimp only
    omega
  ordered := .cons (fun _ mem => lossless.start_le mem) lossless.ordered
  skipped place le lt uncovered := by
    obtain ⟨outside, uncovered⟩ := List.forall_mem_cons.1 uncovered
    rcases Nat.lt_or_ge place (offset + byteLength piece) with inside | behind
    · exact absurd (by simp [Span.contains, le, inside]) outside
    · exact lossless.skipped_prepend [⟨kind, ⟨offset, offset + byteLength piece⟩⟩]
        (List.forall_mem_singleton.2 (Nat.le_refl _)) behind lt uncovered

end Prepend

/-- A text divided into tokens, blanks and comments is accounted for. -/
theorem Lexed.lossless (lexed : Lexed offset text tokens) : Lossless offset text tokens := by
  induction lexed with
  | nil offset => exact ⟨nofun, nofun, .nil, fun place le lt => by simp at lt; omega⟩
  | @space offset c rest tokens space lexed ih =>
      refine ih.skip fun place le lt => Or.inl ⟨[], c, rest, rfl, space, ?_⟩
      rw [byteLength_cons, utf8Size_of_space space, byteLength_nil] at lt
      rw [byteLength_nil]
      omega
  | @comment offset body rest tokens comment lexed ih =>
      refine ih.skip fun place le lt => Or.inr ?_
      exact ⟨[], body, rest, rfl, comment, le, lt, fun token mem => Or.inr (ih.start_le mem)⟩
  | token lexeme lexed ih => exact ih.token lexeme

/-- The tokens of a text account for all of it, and the end of the file follows them. -/
theorem tokenize_lossless (text : String) :
    ∃ tokens, tokenize text = tokens ++ [⟨.endOfFile, .empty (byteLength text.toList)⟩] ∧
      Lossless 0 text.toList tokens :=
  ⟨lexemes text, rfl, (divides 0 text.toList).lossless⟩

example : (tokenize "types 9a.b/ type//").map (·.kind) =
    [.ident "types", .invalid, .ident "a.b", .invalid, .typeKeyword, .endOfFile] := by
  decide +kernel

end LiveCheck
