import LiveCheck.Proofs.Language.Parts
import LiveCheck.Proofs.Text.Word

/-!
Names as words of a text.

No delimiter is part of a name, so a name that stands between delimiters is a word, and a
cursor at it finds it (`Ident.Written.at?_eq`). If the name is used in a function, the cursor
is in that function and in no other definition: every item begins with a word, so none begins
where the name ends (`touches_extent_iff`).
-/

namespace LiveCheck

open Scanner

variable {text word : String} {span other extent : Span} {offset : Nat}

/-! ## Characters of a name -/

theorem isDelimiter_of_wordPart {c : Char} (part : isWordPart c = true) :
    isDelimiter c = false := by
  simp only [isWordPart, Char.isAlphanum, Char.isAlpha, Char.isUpper, Char.isLower, Char.isDigit,
    Bool.or_eq_true, Bool.and_eq_true, decide_eq_true_eq, beq_iff_eq, UInt32.le_iff_toNat_le,
    ge_iff_le] at part
  change ((((65 ≤ c.toNat ∧ c.toNat ≤ 90) ∨ (97 ≤ c.toNat ∧ c.toNat ≤ 122)) ∨
    (48 ≤ c.toNat ∧ c.toNat ≤ 57)) ∨ c = '_') ∨ c = '.' at part
  rcases part with (alphanum | rfl) | rfl
  · rw [Bool.eq_false_iff]
    intro delimiter
    simp only [isDelimiter, isBlank, blankRanges, List.any_cons, List.any_nil, Bool.or_eq_true,
      Bool.and_eq_true, decide_eq_true_eq, List.contains_iff_mem, List.mem_cons,
      Bool.false_eq_true, or_false, List.not_mem_nil] at delimiter
    rcases delimiter with blank | bracket
    · omega
    · rcases bracket with rfl | rfl | rfl | rfl | rfl | rfl | rfl | rfl
      all_goals revert alphanum; decide
  · decide
  · decide

theorem isWordPart_of_start {c : Char} (start : isWordStart c = true) : isWordPart c = true := by
  simp only [isWordStart, Bool.or_eq_true] at start
  simp only [isWordPart, Char.isAlphanum, Bool.or_eq_true]
  tauto

theorem eq_dot_of_trailing {c : Char} (part : isWordPart c = true)
    (trailing : Word.isTrailing c = true) : c = '.' := by
  simp only [Word.isTrailing, Bool.or_eq_true, beq_iff_eq] at trailing
  rcases trailing with (rfl | dot) | rfl
  · cases part
  · exact dot
  · cases part

theorem Written.exists_start (written : Written text (.ident word) span word) :
    ∃ first run, word.toList = first :: run ∧ isWordStart first = true ∧
      ∀ c ∈ run, isWordPart c = true := by
  obtain ⟨before, chars, after, -, lexeme, -⟩ :=
    (divides 0 text.toList).lossless.lexeme _ written.token
  obtain rfl : chars = word.toList := lexeme.eq_spelling rfl
  generalize word.toList = chars at lexeme
  cases lexeme with
  | word start parts longest kinds => exact ⟨_, _, rfl, start, parts⟩
  | punctuation rest kinds => cases kinds

theorem Written.wordParts (written : Written text (.ident word) span word) :
    ∀ c ∈ word.toList, isWordPart c = true := by
  obtain ⟨first, run, chars, start, parts⟩ := written.exists_start
  rw [chars]
  exact List.forall_mem_cons.2 ⟨isWordPart_of_start start, parts⟩

theorem Written.not_delimiter (written : Written text (.ident word) span word) :
    ∀ c ∈ word.toList, isDelimiter c = false :=
  fun c mem => isDelimiter_of_wordPart (written.wordParts c mem)

theorem Spells.ne_nil (spells : Spells text span word) (proper : span.start < span.stop) :
    word.toList ≠ [] := by
  intro empty
  obtain ⟨before, after, -, rfl⟩ := spells
  rw [empty, byteLength_nil] at proper
  exact absurd proper (Nat.lt_irrefl _)

/-! ## Cursors at a name -/

/-- A name at its place, as a word. -/
def Ident.toWord (ident : Ident) : Word := ⟨ident.name.toList, ident.span⟩

/-- A cursor at a name finds the name with the marks that stick to it. -/
theorem Ident.Written.at?_of_marks {ident : Ident} (written : ident.Written text)
    {marks rest : List Char} (inner : ∀ c ∈ marks, isDelimiter c = false)
    (left : (takeBytes ident.span.start text.toList).getLast?.all isDelimiter = true)
    (follows : dropBytes ident.span.stop text.toList = marks ++ rest)
    (right : rest.head?.all isDelimiter = true) (touches : ident.span.touches offset = true) :
    Word.at? text offset = some ⟨ident.name.toList ++ marks,
      ⟨ident.span.start, ident.span.stop + byteLength marks⟩⟩ := by
  have nonempty := written.spells.ne_nil written.proper
  obtain ⟨before, after, split, place⟩ := written.spells
  rw [place] at left follows touches ⊢
  rw [← split, List.append_assoc, takeBytes_append] at left
  rw [← split, ← byteLength_append, dropBytes_append] at follows
  rw [Option.all_eq_true] at left right
  have isWord : IsWord text.toList before (ident.name.toList ++ marks) rest := by
    refine ⟨?_, fun empty => nonempty (List.append_eq_nil_iff.1 empty).1,
      List.forall_mem_append.2 ⟨written.not_delimiter, inner⟩, left, right⟩
    rw [← split, follows, List.append_assoc, List.append_assoc, List.append_assoc]
  simp only [Span.touches, Bool.and_eq_true, decide_eq_true_eq] at touches
  have inside : offset ≤ byteLength before + byteLength (ident.name.toList ++ marks) := by
    rw [byteLength_append]
    omega
  rw [isWord.at?_eq touches.1 inside, byteLength_append, Nat.add_assoc]

theorem Ident.Written.at?_eq {ident : Ident} (written : ident.Written text)
    (delimited : Delimited text ident.span) (touches : ident.span.touches offset = true) :
    Word.at? text offset = some ident.toWord := by
  have found := written.at?_of_marks (List.forall_mem_nil _) delimited.left
    (List.nil_append _).symm delimited.right touches
  rwa [List.append_nil] at found

/-- The only mark that a name may end with is a dot. -/
theorem Ident.Written.candidates_eq {ident : Ident} (written : ident.Written text) :
    (ident.toWord.candidates = [ident.name] ∧ ∀ stem, ident.name ≠ stem ++ ".") ∨
      ∃ stem, ident.name = stem ++ "." ∧ ident.toWord.candidates = [ident.name, stem] := by
  obtain ⟨first, run, chars, start, parts⟩ := written.exists_start
  have text : ident.toWord.text = ident.name := String.ofList_toList
  have ends : ∀ stem, ident.name = stem ++ "." → ident.name.toList = stem.toList ++ ['.'] := by
    intro stem same
    rw [same, String.toList_append]
    rfl
  rcases List.eq_nil_or_concat run with rfl | ⟨front, last, rfl⟩
  · refine Or.inl ⟨?_, fun stem same => ?_⟩
    · rw [← text]
      simp [Word.candidates, toWord, chars]
    · have single := (ends stem same).symm.trans chars
      rw [List.append_eq_singleton_iff] at single
      obtain ⟨-, dot⟩ | ⟨-, dot⟩ := single
      · cases dot
        cases start
      · cases dot
  · rw [List.concat_eq_append, ← List.cons_append] at chars
    have candidates : ident.toWord.candidates = _ :=
      Word.candidates_of_concat chars (List.cons_ne_nil first front)
    have part : isWordPart last = true := parts last (by simp)
    by_cases dot : last = '.'
    · subst dot
      refine Or.inr ⟨String.ofList (first :: front), ?_, ?_⟩
      · rw [← String.toList_inj, chars, String.toList_append, String.toList_ofList]
        rfl
      · rw [candidates, text]
        rfl
    · have unmarked : ¬ Word.isTrailing last = true := fun marked =>
        dot (eq_dot_of_trailing part marked)
      refine Or.inl ⟨by rw [candidates, if_neg unmarked, text], fun stem same => ?_⟩
      have cut := List.append_inj' (chars.symm.trans (ends stem same)) rfl
      exact dot (List.singleton_inj.1 cut.2)

theorem Ident.Written.exists_candidates {ident : Ident} (written : ident.Written text) :
    ∃ others, ident.toWord.candidates = ident.name :: others := by
  rcases written.candidates_eq with ⟨candidates, -⟩ | ⟨stem, -, candidates⟩
  · exact ⟨[], candidates⟩
  · exact ⟨[stem], candidates⟩

/-- A name is meant as it is written, or else without the dot at its end. -/
theorem Ident.Written.find?_candidates {ident : Ident} (written : ident.Written text)
    {known : String → Bool} {name : String}
    (meant : name = ident.name ∨ ident.name = name ++ "." ∧ known ident.name = false)
    (holds : known name = true) : ident.toWord.candidates.find? known = some name := by
  rcases written.candidates_eq with ⟨candidates, undotted⟩ | ⟨stem, dotted, candidates⟩
  · rcases meant with rfl | ⟨same, -⟩
    · rw [candidates, List.find?_cons_of_pos holds]
    · exact absurd same (undotted name)
  · rcases meant with rfl | ⟨same, unknown⟩
    · rw [candidates, List.find?_cons_of_pos holds]
    · obtain rfl : name = stem := (String.append_left_inj ".").1 (same.symm.trans dotted)
      rw [candidates, List.find?_cons_of_neg (Bool.not_eq_true _ ▸ unknown),
        List.find?_cons_of_pos holds]

theorem Ident.Written.find?_candidates_eq_none {ident : Ident} (written : ident.Written text)
    {known : String → Bool}
    (unknown : ∀ name, name = ident.name ∨ ident.name = name ++ "." → known name = false) :
    ident.toWord.candidates.find? known = none := by
  have own := unknown ident.name (Or.inl rfl)
  rcases written.candidates_eq with ⟨candidates, -⟩ | ⟨stem, dotted, candidates⟩
  · simp [candidates, own]
  · simp [candidates, own, unknown stem (Or.inr dotted)]

/-- No word begins where something ends that a delimiter follows. -/
theorem Delimited.start_ne (delimited : Delimited text span) (spells : Spells text other word)
    (proper : other.start < other.stop) (inner : ∀ c ∈ word.toList, isDelimiter c = false) :
    other.start ≠ span.stop := by
  intro same
  have nonempty := spells.ne_nil proper
  obtain ⟨before, after, split, rfl⟩ := spells
  obtain ⟨c, rest, starts⟩ := List.exists_cons_of_ne_nil nonempty
  have right := delimited.right
  rw [← same, ← split, List.append_assoc, dropBytes_append, starts] at right
  have isDelimiter : LiveCheck.isDelimiter c = true := right
  rw [inner c (starts ▸ List.mem_cons_self)] at isDelimiter
  cases isDelimiter

/-! ## Items -/

theorem PlacedItem.extent_eq {defs : List Def} (placed : PlacedItem text extent defs)
    {definition : Def} (mem : definition ∈ defs) : definition.extent = extent := by
  cases placed with
  | func function head result placed covers laid =>
      rw [List.mem_singleton.1 mem, head.covers]
  | type type begins head opening constructors closing covers laid =>
      rcases List.mem_cons.1 mem with rfl | mem
      · exact head.covers
      · obtain ⟨short, fields, -, -, head⟩ := constructors definition mem
        exact head.covers

/-- An item begins with a word. -/
theorem PlacedItem.start_ne {defs : List Def} (placed : PlacedItem text extent defs)
    (delimited : Delimited text span) : extent.start ≠ span.stop := by
  cases placed with
  | @func definition params ret body function head result placed covers laid =>
      rw [covers]
      have origin := head.origin
      have apart : definition.origin.start ≠ span.stop :=
        delimited.start_ne origin.spells origin.proper origin.not_delimiter
      exact apart
  | @type type ctors keyword opened closed isType begins head opening constructors closing covers
      laid =>
      rw [covers]
      have parts : "type".toList.all isWordPart = true := by decide
      have apart : keyword.start ≠ span.stop :=
        delimited.start_ne begins.spells begins.proper fun c mem =>
          isDelimiter_of_wordPart (List.all_eq_true.1 parts c mem)
      exact apart

/-- A function is an item of its own. Its body stands behind its name and ends with it. -/
theorem PlacedItem.function {defs : List Def} (placed : PlacedItem text extent defs)
    {definition : Def} (mem : definition ∈ defs) {params : List Param} {ret : Ident} {body : Term}
    (function : definition.body = .func params ret body) :
    defs = [definition] ∧ Placed text body ∧ extent.start < body.span.start ∧
      body.span.stop = extent.stop := by
  cases placed with
  | func isFunc head result placed covers laid =>
      obtain rfl := List.mem_singleton.1 mem
      rw [function] at isFunc
      cases isFunc
      refine ⟨rfl, placed, ?_, by rw [covers]⟩
      have behind := (List.pairwise_cons.1 laid.ordered).1 body.span (by simp)
      have proper := head.origin.proper
      rw [covers]
      exact Nat.lt_of_lt_of_le proper behind
  | type type begins head opening constructors closing covers laid =>
      rcases List.mem_cons.1 mem with rfl | mem
      · rw [function] at type
        cases type
      · obtain ⟨short, fields, isCtor, -⟩ := constructors definition mem
        rw [function] at isCtor
        cases isCtor

theorem Placed.written_of_mem_uses {term : Term} (placed : Placed text term) {ident : Ident}
    (used : ident ∈ term.uses) : ident.Written text := by
  induction placed with
  | ref written => rwa [List.mem_singleton.1 used]
  | app head opening placed closing extent laid ih =>
      rw [Term.uses_app, List.mem_cons, List.mem_flatMap] at used
      rcases used with rfl | ⟨arg, mem, used⟩
      · exact head
      · exact ih arg mem used
  | case begins scrutinized opening constructors placed closing extent laid ih =>
      rw [Term.uses_case, List.mem_cons, List.mem_flatMap] at used
      rcases used with rfl | ⟨branch, mem, used⟩
      · exact scrutinized
      · exact ih branch mem used

section Functions

variable {uri : String} {defs : List Def} {definition : Def} {params : List Param} {ret : Ident}
  {body : Term} {ident : Ident} (parsed : parse uri text = .ok defs) (mem : definition ∈ defs)
  (function : definition.body = .func params ret body) (used : ident ∈ body.uses)

include parsed mem function used

/-- A name that a function uses stands where its span says. -/
theorem written_of_used : ident.Written text := by
  obtain ⟨file, derived⟩ := Parser.items_sound List.nodup_nil parsed
  rw [← derived.definitions_eq] at mem
  obtain ⟨item, itemMem, mem⟩ := List.mem_flatMap.1 mem
  obtain ⟨-, placed, -⟩ :=
    ((Grammar.File.placed uri derived.tokens_eq).1 item itemMem).function mem function
  exact placed.written_of_mem_uses used

/-- A cursor at a name between delimiters is in the function that uses the name, and in no
other definition. -/
theorem touches_extent_iff (delimited : Delimited text ident.span)
    (touches : ident.span.touches offset = true) {other : Def} (otherMem : other ∈ defs) :
    other.extent.touches offset = true ↔ other = definition := by
  obtain ⟨file, derived⟩ := Parser.items_sound List.nodup_nil parsed
  obtain ⟨placed, ordered⟩ := Grammar.File.placed uri derived.tokens_eq
  rw [← derived.definitions_eq] at mem otherMem
  obtain ⟨item, itemMem, mem⟩ := List.mem_flatMap.1 mem
  obtain ⟨item', itemMem', otherMem⟩ := List.mem_flatMap.1 otherMem
  obtain ⟨alone, placedBody, starts, ends⟩ := (placed item itemMem).function mem function
  obtain ⟨start, stop⟩ := placedBody.within.inside ident.span (Term.span_mem_places used)
  have ownExtent := (placed item itemMem).extent_eq mem
  have otherExtent := (placed item' itemMem').extent_eq otherMem
  have notThere := (placed item' itemMem').start_ne delimited
  simp only [Span.touches, Bool.and_eq_true, decide_eq_true_eq] at touches
  have own : definition.extent.touches offset = true := by
    simp only [Span.touches, ownExtent, Bool.and_eq_true, decide_eq_true_eq]
    omega
  by_cases same : item' = item
  · rw [same, alone] at otherMem
    rw [List.mem_singleton.1 otherMem]
    exact iff_of_true own rfl
  · have symmetric : Std.Symm fun (a b : Grammar.Item) =>
        a.extent.stop ≤ b.extent.start ∨ b.extent.stop ≤ a.extent.start := ⟨fun _ _ => Or.symm⟩
    have either : file.Pairwise fun a b =>
        a.extent.stop ≤ b.extent.start ∨ b.extent.stop ≤ a.extent.start := ordered.imp Or.inl
    have apart := either.forall itemMem' itemMem same
    have elsewhere : ¬ other.extent.touches offset = true := by
      simp only [Span.touches, otherExtent, Bool.and_eq_true, decide_eq_true_eq]
      omega
    exact iff_of_false elsewhere fun eq => elsewhere (eq ▸ own)

end Functions

end LiveCheck
