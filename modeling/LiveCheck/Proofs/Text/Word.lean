import LiveCheck.Proofs.Text.Cut
import LiveCheck.Text.Word
import Mathlib.Data.List.DropRight

/-!
Words of a text.

A word is a run of characters without a delimiter between delimiters or ends of the text
(`IsWord`). A cursor anywhere in it, also at one of its ends or inside a character, finds it
whole (`IsWord.at?_eq`), and a cursor finds nothing else: the words of a text are its runs
(`words_exact`).
-/

namespace LiveCheck

variable {before run after text a b : List Char} {offset limit : Nat}

/-! ## Cuts beside a beginning -/

theorem takeBytes_append_of_le (le : byteLength a ≤ limit) :
    takeBytes limit (a ++ b) = a ++ takeBytes (limit - byteLength a) b := by
  induction a generalizing limit with
  | nil => rfl
  | cons c rest ih =>
      rw [byteLength_cons] at le
      rw [List.cons_append, takeBytes, if_pos (by omega), ih (by omega), byteLength_cons,
        Nat.sub_sub, List.cons_append]

theorem takeBytes_append_left (le : limit ≤ byteLength a) :
    takeBytes limit (a ++ b) = takeBytes limit a := by
  induction a generalizing limit with
  | nil =>
      rw [byteLength_nil, Nat.le_zero] at le
      rw [le, takeBytes_zero, takeBytes_zero]
  | cons c rest ih =>
      rw [byteLength_cons] at le
      rw [List.cons_append, takeBytes, takeBytes]
      split
      · rw [ih (by omega)]
      · rfl

/-! ## Words -/

/-- A run without a delimiter that cannot be made longer. -/
structure IsWord (text before run after : List Char) : Prop where
  split : before ++ run ++ after = text
  nonempty : run ≠ []
  inner : ∀ c ∈ run, isDelimiter c = false
  left : ∀ c ∈ before.getLast?, isDelimiter c = true
  right : ∀ c ∈ after.head?, isDelimiter c = true

/-- Taking characters up to a delimiter takes those without one. -/
theorem takeWhile_not_delimiter (inner : ∀ c ∈ a, isDelimiter c = false)
    (stop : ∀ c ∈ b.head?, isDelimiter c = true) :
    (a ++ b).takeWhile (fun c => !isDelimiter c) = a := by
  rw [List.takeWhile_append_of_pos (by simpa using inner)]
  cases b with
  | nil => simp
  | cons c rest => simp [stop c rfl]

/-- Between `left` and `right` a cursor is in a run without a delimiter, or else the two are
empty. -/
structure Surrounded (front left right back : List Char) : Prop where
  inner : ∀ c ∈ left ++ right, isDelimiter c = false
  left : ∀ c ∈ front.getLast?, isDelimiter c = true
  right : ∀ c ∈ back.head?, isDelimiter c = true

theorem exists_surrounded (before after : List Char) :
    ∃ front left right back, front ++ left = before ∧ right ++ back = after ∧
      Surrounded front left right back := by
  refine ⟨_, _, _, _, List.rdropWhile_append_rtakeWhile (p := fun c => !isDelimiter c),
    List.takeWhile_append_dropWhile (p := fun c => !isDelimiter c), ?_, ?_, ?_⟩
  · intro c mem
    rcases List.mem_append.1 mem with mem | mem
    · simpa using List.mem_rtakeWhile_imp mem
    · simpa using List.mem_takeWhile_imp mem
  · intro c last
    obtain ⟨nonempty, rfl⟩ := List.mem_getLast?_eq_getLast last
    simpa using List.rdropWhile_last_not _ _ nonempty
  · intro c head
    have not := List.head?_dropWhile_not (fun c => !isDelimiter c) after
    rw [Option.mem_def.1 head] at not
    simpa using not

variable {front left right back : List Char} {text : String}

namespace Surrounded

/-- What a cursor finds is what surrounds it. -/
theorem at?_eq (around : Surrounded front left right back)
    (split : front ++ left ++ (right ++ back) = text.toList) :
    Word.at? text (byteLength (front ++ left)) =
      if left ++ right = [] then none
      else some ⟨left ++ right,
        ⟨byteLength front, byteLength front + byteLength (left ++ right)⟩⟩ := by
  obtain ⟨innerLeft, innerRight⟩ := List.forall_mem_append.1 around.inner
  have toLeft : ((front ++ left).reverse.takeWhile (fun c => !isDelimiter c)).reverse = left := by
    rw [List.reverse_append, takeWhile_not_delimiter
      (fun c mem => innerLeft c (List.mem_reverse.1 mem))
      (by simpa [List.head?_reverse] using around.left), List.reverse_reverse]
  have toRight := takeWhile_not_delimiter innerRight around.right
  have empty : (left.isEmpty && right.isEmpty) = true ↔ left ++ right = [] := by
    rw [Bool.and_eq_true, List.isEmpty_iff, List.isEmpty_iff, List.append_eq_nil_iff]
  have before : takeBytes (byteLength (front ++ left)) text.toList = front ++ left := by
    rw [← split, takeBytes_append]
  have after : dropBytes (byteLength (front ++ left)) text.toList = right ++ back := by
    rw [← split, dropBytes_append]
  simp only [Word.at?, before, after, toLeft, toRight, empty]
  simp only [byteLength_append, Nat.add_sub_cancel, Nat.add_assoc]

theorem isWord (around : Surrounded front left right back)
    (split : front ++ left ++ (right ++ back) = text.toList) (nonempty : left ++ right ≠ []) :
    IsWord text.toList front (left ++ right) back :=
  ⟨by rw [← split, List.append_assoc, List.append_assoc, List.append_assoc], nonempty,
    around.inner, around.left, around.right⟩

/-- Right before a cursor stands a character of a word unless what reaches it is empty. -/
theorem left_ne_nil_iff (around : Surrounded front left right back) :
    left ≠ [] ↔ ∃ c ∈ (front ++ left).getLast?, isDelimiter c = false := by
  constructor
  · intro nonempty
    refine ⟨left.getLast nonempty, ?_, ?_⟩
    · rw [List.getLast?_append_of_ne_nil _ nonempty]
      exact List.getLast?_eq_some_getLast nonempty
    · exact around.inner _ (List.mem_append_left _ (List.getLast_mem nonempty))
  · rintro ⟨c, last, plain⟩ rfl
    rw [List.append_nil] at last
    exact absurd (around.left c last) (by simp [plain])

theorem right_ne_nil_iff (around : Surrounded front left right back) :
    right ≠ [] ↔ ∃ c ∈ (right ++ back).head?, isDelimiter c = false := by
  constructor
  · intro nonempty
    refine ⟨right.head nonempty, ?_, ?_⟩
    · rw [List.head?_append_of_ne_nil _ nonempty]
      exact List.head?_eq_some_head nonempty
    · exact around.inner _ (List.mem_append_right _ (List.head_mem nonempty))
  · rintro ⟨c, head, plain⟩ rfl
    exact absurd (around.right c head) (by simp [plain])

end Surrounded

/-- A cursor inside a character finds what one at its start does. -/
theorem Word.at?_floor (text : String) (offset : Nat) :
    Word.at? text (floorBoundary offset text.toList) = Word.at? text offset := by
  rw [Word.at?, takeBytes_floorBoundary, dropBytes_floorBoundary]
  rfl

/-- A cursor in a word finds the word. -/
theorem IsWord.at?_eq {text : String} (word : IsWord text.toList before run after)
    (le : byteLength before ≤ offset) (ge : offset ≤ byteLength before + byteLength run) :
    Word.at? text offset =
      some ⟨run, ⟨byteLength before, byteLength before + byteLength run⟩⟩ := by
  obtain ⟨place, rfl⟩ := Nat.exists_eq_add_of_le le
  have inside : place ≤ byteLength run := by omega
  have whole := takeBytes_append_dropBytes place run
  have around : Surrounded before (takeBytes place run) (dropBytes place run) after :=
    ⟨whole.symm ▸ word.inner, word.left, word.right⟩
  have split : before ++ takeBytes place run ++ (dropBytes place run ++ after) = text.toList := by
    rw [← word.split, ← List.append_assoc, List.append_assoc before, whole]
  have cursor : floorBoundary (byteLength before + place) text.toList =
      byteLength (before ++ takeBytes place run) := by
    rw [floorBoundary, ← word.split, List.append_assoc, takeBytes_append_of_le le,
      Nat.add_sub_cancel_left, takeBytes_append_left inside]
  rw [← Word.at?_floor, cursor, around.at?_eq split, whole, if_neg word.nonempty]

/-! ## The words of a text -/

/-- A run of a text at its place. -/
def Word.IsRun (word : Word) (text : String) : Prop :=
  ∃ before after, IsWord text.toList before word.chars after ∧
    word.span = ⟨byteLength before, byteLength before + byteLength word.chars⟩

variable {word : Word}

/-- A run is what a cursor in it finds, or at one of its ends. -/
theorem Word.IsRun.at?_eq (run : word.IsRun text) (inside : word.span.touches offset = true) :
    Word.at? text offset = some word := by
  obtain ⟨chars, span⟩ := word
  obtain ⟨before, after, isWord, place⟩ := run
  dsimp only at isWord place inside
  subst place
  obtain ⟨le, ge⟩ := Bool.and_eq_true_iff.1 inside
  exact isWord.at?_eq (of_decide_eq_true le) (of_decide_eq_true ge)

/-- What a cursor finds is a run that the cursor is in, or at one of its ends. -/
theorem Surrounded.isRun (around : Surrounded front left right back)
    (split : front ++ left ++ (right ++ back) = text.toList)
    (found : Word.at? text (byteLength (front ++ left)) = some word) :
    word.IsRun text ∧ word.span.touches (byteLength (front ++ left)) = true := by
  rw [around.at?_eq split, Option.ite_none_left_eq_some, Option.some.injEq] at found
  obtain ⟨nonempty, rfl⟩ := found
  refine ⟨⟨front, back, around.isWord split nonempty, rfl⟩, ?_⟩
  simp only [Span.touches, byteLength_append, Bool.and_eq_true, decide_eq_true_eq]
  omega

/-- What surrounds the cursor at an offset. -/
theorem exists_surrounded_cursor (text : String) (offset : Nat) :
    ∃ front left right back, takeBytes offset text.toList = front ++ left ∧
      front ++ left ++ (right ++ back) = text.toList ∧ Surrounded front left right back ∧
      Word.at? text offset = Word.at? text (byteLength (front ++ left)) := by
  obtain ⟨front, left, right, back, before, after, around⟩ :=
    exists_surrounded (takeBytes offset text.toList) (dropBytes offset text.toList)
  refine ⟨front, left, right, back, before.symm, ?_, around, ?_⟩
  · rw [before, after, takeBytes_append_dropBytes]
  · rw [before]
    exact (Word.at?_floor text offset).symm

/-- A cursor finds a word unless it stands between delimiters, and then the run that it is in
or at an end of. So the words to be found are the runs of the text. -/
theorem words_exact (text : String) :
    (∀ offset, ∃ before after, before ++ after = text.toList ∧
      IsGreatest {place | IsBoundary text.toList place ∧
        place ≤ min offset (byteLength text.toList)} (byteLength before) ∧
      ((Word.at? text offset).isSome = true ↔
        (∃ c ∈ before.getLast?, isDelimiter c = false) ∨
          ∃ c ∈ after.head?, isDelimiter c = false) ∧
      ∀ word, Word.at? text offset = some word ↔
        word.IsRun text ∧ word.span.touches (byteLength before) = true) ∧
    ∀ word : Word, (∃ offset ≤ byteLength text.toList, Word.at? text offset = some word) ↔
      word.IsRun text := by
  refine ⟨fun offset => ?_, fun word => ⟨?_, ?_⟩⟩
  · obtain ⟨front, left, right, back, before, split, around, found⟩ :=
      exists_surrounded_cursor text offset
    refine ⟨front ++ left, right ++ back, split, before ▸ isGreatest_floorBoundary offset _,
      ?_, fun word => ⟨fun some => ?_, fun ⟨run, inside⟩ => ?_⟩⟩
    · rw [← around.left_ne_nil_iff, ← around.right_ne_nil_iff, found, around.at?_eq split,
        ← not_and_or, ← List.append_eq_nil_iff]
      split_ifs with empty <;> simp [empty]
    · exact around.isRun split (found ▸ some)
    · rw [found]
      exact run.at?_eq inside
  · rintro ⟨offset, -, some⟩
    obtain ⟨front, left, right, back, -, split, around, found⟩ :=
      exists_surrounded_cursor text offset
    exact (around.isRun split (found ▸ some)).1
  · intro run
    obtain ⟨before, after, isWord, place⟩ := run
    refine ⟨byteLength before, ?_, Word.IsRun.at?_eq ⟨before, after, isWord, place⟩ ?_⟩
    · rw [← isWord.split, List.append_assoc, byteLength_append]
      exact Nat.le_add_right ..
    · simp [Span.touches, place]

-- A cursor inside a character of four bytes, on a word with a mark behind its name.
example : Word.at? "(𝒳:" 3 = some ⟨['𝒳', ':'], ⟨1, 6⟩⟩ := by decide +kernel

/-! ## Names for a word -/

/-- The names for a word that is longer than its last character. -/
theorem Word.candidates_of_concat {word : Word} {stem : List Char} {last : Char}
    (split : word.chars = stem ++ [last]) (nonempty : stem ≠ []) :
    word.candidates =
      if isTrailing last then [word.text, String.ofList stem] else [word.text] := by
  obtain ⟨c, rest, reversed⟩ :=
    List.exists_cons_of_ne_nil (List.reverse_ne_nil_iff.2 nonempty)
  have front : (c :: rest).reverse = stem := by rw [← reversed, List.reverse_reverse]
  rw [candidates, split, List.reverse_concat, reversed]
  dsimp only
  rw [front]

/-! ## Between delimiters -/

/-- Right before a span and right behind it a delimiter stands, or the text ends. -/
structure Delimited (text : String) (span : Span) : Prop where
  left : (takeBytes span.start text.toList).getLast?.all isDelimiter = true
  right : (dropBytes span.stop text.toList).head?.all isDelimiter = true

end LiveCheck
