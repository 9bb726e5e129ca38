import LiveCheck.Proofs.Text.Cut
import LiveCheck.Text.Position
import Mathlib.Data.List.TakeWhile

/-!
The lines of a text.

`lineContents` lists what stands on the lines of a text, and `WholeLines` says that a
beginning of a text consists of a number of whole lines, each with its line break. The
starts of lines are the offsets behind such beginnings (`WholeLines.starts`), and every cut
outside of a line break falls on a line behind whole lines (`exists_wholeLines_of_cut`).
-/

namespace LiveCheck

variable {text before after rest seen content : List Char} {number : Nat} {c : Char}

/-- What stands on each line of a text, without the line breaks. -/
def lineContents : List Char → List (List Char)
  | [] => [[]]
  | '\r' :: '\n' :: rest => [] :: lineContents rest
  | c :: rest =>
    if isLineBreak c then [] :: lineContents rest
    else (lineContents rest).modifyHead (c :: ·)

/-- The first line of a text, without its line break. -/
def firstLine (text : List Char) : List Char :=
  text.takeWhile fun c => !isLineBreak c

/-- A cut between two parts falls between the two characters of one line break. -/
def CutsBreak (before after : List Char) : Prop :=
  before.getLast? = some '\r' ∧ after.head? = some '\n'

/-- No line breaks. -/
def Unbroken (text : List Char) : Prop := ∀ c ∈ text, isLineBreak c = false

theorem not_cutsBreak_of_unbroken (unbroken : Unbroken before) : ¬ CutsBreak before after := by
  intro cut
  have isBreak := unbroken '\r' (List.mem_of_getLast? cut.1)
  cases isBreak

theorem CutsBreak.cons (cut : CutsBreak before after) : CutsBreak (c :: before) after := by
  obtain ⟨last, head⟩ := cut
  refine ⟨?_, head⟩
  rw [List.getLast?_cons, last]
  rfl

theorem CutsBreak.of_append (front : List Char) (cut : CutsBreak (front ++ before) after)
    (nonempty : before ≠ []) : CutsBreak before after := by
  obtain ⟨last, head⟩ := cut
  rw [List.getLast?_append_of_ne_nil _ nonempty] at last
  exact ⟨last, head⟩

theorem not_cutsBreak_of_alone (alone : ∀ more, c = '\r' → rest = '\n' :: more → False) :
    ¬ CutsBreak [c] rest := by
  rintro ⟨last, head⟩
  obtain ⟨more, eq⟩ := List.head?_eq_some_iff.1 head
  exact alone more (Option.some.inj last) eq

theorem firstLine_begins (text : List Char) : firstLine text <+: text :=
  List.takeWhile_prefix _

theorem unbroken_firstLine (text : List Char) : Unbroken (firstLine text) := by
  intro c mem
  simpa using List.mem_takeWhile_imp mem

theorem firstLine_append (unbroken : Unbroken seen) :
    firstLine (seen ++ rest) = seen ++ firstLine rest :=
  List.takeWhile_append_of_pos fun c mem => by rw [unbroken c mem]; rfl

/-! ## Reading one character -/

theorem utf8Size_of_break (isBreak : isLineBreak c = true) : c.utf8Size = 1 := by
  rcases Bool.or_eq_true_iff.1 isBreak with eq | eq
  · rw [beq_iff_eq.1 eq]
    rfl
  · rw [beq_iff_eq.1 eq]
    rfl

theorem breaks_of_break (isBreak : isLineBreak c = true) (whole : ¬ CutsBreak [c] rest)
    (offset : Nat) : breaks offset (c :: rest) = (offset + 1) :: breaks (offset + 1) rest := by
  rw [breaks, if_pos isBreak]
  rintro more rfl rfl
  exact whole ⟨rfl, rfl⟩

theorem breaks_of_unbroken (unbroken : isLineBreak c = false) (offset : Nat) :
    breaks offset (c :: rest) = breaks (offset + c.utf8Size) rest := by
  rw [breaks, unbroken]
  · rfl
  · rintro more rfl rfl
    cases unbroken

theorem lineContents_of_break (isBreak : isLineBreak c = true) (whole : ¬ CutsBreak [c] rest) :
    lineContents (c :: rest) = [] :: lineContents rest := by
  rw [lineContents, if_pos isBreak]
  rintro more rfl rfl
  exact whole ⟨rfl, rfl⟩

theorem lineContents_of_unbroken (unbroken : isLineBreak c = false) :
    lineContents (c :: rest) = (lineContents rest).modifyHead (c :: ·) := by
  rw [lineContents, unbroken]
  · rfl
  · rintro more rfl rfl
    cases unbroken

theorem head_lineContents (text : List Char) :
    (lineContents text)[0]? = some (firstLine text) := by
  fun_induction lineContents text with
  | case1 => rfl
  | case2 => rfl
  | case3 c rest _ isBreak => simp [firstLine, isBreak]
  | case4 c rest _ unbroken ih =>
      rw [← List.head?_eq_getElem?] at ih ⊢
      rw [List.head?_modifyHead, ih]
      simp [firstLine, unbroken]

/-- Every line has a start. -/
theorem length_breaks (offset : Nat) (text : List Char) :
    (breaks offset text).length + 1 = (lineContents text).length := by
  fun_induction breaks offset text with
  | case1 => rfl
  | case2 offset rest ih => exact congrArg (· + 1) ih
  | case3 offset c rest alone isBreak ih =>
      rw [lineContents_of_break isBreak (not_cutsBreak_of_alone alone)]
      exact congrArg (· + 1) ih
  | case4 offset c rest _ unbroken ih =>
      rw [lineContents_of_unbroken (eq_false_of_ne_true unbroken), List.length_modifyHead]
      exact ih

/-- A text without line breaks goes on to the line breaks of what follows. -/
theorem breaks_append (unbroken : Unbroken seen) (offset : Nat) :
    breaks offset (seen ++ rest) = breaks (offset + byteLength seen) rest := by
  induction seen generalizing offset with
  | nil => rfl
  | cons c seen ih =>
      rw [List.cons_append, breaks_of_unbroken (unbroken c List.mem_cons_self),
        ih fun c mem => unbroken c (List.mem_cons_of_mem _ mem), byteLength_cons, Nat.add_assoc]

theorem lt_of_mem_breaks {offset start : Nat} (mem : start ∈ breaks offset text) :
    offset < start := by
  fun_induction breaks offset text with
  | case1 => cases mem
  | case2 offset rest ih =>
      rcases List.mem_cons.1 mem with rfl | mem
      · omega
      · have := ih mem
        omega
  | case3 offset c rest _ _ ih =>
      rcases List.mem_cons.1 mem with rfl | mem
      · omega
      · have := ih mem
        omega
  | case4 offset c rest _ _ ih =>
      have := ih mem
      omega

theorem pairwise_breaks (offset : Nat) (text : List Char) :
    (breaks offset text).Pairwise (· < ·) := by
  fun_induction breaks offset text with
  | case1 => exact .nil
  | case2 offset rest ih => exact .cons (fun _ => lt_of_mem_breaks) ih
  | case3 offset c rest _ _ ih => exact .cons (fun _ => lt_of_mem_breaks) ih
  | case4 offset c rest _ _ ih => exact ih

/-- The starts of lines are in order. -/
theorem pairwise_starts (text : List Char) : (0 :: breaks 0 text).Pairwise (· < ·) :=
  .cons (fun _ => lt_of_mem_breaks) (pairwise_breaks 0 text)

/-! ## Whole lines -/

/-- The text `before`, with which `before ++ rest` begins, consists of `number` lines of it
with their line breaks. -/
inductive WholeLines : Nat → List Char → List Char → Prop where
  | nil (rest : List Char) : WholeLines 0 [] rest
  | pair {number : Nat} {before rest : List Char} (lines : WholeLines number before rest) :
      WholeLines (number + 1) ('\r' :: '\n' :: before) rest
  | single {number : Nat} {before rest : List Char} {c : Char} (isBreak : isLineBreak c = true)
      (whole : ¬ CutsBreak [c] (before ++ rest)) (lines : WholeLines number before rest) :
      WholeLines (number + 1) (c :: before) rest
  | char {number : Nat} {before rest : List Char} {c : Char} (unbroken : isLineBreak c = false)
      (lines : WholeLines (number + 1) before rest) : WholeLines (number + 1) (c :: before) rest

/-- The lines behind whole lines are those of what follows. -/
theorem WholeLines.contents (lines : WholeLines number before rest) :
    (lineContents (before ++ rest)).drop number = lineContents rest := by
  induction lines with
  | nil => rfl
  | pair lines ih => exact ih
  | single isBreak whole lines ih =>
      rw [List.cons_append, lineContents_of_break isBreak whole]
      exact ih
  | char unbroken lines ih =>
      rw [List.cons_append, lineContents_of_unbroken unbroken]
      cases listed : lineContents (_ ++ _) with
      | nil => rw [listed] at ih; exact ih
      | cons line more => rw [listed] at ih; exact ih

theorem WholeLines.getElem?_contents (lines : WholeLines number before rest) :
    (lineContents (before ++ rest))[number]? = some (firstLine rest) := by
  rw [← head_lineContents, ← lines.contents, List.getElem?_drop, Nat.add_zero]

/-- The starts of the lines behind whole lines are those of what follows. -/
theorem WholeLines.starts (lines : WholeLines number before rest) (offset : Nat) :
    (offset :: breaks offset (before ++ rest)).drop number =
      (offset + byteLength before) :: breaks (offset + byteLength before) rest := by
  induction lines generalizing offset with
  | nil => rfl
  | @pair number before rest lines ih =>
      have size : byteLength ('\r' :: '\n' :: before) = 2 + byteLength before := by
        rw [byteLength_cons, byteLength_cons, ← Nat.add_assoc]
        rfl
      rw [size, ← Nat.add_assoc]
      exact ih (offset + 2)
  | single isBreak whole lines ih =>
      rw [List.cons_append, breaks_of_break isBreak whole, byteLength_cons,
        utf8Size_of_break isBreak, ← Nat.add_assoc]
      exact ih (offset + 1)
  | char unbroken lines ih =>
      rw [List.cons_append, breaks_of_unbroken unbroken, byteLength_cons, ← Nat.add_assoc]
      exact ih _

/-- What follows whole lines does not go on with their last line break. -/
theorem WholeLines.not_cutsBreak (lines : WholeLines number before rest) :
    ¬ CutsBreak before rest := by
  induction lines with
  | nil => exact fun cut => nomatch cut.1
  | @pair number before rest lines ih =>
      intro cut
      by_cases last : before = []
      · subst last
        exact absurd cut.1 (by decide)
      · exact ih (cut.of_append ['\r', '\n'] last)
  | @single number before rest c isBreak whole lines ih =>
      intro cut
      by_cases last : before = []
      · subst last
        exact whole cut
      · exact ih (cut.of_append [c] last)
  | @char number before rest c unbroken lines ih =>
      intro cut
      have more : before ≠ [] := by
        rintro rfl
        cases lines
      exact ih (cut.of_append [c] more)

/-! ## Finding whole lines -/

/-- Before every line that a text has there are whole lines. -/
theorem exists_wholeLines_of_contents (listed : (lineContents text)[number]? = some content) :
    ∃ before rest, before ++ rest = text ∧ WholeLines number before rest := by
  fun_induction lineContents text generalizing number with
  | case1 =>
      cases number with
      | zero => exact ⟨[], [], rfl, .nil _⟩
      | succ number => cases listed
  | case2 rest ih =>
      cases number with
      | zero => exact ⟨[], _, rfl, .nil _⟩
      | succ number =>
          obtain ⟨before, after, rfl, lines⟩ := ih listed
          exact ⟨'\r' :: '\n' :: before, after, rfl, .pair lines⟩
  | case3 c rest alone isBreak ih =>
      cases number with
      | zero => exact ⟨[], _, rfl, .nil _⟩
      | succ number =>
          obtain ⟨before, after, rfl, lines⟩ := ih listed
          exact ⟨c :: before, after, rfl, .single isBreak (not_cutsBreak_of_alone alone) lines⟩
  | case4 c rest _ unbroken ih =>
      cases number with
      | zero => exact ⟨[], _, rfl, .nil _⟩
      | succ number =>
          rw [List.getElem?_modifyHead] at listed
          obtain ⟨before, after, rfl, lines⟩ := ih listed
          exact ⟨c :: before, after, rfl, .char (eq_false_of_ne_true unbroken) lines⟩

/-- A cut outside of a line break falls on a line, behind whole lines and a beginning of
that line. -/
theorem exists_wholeLines_of_cut (outside : ¬ CutsBreak before after) :
    ∃ number lines seen, lines ++ seen = before ∧ WholeLines number lines (seen ++ after) ∧
      Unbroken seen := by
  fun_induction lineContents before with
  | case1 => exact ⟨0, [], [], rfl, .nil _, nofun⟩
  | case2 rest ih =>
      obtain ⟨number, lines, seen, rfl, whole, unbroken⟩ := ih fun cut => outside cut.cons.cons
      exact ⟨number + 1, '\r' :: '\n' :: lines, seen, rfl, .pair whole, unbroken⟩
  | case3 c rest alone isBreak ih =>
      obtain ⟨number, lines, seen, rfl, whole, unbroken⟩ := ih fun cut => outside cut.cons
      refine ⟨number + 1, c :: lines, seen, rfl, .single isBreak ?_ whole, unbroken⟩
      rintro ⟨last, head⟩
      -- The line feed is what follows the cut, or else the next character before it.
      rw [← List.append_assoc] at head
      cases joined : lines ++ seen with
      | nil =>
          rw [joined] at head outside
          exact outside ⟨last, head⟩
      | cons next more =>
          rw [joined] at head alone
          exact not_cutsBreak_of_alone alone ⟨last, head⟩
  | case4 c rest _ plain ih =>
      obtain ⟨number, lines, seen, rfl, whole, unbroken⟩ := ih fun cut => outside cut.cons
      have plain : isLineBreak c = false := eq_false_of_ne_true plain
      cases number with
      | zero =>
          cases whole
          exact ⟨0, [], c :: seen, rfl, .nil _, List.forall_mem_cons.2 ⟨plain, unbroken⟩⟩
      | succ number => exact ⟨number + 1, c :: lines, seen, rfl, .char plain whole, unbroken⟩

end LiveCheck
