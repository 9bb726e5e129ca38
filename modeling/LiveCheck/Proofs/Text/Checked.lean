import LiveCheck.Proofs.Text.Encoding
import LiveCheck.Proofs.Text.LineBreaks
import Mathlib.Data.Prod.Lex

/-!
Finding the position of an offset by bytes, with every access checked.

`locate?` reads a text as its bytes in UTF-8, finds a line by halving the list of line starts
and counts in words of 32 bits. It fails where an access misses, a cut falls inside a character
or a number does not fit. On a text of fewer than 2 ^ 32 bytes none of this happens, and it
finds the position that the characters have (`locate?_eq`), which is what a scan of the text
finds (`positionAt_scans`).
-/

namespace LiveCheck

/-- The offsets right after each line break of a text that begins at `offset`, from its bytes. -/
def byteBreaks (offset : Nat) : List UInt8 → List Nat
  | [] => []
  | 13 :: 10 :: rest => (offset + 2) :: byteBreaks (offset + 2) rest
  | byte :: rest =>
    if byte = 13 ∨ byte = 10 then (offset + 1) :: byteBreaks (offset + 1) rest
    else byteBreaks (offset + 1) rest

/-- How many of the first numbers of an increasing list are at most `bound`, by halving the
part from `low` up to `high`. -/
def halve? (bound : Nat) (starts : List Nat) (low high : Nat) : Option Nat :=
  if low < high then
    match starts[(low + high) / 2]? with
    | none => none
    | some start =>
      if start ≤ bound then halve? bound starts ((low + high) / 2 + 1) high
      else halve? bound starts low ((low + high) / 2)
  else some low
termination_by high - low

/-- The text from `start` up to `stop`, if both are boundaries and in order. -/
def slice? (text : List Char) (start stop : Nat) : Option (List Char) :=
  let seen := takeBytes (stop - start) (dropBytes start text)
  if floorBoundary start text = start ∧ start + byteLength seen = stop then some seen else none

/-- The position of the byte at `offset`. -/
def locate? (text : String) (offset : Nat) : Option Position := do
  let starts := 0 :: byteBreaks 0 (text.toList.flatMap String.utf8EncodeChar)
  guard (∀ start ∈ starts, start < 2 ^ 32)
  let floor := floorBoundary offset text.toList
  guard (floor < 2 ^ 32)
  let begun ← halve? floor starts 0 starts.length
  guard (0 < begun)
  let start ← starts[begun - 1]?
  let seen ← slice? text.toList start floor
  guard (begun - 1 < 2 ^ 32 ∧ unitLength seen < 2 ^ 32)
  return ⟨begun - 1, unitLength seen⟩

variable {text before seen after : List Char} {starts : List Nat} {c : Char}
  {offset bound low high : Nat}

/-! ## Bytes -/

theorem byteBreaks_of_plain {front bytes : List UInt8}
    (plain : ∀ byte ∈ front, ¬ (byte = 13 ∨ byte = 10)) (offset : Nat) :
    byteBreaks offset (front ++ bytes) = byteBreaks (offset + front.length) bytes := by
  induction front generalizing offset with
  | nil => rfl
  | cons byte front ih =>
      obtain ⟨here, plain⟩ := List.forall_mem_cons.1 plain
      rw [List.cons_append, byteBreaks, if_neg here, ih plain, List.length_cons]
      · congr 1
        omega
      · rintro more rfl -
        exact here (Or.inl rfl)

theorem byteBreaks_of_break {byte : UInt8} {bytes : List UInt8}
    (isBreak : byte = 13 ∨ byte = 10) (whole : byte = 13 → bytes.head? ≠ some 10)
    (offset : Nat) :
    byteBreaks offset (byte :: bytes) = (offset + 1) :: byteBreaks (offset + 1) bytes := by
  rw [byteBreaks, if_pos isBreak]
  rintro more rfl rfl
  exact whole rfl rfl

/-- Line breaks are where the bytes of a text have them. -/
theorem byteBreaks_utf8 (offset : Nat) (text : List Char) :
    byteBreaks offset (text.flatMap String.utf8EncodeChar) = breaks offset text := by
  fun_induction breaks offset text with
  | case1 => rfl
  | case2 offset rest ih => exact congrArg ((offset + 2) :: ·) ih
  | case3 offset c rest alone isBreak ih =>
      rw [List.flatMap_cons, ← ih]
      rcases Bool.or_eq_true_iff.1 isBreak with eq | eq
      · rw [beq_iff_eq.1 eq]
        have isFeed : UInt8.ofNat '\n'.toNat ≠ 13 := by decide
        exact byteBreaks_of_break (Or.inr rfl) (fun turn => absurd turn isFeed) offset
      · rw [beq_iff_eq.1 eq] at alone ⊢
        refine byteBreaks_of_break (Or.inl rfl) (fun _ feeds => ?_) offset
        exact not_cutsBreak_of_alone alone ⟨rfl, (head?_utf8Encode (d := '\n') (by decide)).1 feeds⟩
  | case4 offset c rest _ unbroken ih =>
      have plain : ∀ byte ∈ String.utf8EncodeChar c, ¬ (byte = 13 ∨ byte = 10) := by
        rintro byte mem (rfl | rfl)
        · exact unbroken (eq_of_mem_utf8EncodeChar (d := '\r') (by decide) mem ▸ rfl)
        · exact unbroken (eq_of_mem_utf8EncodeChar (d := '\n') (by decide) mem ▸ rfl)
      rw [List.flatMap_cons, byteBreaks_of_plain plain, String.length_utf8EncodeChar, ih]

/-! ## Halving -/

/-- In an increasing list, the numbers up to a bound come first. -/
theorem getElem?_le_iff (ordered : starts.Pairwise (· < ·)) {place start : Nat}
    (listed : starts[place]? = some start) :
    start ≤ bound ↔ place < (starts.takeWhile (· ≤ bound)).length := by
  induction starts generalizing place with
  | nil => cases listed
  | cons first rest ih =>
      obtain ⟨above, ordered⟩ := List.pairwise_cons.1 ordered
      by_cases begun : first ≤ bound
      · rw [List.takeWhile_cons_of_pos (by simpa using begun), List.length_cons]
        cases place with
        | zero =>
            obtain rfl := Option.some.inj listed
            omega
        | succ place =>
            rw [ih ordered listed]
            omega
      · rw [List.takeWhile_cons_of_neg (by simpa using begun)]
        have le : first ≤ start := by
          cases place with
          | zero => exact Nat.le_of_eq (Option.some.inj listed)
          | succ place => exact Nat.le_of_lt (above start (List.mem_of_getElem? listed))
        simp only [List.length_nil, Nat.not_lt_zero, iff_false]
        omega

theorem halve?_eq (ordered : starts.Pairwise (· < ·))
    (above : low ≤ (starts.takeWhile (· ≤ bound)).length)
    (below : (starts.takeWhile (· ≤ bound)).length ≤ high) (inside : high ≤ starts.length) :
    halve? bound starts low high = some (starts.takeWhile (· ≤ bound)).length := by
  fun_induction halve? bound starts low high with
  | case1 low high lt missed =>
      rw [List.getElem?_eq_none_iff] at missed
      omega
  | case2 low high lt start listed begun ih =>
      have := (getElem?_le_iff ordered listed).1 begun
      exact ih (by omega) below inside
  | case3 low high lt start listed later ih =>
      have := mt (getElem?_le_iff ordered listed).2 later
      exact ih above (by omega) (by omega)
  | case4 low high ge =>
      rw [Nat.le_antisymm above (by omega)]

/-! ## Checked accesses -/

/-- A cut between two boundaries gives what stands between them. -/
theorem slice?_eq_some_iff {start stop : Nat} :
    slice? text start stop = some seen ↔
      ∃ before after, before ++ (seen ++ after) = text ∧ byteLength before = start ∧
        byteLength before + byteLength seen = stop := by
  rw [slice?, Option.ite_none_right_eq_some, Option.some.injEq]
  constructor
  · rintro ⟨⟨first, second⟩, rfl⟩
    refine ⟨takeBytes start text, dropBytes (stop - start) (dropBytes start text), ?_, first, ?_⟩
    · rw [takeBytes_append_dropBytes, takeBytes_append_dropBytes]
    · exact (congrArg (· + _) first).trans second
  · rintro ⟨before, after, rfl, rfl, rfl⟩
    rw [floorBoundary_append, dropBytes_append, Nat.add_sub_cancel_left, takeBytes_append]
    exact ⟨⟨rfl, rfl⟩, rfl⟩

/-- The last of the numbers at the front of a list stands where their count says. -/
theorem getElem?_takeWhile {front : Nat → Bool} (any : 0 < (starts.takeWhile front).length) :
    starts[(starts.takeWhile front).length - 1]? = some ((starts.takeWhile front).getLastD 0) := by
  obtain ⟨rest, split⟩ := List.takeWhile_prefix (l := starts) front
  generalize starts.takeWhile front = begun at any split
  rw [← split, List.getElem?_append_left (by omega), ← List.getLast?_eq_getElem?,
    List.getLastD_eq_getLast?, List.getLast?_eq_some_getLast (List.ne_nil_of_length_pos any)]
  rfl

/-! ## Sizes -/

theorem unitSize_le (c : Char) : unitSize c ≤ c.utf8Size := by
  rw [unitSize]
  split
  · exact c.utf8Size_pos
  · rename_i large
    have above : ¬ c.val.toNat ≤ 0xFFFF := fun le => large (Nat.lt_succ_of_le le)
    simp only [Char.utf8Size, UInt32.le_iff_toNat_le, UInt32.toNat_ofNatLT]
    split_ifs <;> omega

theorem unitLength_le (text : List Char) : unitLength text ≤ byteLength text := by
  induction text with
  | nil => exact Nat.le_refl _
  | cons c rest ih => exact Nat.add_le_add (unitSize_le c) ih

theorem EndsAt.le {stop : Nat} (ends : EndsAt 0 text stop) : stop ≤ byteLength text := by
  obtain ⟨before, after, rfl, rfl, -⟩ := ends
  rw [byteLength_append]
  omega

theorem length_breaks_le (offset : Nat) (text : List Char) :
    (breaks offset text).length ≤ byteLength text := by
  fun_induction breaks offset text with
  | case1 => exact Nat.le_refl _
  | case2 offset rest ih =>
      have size : byteLength ('\r' :: '\n' :: rest) = 1 + (1 + byteLength rest) := rfl
      rw [List.length_cons, size]
      omega
  | case3 offset c rest _ isBreak ih =>
      rw [List.length_cons, byteLength_cons, utf8Size_of_break isBreak]
      omega
  | case4 offset c rest _ _ ih => exact Nat.le_trans ih (Nat.le_add_left ..)

/-- A position counts no more lines than there are bytes, and no more units. -/
theorem positionAt_le (text : String) (offset : Nat) :
    (positionAt text offset).line ≤ byteLength text.toList ∧
      (positionAt text offset).character ≤ byteLength text.toList := by
  constructor
  · have begun : ((Lines.ofText text).starts.takeWhile
        (· ≤ floorBoundary offset text.toList)).length ≤ (breaks 0 text.toList).length + 1 :=
      (List.takeWhile_prefix _).length_le
    exact (Nat.sub_le_sub_right begun 1).trans (length_breaks_le 0 _)
  · obtain ⟨before, seen, after, split, -, -, character⟩ := exists_seen text offset
    have := unitLength_le seen
    rw [character, ← split, byteLength_append, byteLength_append]
    omega

/-- On a text of fewer than 2 ^ 32 bytes every access hits and every number fits. -/
theorem locate?_eq {text : String} (small : byteLength text.toList < 2 ^ 32) (offset : Nat) :
    locate? text offset = some (positionAt text offset) := by
  let starts := (Lines.ofText text).starts
  let floor := floorBoundary offset text.toList
  let begun := starts.takeWhile (· ≤ floor)
  obtain ⟨before, seen, after, split, start, stop, character⟩ := exists_seen text offset
  have position : positionAt text offset = ⟨begun.length - 1, unitLength seen⟩ := by
    rw [← character]
    rfl
  have startsFit : ∀ start ∈ starts, start < 2 ^ 32 := by
    refine List.forall_mem_cons.2 ⟨by decide, fun start mem => ?_⟩
    exact Nat.lt_of_le_of_lt (mem_breaks.1 mem).le small
  have floorFits : floor < 2 ^ 32 :=
    Nat.lt_of_le_of_lt (byteLength_mono ⟨_, takeBytes_append_dropBytes offset _⟩) small
  have found : halve? floor starts 0 starts.length = some begun.length :=
    halve?_eq (pairwise_starts text.toList) (Nat.zero_le _) (List.takeWhile_prefix _).length_le
      (Nat.le_refl _)
  have any : 0 < begun.length := by
    show 0 < (List.takeWhile _ (0 :: _)).length
    rw [List.takeWhile_cons_of_pos (by simp)]
    exact Nat.succ_pos _
  have listed : starts[begun.length - 1]? = some (byteLength before) :=
    start ▸ getElem?_takeWhile any
  have cut : slice? text.toList (byteLength before) floor = some seen :=
    slice?_eq_some_iff.2 ⟨before, after, split, rfl, stop⟩
  have countsFit : begun.length - 1 < 2 ^ 32 ∧ unitLength seen < 2 ^ 32 := by
    have ⟨line, units⟩ := positionAt_le text offset
    rw [position] at line units
    exact ⟨Nat.lt_of_le_of_lt line small, Nat.lt_of_le_of_lt units small⟩
  rw [position]
  simp only [locate?, byteBreaks_utf8]
  change (do
    guard (∀ start ∈ starts, start < 2 ^ 32)
    guard (floor < 2 ^ 32)
    let begun ← halve? floor starts 0 starts.length
    guard (0 < begun)
    let start ← starts[begun - 1]?
    let seen ← slice? text.toList start floor
    guard (begun - 1 < 2 ^ 32 ∧ unitLength seen < 2 ^ 32)
    return (⟨begun - 1, unitLength seen⟩ : Position)) = _
  simp only [guard, if_pos startsFit, if_pos floorFits, if_pos any, if_pos countsFit, found,
    listed, cut, Option.pure_def, Option.bind_eq_bind, Option.bind_some]

/-! ## The main statement -/

/-- In order of lines, and of columns within a line. -/
instance : Preorder Position :=
  Preorder.lift fun position => toLex (position.line, position.character)

theorem monotone_positionAt (text : String) : Monotone (positionAt text) := by
  intro first second le
  exact Prod.Lex.le_iff.2 (positionAt_mono text le)

/-- An offset has the position that a scan up to its boundary finds, with no access that misses.
Later offsets have later positions, or the same one. -/
theorem positionAt_scans {text : String} (small : byteLength text.toList < 2 ^ 32) :
    (∀ offset,
      IsGreatest {place | IsBoundary text.toList place ∧
          place ≤ min offset (byteLength text.toList)} (floorBoundary offset text.toList) ∧
        Scanned text.toList (floorBoundary offset text.toList) (positionAt text offset) ∧
        locate? text offset = some (positionAt text offset)) ∧
      Monotone (positionAt text) ∧
      ∀ span, span.start ≤ span.stop →
        ((Lines.ofText text).range span).start ≤ ((Lines.ofText text).range span).stop := by
  refine ⟨fun offset => ⟨isGreatest_floorBoundary offset _, scanned_position text offset,
    locate?_eq small offset⟩, monotone_positionAt text, fun span le => ?_⟩
  exact monotone_positionAt text le

/-- All three kinds of line breaks, and offsets inside a character and behind the text. -/
theorem positionAt_scans_mixed :
    let text := "a\r\n𝒳\n\rb"
    byteLength text.toList < 2 ^ 32 ∧
      IsGreatest {place | IsBoundary text.toList place ∧ place ≤ min 6 (byteLength text.toList)} 3 ∧
      Scanned text.toList 3 ⟨1, 0⟩ ∧ locate? text 6 = some ⟨1, 0⟩ ∧
      locate? text 99 = some ⟨3, 1⟩ ∧ (⟨1, 0⟩ : Position) ≤ ⟨3, 1⟩ ∧
      ((Lines.ofText text).range ⟨6, 99⟩).start ≤ ((Lines.ofText text).range ⟨6, 99⟩).stop := by
  intro text
  have small : byteLength text.toList < 2 ^ 32 := by decide
  obtain ⟨located, monotone, ranges⟩ := positionAt_scans small
  have inside : positionAt text 6 = ⟨1, 0⟩ := by decide +kernel
  have behind : positionAt text 99 = ⟨3, 1⟩ := by decide +kernel
  have floor : floorBoundary 6 text.toList = 3 := by decide
  refine ⟨small, floor ▸ (located 6).1, ?_, inside ▸ (located 6).2.2, behind ▸ (located 99).2.2, ?_,
    ranges ⟨6, 99⟩ (by decide)⟩
  · exact inside ▸ floor ▸ (located 6).2.1
  · exact inside ▸ behind ▸ monotone (by decide : 6 ≤ 99)

end LiveCheck
