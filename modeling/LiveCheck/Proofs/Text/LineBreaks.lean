import LiveCheck.Proofs.Text.Coordinates
import Mathlib.Data.Set.Card

/-!
Where line breaks end, and what a scan of a text up to an offset finds.

A line break is a carriage return with the line feed behind it, or one of the two on its own.
The offsets that `breaks` lists are those at which a line break ends (`mem_breaks`), so that a
position counts the line breaks before it and the units behind the last of them
(`scanned_position`).
-/

namespace LiveCheck

/-- A line break ends between two parts of a text. -/
inductive EndsBreak : List Char → List Char → Prop where
  | pair (front rest : List Char) : EndsBreak (front ++ ['\r', '\n']) rest
  | feed (front rest : List Char) (alone : front.getLast? ≠ some '\r') :
      EndsBreak (front ++ ['\n']) rest
  | turn (front rest : List Char) (alone : rest.head? ≠ some '\n') :
      EndsBreak (front ++ ['\r']) rest

/-- In a text that begins at `offset` a line break ends at `stop`. -/
def EndsAt (offset : Nat) (text : List Char) (stop : Nat) : Prop :=
  ∃ before after, before ++ after = text ∧ offset + byteLength before = stop ∧
    EndsBreak before after

/-- What a scan of a text up to `floor` finds: the number of line breaks that end there or
before, and the units behind the last of them. -/
structure Scanned (text : List Char) (floor : Nat) (position : Position) : Prop where
  line : position.line = {stop | EndsAt 0 text stop ∧ stop ≤ floor}.ncard
  character : ∃ before seen after, before ++ (seen ++ after) = text ∧
    IsGreatest {start | start = 0 ∨ EndsAt 0 text start ∧ start ≤ floor} (byteLength before) ∧
    byteLength before + byteLength seen = floor ∧ position.character = unitLength seen

variable {text before after rest : List Char} {c : Char} {offset floor stop : Nat}

/-! ## Line breaks -/

/-- A line break ends behind a character that ends a line and is not cut from what follows. -/
theorem endsBreak_iff :
    EndsBreak before after ↔
      (∃ c ∈ before.getLast?, isLineBreak c = true) ∧ ¬ CutsBreak before after := by
  constructor
  · intro ends
    cases ends with
    | pair front =>
        refine ⟨⟨'\n', by simp, rfl⟩, fun cut => ?_⟩
        simpa using cut.1
    | feed front =>
        refine ⟨⟨'\n', by simp, rfl⟩, fun cut => ?_⟩
        simpa using cut.1
    | turn front _ alone => exact ⟨⟨'\r', by simp, rfl⟩, fun cut => alone cut.2⟩
  · rintro ⟨⟨c, last, isBreak⟩, whole⟩
    obtain ⟨front, rfl⟩ := List.getLast?_eq_some_iff.1 last
    rcases Bool.or_eq_true_iff.1 isBreak with eq | eq
    · rw [beq_iff_eq.1 eq]
      by_cases turned : front.getLast? = some '\r'
      · obtain ⟨front, rfl⟩ := List.getLast?_eq_some_iff.1 turned
        rw [List.append_assoc]
        exact .pair front after
      · exact .feed front after turned
    · rw [beq_iff_eq.1 eq] at whole ⊢
      exact .turn front after fun fed => whole ⟨List.getLast?_concat, fed⟩

theorem endsBreak_singleton :
    EndsBreak [c] rest ↔ isLineBreak c = true ∧ ¬ CutsBreak [c] rest := by
  simp [endsBreak_iff]

/-- What ends behind later characters does not depend on the first one. -/
theorem endsBreak_cons (nonempty : before ≠ []) :
    EndsBreak (c :: before) after ↔ EndsBreak before after := by
  have last : (c :: before).getLast? = before.getLast? :=
    List.getLast?_append_of_ne_nil [c] nonempty
  rw [endsBreak_iff, endsBreak_iff, CutsBreak, CutsBreak, last]

theorem not_endsAt_nil : ¬ EndsAt offset [] stop := by
  rintro ⟨before, after, split, -, ends⟩
  rw [(List.append_eq_nil_iff.1 split).1, endsBreak_iff] at ends
  simp at ends

theorem endsAt_cons :
    EndsAt offset (c :: rest) stop ↔
      (EndsBreak [c] rest ∧ stop = offset + c.utf8Size) ∨
        EndsAt (offset + c.utf8Size) rest stop := by
  constructor
  · rintro ⟨before, after, split, rfl, ends⟩
    rcases List.append_eq_cons_iff.1 split with ⟨rfl, -⟩ | ⟨seen, rfl, rfl⟩
    · rw [endsBreak_iff] at ends
      simp at ends
    · by_cases only : seen = []
      · subst only
        exact Or.inl ⟨ends, rfl⟩
      · exact Or.inr ⟨seen, after, rfl, by rw [byteLength_cons]; omega,
          (endsBreak_cons only).1 ends⟩
  · rintro (⟨ends, rfl⟩ | ⟨seen, after, rfl, rfl, ends⟩)
    · exact ⟨[c], rest, rfl, rfl, ends⟩
    · have more : seen ≠ [] := by
        rintro rfl
        rw [endsBreak_iff] at ends
        simp at ends
      exact ⟨c :: seen, after, rfl, by rw [byteLength_cons]; omega, (endsBreak_cons more).2 ends⟩

/-- The starts of lines are the ends of line breaks. -/
theorem mem_breaks : stop ∈ breaks offset text ↔ EndsAt offset text stop := by
  fun_induction breaks offset text with
  | case1 => simp [not_endsAt_nil]
  | case2 offset rest ih =>
      -- Nothing ends between the two, and after the second one their line break does.
      have inside : ¬ EndsBreak ['\r'] ('\n' :: rest) := fun ends =>
        (endsBreak_singleton.1 ends).2 ⟨rfl, rfl⟩
      have behind : EndsBreak ['\n'] rest :=
        endsBreak_singleton.2 ⟨rfl, fun cut => absurd cut.1 (by decide)⟩
      have sizes : offset + '\r'.utf8Size + '\n'.utf8Size = offset + 2 := rfl
      rw [List.mem_cons, ih, endsAt_cons, endsAt_cons, sizes]
      simp only [inside, behind, false_and, false_or, true_and]
  | case3 offset c rest alone isBreak ih =>
      have ends : EndsBreak [c] rest :=
        endsBreak_singleton.2 ⟨isBreak, not_cutsBreak_of_alone alone⟩
      rw [List.mem_cons, ih, endsAt_cons, utf8Size_of_break isBreak]
      simp [ends]
  | case4 offset c rest _ unbroken ih =>
      have inside : ¬ EndsBreak [c] rest := fun ends => unbroken (endsBreak_singleton.1 ends).1
      rw [ih, endsAt_cons]
      simp [inside]

theorem EndsAt.isBoundary (ends : EndsAt 0 text stop) : IsBoundary text stop := by
  obtain ⟨before, after, split, bytes, -⟩ := ends
  exact ⟨before, after, split, by omega⟩

/-! ## Positions -/

theorem takeWhile_eq_filter {starts : List Nat} (ordered : starts.Pairwise (· < ·)) (bound : Nat) :
    starts.takeWhile (· ≤ bound) = starts.filter (· ≤ bound) := by
  induction starts with
  | nil => rfl
  | cons start rest ih =>
      obtain ⟨above, ordered⟩ := List.pairwise_cons.1 ordered
      by_cases begun : start ≤ bound
      · rw [List.takeWhile_cons_of_pos (by simpa using begun),
          List.filter_cons_of_pos (by simpa using begun), ih ordered]
      · have none : rest.filter (· ≤ bound) = [] := by
          rw [List.filter_eq_nil_iff]
          intro later mem
          have := above later mem
          simp only [decide_eq_true_eq]
          omega
        rw [List.takeWhile_cons_of_neg (by simpa using begun),
          List.filter_cons_of_neg (by simpa using begun), none]

/-- The line breaks that end up to an offset, in a text. -/
theorem ncard_breaks (text : List Char) (floor : Nat) :
    {stop | EndsAt 0 text stop ∧ stop ≤ floor}.ncard =
      ((breaks 0 text).takeWhile (· ≤ floor)).length := by
  have ordered := pairwise_breaks 0 text
  have listed : {stop | EndsAt 0 text stop ∧ stop ≤ floor} =
      (((breaks 0 text).filter (· ≤ floor)).toFinset : Set Nat) := by
    ext stop
    simp [mem_breaks]
  rw [takeWhile_eq_filter ordered, listed, Set.ncard_coe_finset,
    List.toFinset_card_of_nodup ((ordered.imp Nat.ne_of_lt).filter _)]

/-- The last line start up to an offset. -/
theorem isGreatest_start (text : List Char) (floor : Nat) :
    IsGreatest {start | start = 0 ∨ EndsAt 0 text start ∧ start ≤ floor}
      (((0 :: breaks 0 text).takeWhile (· ≤ floor)).getLastD 0) := by
  have ordered := pairwise_starts text
  have begun : ∀ start, start ∈ (0 :: breaks 0 text).takeWhile (· ≤ floor) ↔
      start = 0 ∨ EndsAt 0 text start ∧ start ≤ floor := by
    intro start
    rw [takeWhile_eq_filter ordered, List.mem_filter, List.mem_cons, mem_breaks,
      decide_eq_true_eq]
    exact ⟨fun ⟨either, le⟩ => either.imp_right (⟨·, le⟩),
      fun either => either.elim (fun first => ⟨Or.inl first, first ▸ Nat.zero_le _⟩)
        fun ⟨ends, le⟩ => ⟨Or.inr ends, le⟩⟩
  have sublist := ordered.sublist (List.takeWhile_sublist (· ≤ floor))
  simp only [← begun]
  rcases List.eq_nil_or_concat' ((0 :: breaks 0 text).takeWhile (· ≤ floor)) with
    none | ⟨earlier, last, split⟩
  · rw [List.takeWhile_cons_of_pos (by simp)] at none
    cases none
  · rw [split] at sublist ⊢
    rw [List.getLastD_concat]
    refine ⟨List.mem_append_right _ List.mem_cons_self, fun start mem => ?_⟩
    rcases List.mem_append.1 mem with mem | mem
    · exact Nat.le_of_lt ((List.pairwise_append.1 sublist).2.2 start mem last List.mem_cons_self)
    · exact Nat.le_of_eq (List.mem_singleton.1 mem)

/-- The column of an offset counts what stands between the last line start and its
boundary. -/
theorem exists_seen (text : String) (offset : Nat) :
    ∃ before seen after, before ++ (seen ++ after) = text.toList ∧
      ((Lines.ofText text).starts.takeWhile
        (· ≤ floorBoundary offset text.toList)).getLastD 0 = byteLength before ∧
      byteLength before + byteLength seen = floorBoundary offset text.toList ∧
      (positionAt text offset).character = unitLength seen := by
  unfold positionAt Lines.position Lines.ofText
  dsimp only
  have boundary := isBoundary_floorBoundary offset text.toList
  generalize floorBoundary offset text.toList = floor at boundary
  have greatest := isGreatest_start text.toList floor
  generalize ((0 :: breaks 0 text.toList).takeWhile (· ≤ floor)).getLastD 0 = start at greatest
  obtain ⟨begun, le⟩ : IsBoundary text.toList start ∧ start ≤ floor := by
    rcases greatest.1 with rfl | ⟨ends, le⟩
    · exact ⟨isBoundary_zero _, Nat.zero_le _⟩
    · exact ⟨ends.isBoundary, le⟩
  obtain ⟨before, seen, after, split, rfl, rfl⟩ := exists_between begun boundary le
  refine ⟨before, seen, after, split, rfl, rfl, ?_⟩
  rw [← split, dropBytes_append, Nat.add_sub_cancel_left, takeBytes_append]

/-- The position of an offset is what a scan up to its boundary finds. -/
theorem scanned_position (text : String) (offset : Nat) :
    Scanned text.toList (floorBoundary offset text.toList) (positionAt text offset) := by
  constructor
  · rw [ncard_breaks]
    unfold positionAt Lines.position Lines.ofText
    dsimp only
    rw [List.takeWhile_cons_of_pos (by simp)]
    rfl
  · obtain ⟨before, seen, after, split, start, stop, character⟩ := exists_seen text offset
    exact ⟨before, seen, after, split, start ▸ isGreatest_start .., stop, character⟩

end LiveCheck
