import LiveCheck.Text.Bytes
import Mathlib.Data.List.Infix
import Mathlib.Order.Bounds.Basic

/-!
Cutting a text at a character boundary.

A cut at the length of a beginning gives back that beginning and what follows it
(`takeBytes_append`, `dropBytes_append`), and a later cut takes a longer beginning
(`takeBytes_mono`). Beginnings of one text are told apart by how long they are, in bytes
as well as in units. An offset inside a character is rounded down to the last boundary before
it (`isGreatest_floorBoundary`).
-/

namespace LiveCheck

variable {a b cs : List Char}

theorem unitSize_pos (c : Char) : 0 < unitSize c := by
  unfold unitSize
  split <;> omega

theorem unitLength_append (a b : List Char) :
    unitLength (a ++ b) = unitLength a + unitLength b := by
  induction a with
  | nil => simp [unitLength]
  | cons c rest ih => rw [List.cons_append, unitLength, unitLength, ih, Nat.add_assoc]

theorem unitLength_pos (nonempty : cs ≠ []) : 0 < unitLength cs := by
  cases cs with
  | nil => exact absurd rfl nonempty
  | cons c rest =>
      have := unitSize_pos c
      rw [unitLength]
      omega

theorem byteLength_pos (nonempty : cs ≠ []) : 0 < byteLength cs := by
  cases cs with
  | nil => exact absurd rfl nonempty
  | cons c rest =>
      have := c.utf8Size_pos
      rw [byteLength_cons]
      omega

/-! ## Cuts -/

@[simp]
theorem takeBytes_zero (cs : List Char) : takeBytes 0 cs = [] := by
  cases cs with
  | nil => rfl
  | cons c rest => rw [takeBytes, if_neg (Nat.not_le.2 c.utf8Size_pos)]

@[simp]
theorem dropBytes_zero (cs : List Char) : dropBytes 0 cs = cs := by
  cases cs with
  | nil => rfl
  | cons c rest => rw [dropBytes, if_neg (Nat.not_le.2 c.utf8Size_pos)]

@[simp]
theorem takeBytes_append (a b : List Char) : takeBytes (byteLength a) (a ++ b) = a := by
  induction a with
  | nil => simp
  | cons c rest ih =>
      rw [List.cons_append, byteLength_cons, takeBytes, if_pos (Nat.le_add_right ..),
        Nat.add_sub_cancel_left, ih]

@[simp]
theorem dropBytes_append (a b : List Char) : dropBytes (byteLength a) (a ++ b) = b := by
  induction a with
  | nil => simp
  | cons c rest ih =>
      rw [List.cons_append, byteLength_cons, dropBytes, if_pos (Nat.le_add_right ..),
        Nat.add_sub_cancel_left, ih]

theorem floorBoundary_append (a b : List Char) :
    floorBoundary (byteLength a) (a ++ b) = byteLength a := by
  rw [floorBoundary, takeBytes_append]

/-- An offset inside a character cuts before it. -/
theorem takeBytes_floorBoundary (offset : Nat) (cs : List Char) :
    takeBytes (floorBoundary offset cs) cs = takeBytes offset cs := by
  have cut := takeBytes_append (takeBytes offset cs) (dropBytes offset cs)
  rwa [takeBytes_append_dropBytes] at cut

theorem dropBytes_floorBoundary (offset : Nat) (cs : List Char) :
    dropBytes (floorBoundary offset cs) cs = dropBytes offset cs := by
  have cut := dropBytes_append (takeBytes offset cs) (dropBytes offset cs)
  rwa [takeBytes_append_dropBytes] at cut

theorem takeBytes_mono {limit limit' : Nat} (le : limit ≤ limit') (cs : List Char) :
    takeBytes limit cs <+: takeBytes limit' cs := by
  induction cs generalizing limit limit' with
  | nil => exact List.prefix_refl _
  | cons c rest ih =>
      rw [takeBytes, takeBytes]
      by_cases fits : c.utf8Size ≤ limit
      · rw [if_pos fits, if_pos (Nat.le_trans fits le)]
        exact (List.prefix_cons_inj c).2 (ih (Nat.sub_le_sub_right le _))
      · rw [if_neg fits]
        exact List.nil_prefix

/-! ## Lengths of beginnings -/

theorem unitLength_mono (prefixes : a <+: b) : unitLength a ≤ unitLength b := by
  obtain ⟨rest, rfl⟩ := prefixes
  rw [unitLength_append]
  exact Nat.le_add_right _ _

theorem byteLength_mono (prefixes : a <+: b) : byteLength a ≤ byteLength b := by
  obtain ⟨rest, rfl⟩ := prefixes
  rw [byteLength_append]
  exact Nat.le_add_right _ _

/-- Beginnings of one text with as many units are the same. -/
theorem eq_of_prefix_of_unitLength (first : a <+: cs) (second : b <+: cs)
    (same : unitLength a = unitLength b) : a = b := by
  have shorter : ∀ {a b : List Char}, a <+: b → unitLength a = unitLength b → a = b := by
    intro a b extended same
    obtain ⟨rest, rfl⟩ := extended
    rw [unitLength_append] at same
    by_cases empty : rest = []
    · rw [empty, List.append_nil]
    · have := unitLength_pos empty
      omega
  rcases List.prefix_or_prefix_of_prefix first second with extended | extended
  · exact shorter extended same
  · exact (shorter extended same.symm).symm

/-! ## Boundaries -/

/-- Between two characters, or at an end of the text. -/
def IsBoundary (cs : List Char) (offset : Nat) : Prop :=
  ∃ before after, before ++ after = cs ∧ byteLength before = offset

theorem isBoundary_zero (cs : List Char) : IsBoundary cs 0 := ⟨[], cs, rfl, rfl⟩

theorem isBoundary_floorBoundary (offset : Nat) (cs : List Char) :
    IsBoundary cs (floorBoundary offset cs) :=
  ⟨_, _, takeBytes_append_dropBytes offset cs, rfl⟩

/-- Rounding an offset down gives the last boundary up to it. -/
theorem isGreatest_floorBoundary (offset : Nat) (cs : List Char) :
    IsGreatest {place | IsBoundary cs place ∧ place ≤ min offset (byteLength cs)}
      (floorBoundary offset cs) := by
  constructor
  · refine ⟨isBoundary_floorBoundary offset cs, ?_⟩
    have fits := byteLength_takeBytes_le offset cs
    have inside : floorBoundary offset cs ≤ byteLength cs :=
      byteLength_mono ⟨_, takeBytes_append_dropBytes offset cs⟩
    exact Nat.le_min.2 ⟨fits, inside⟩
  · rintro _ ⟨⟨before, after, rfl, rfl⟩, le⟩
    have le : byteLength before ≤ offset := Nat.le_trans le (Nat.min_le_left ..)
    have mono := byteLength_mono (takeBytes_mono le (before ++ after))
    rwa [takeBytes_append] at mono

/-- Between two boundaries stands a part of the text. -/
theorem exists_between {start stop : Nat} (first : IsBoundary cs start)
    (second : IsBoundary cs stop) (le : start ≤ stop) :
    ∃ before seen after, before ++ (seen ++ after) = cs ∧ byteLength before = start ∧
      byteLength before + byteLength seen = stop := by
  obtain ⟨before, more, rfl, rfl⟩ := first
  obtain ⟨longer, after, split, rfl⟩ := second
  have front : takeBytes (byteLength longer) (before ++ more) = longer := by
    rw [← split, takeBytes_append]
  have begins : before <+: longer := by
    have := takeBytes_mono le (before ++ more)
    rwa [takeBytes_append, front] at this
  obtain ⟨seen, rfl⟩ := begins
  rw [List.append_assoc] at split
  exact ⟨before, seen, after, split, rfl, (byteLength_append _ _).symm⟩

end LiveCheck
