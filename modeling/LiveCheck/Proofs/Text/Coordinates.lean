import LiveCheck.Proofs.Text.Lines
import Mathlib.Data.Set.Function
import Mathlib.Order.Bounds.Basic

/-!
Byte offsets and editor positions are two coordinates for the same places.

A place is a cut of the text outside of its line breaks, or a beginning of one of its lines.
`positionAt` and `offsetAt` take the one to the other and back, in order
(`coordinates_agree`); any other position stands for the next place on its line, or else for
the end of that line or of the text.
-/

namespace LiveCheck

/-- In order of lines, and of columns within a line. -/
def Position.Before (first second : Position) : Prop :=
  first.line < second.line ∨ first.line = second.line ∧ first.character < second.character

/-- A boundary of characters that is not between the two of one line break. -/
def Addressable (text : String) (offset : Nat) : Prop :=
  ∃ before after, before ++ after = text.toList ∧ byteLength before = offset ∧
    ¬ CutsBreak before after

/-- The line is there, and the column is the length of a beginning of what stands on it. -/
def Valid (text : String) (position : Position) : Prop :=
  ∃ content seen, (lineContents text.toList)[position.line]? = some content ∧
    seen <+: content ∧ unitLength seen = position.character

variable {text : String} {before after rest lines seen content : List Char}
  {number character offset : Nat} {position : Position}

/-! ## Columns -/

/-- A column stands for the least beginning of the line that reaches it, or for the whole
line. -/
theorem exists_columnBytes (character : Nat) (content : List Char) :
    ∃ seen, seen <+: content ∧ Lines.columnBytes character content = byteLength seen ∧
      (seen = content ∨ character ≤ unitLength seen) ∧
      ∀ other, other <+: content → character ≤ unitLength other →
        unitLength seen ≤ unitLength other := by
  induction content generalizing character with
  | nil => exact ⟨[], List.nil_prefix, rfl, Or.inl rfl, fun _ _ _ => Nat.zero_le _⟩
  | cons c rest ih =>
      rw [Lines.columnBytes]
      by_cases reached : character = 0
      · rw [if_pos reached]
        exact ⟨[], List.nil_prefix, rfl, Or.inr (Nat.le_of_eq reached),
          fun _ _ _ => Nat.zero_le _⟩
      · rw [if_neg reached]
        obtain ⟨seen, prefixes, bytes, reaches, least⟩ := ih (character - unitSize c)
        refine ⟨c :: seen, (List.prefix_cons_inj c).2 prefixes, ?_, ?_, ?_⟩
        · rw [byteLength_cons, bytes]
        · rw [unitLength]
          exact reaches.imp (congrArg (c :: ·)) fun _ => by omega
        · intro other prefixes' far
          cases other with
          | nil =>
              rw [unitLength] at far
              omega
          | cons d other =>
              obtain ⟨rfl, tail⟩ := List.cons_prefix_cons.1 prefixes'
              rw [unitLength] at far ⊢
              have := least other tail (by omega)
              rw [unitLength]
              omega

/-- The column at the end of a beginning of the line stands for that beginning. -/
theorem columnBytes_unitLength (prefixes : seen <+: content) :
    Lines.columnBytes (unitLength seen) content = byteLength seen := by
  obtain ⟨found, prefixes', bytes, reaches, least⟩ := exists_columnBytes (unitLength seen) content
  have le := least seen prefixes (Nat.le_refl _)
  have ge : unitLength seen ≤ unitLength found := by
    rcases reaches with rfl | reaches
    · exact unitLength_mono prefixes
    · exact reaches
  rw [bytes, eq_of_prefix_of_unitLength prefixes' prefixes (Nat.le_antisymm le ge)]

/-! ## Both conversions, behind whole lines -/

/-- The starts of lines up to a place on the line behind whole lines: that of its own line is
the last one. -/
theorem takeWhile_starts (whole : WholeLines number lines (seen ++ rest))
    (unbroken : Unbroken seen) :
    ∃ earlier, (0 :: breaks 0 (lines ++ (seen ++ rest))).takeWhile
        (· ≤ byteLength lines + byteLength seen) = earlier ++ [byteLength lines] ∧
      earlier.length = number := by
  have dropped := whole.starts 0
  rw [Nat.zero_add, breaks_append unbroken] at dropped
  have ordered := pairwise_starts (lines ++ (seen ++ rest))
  generalize 0 :: breaks 0 (lines ++ (seen ++ rest)) = starts at dropped ordered
  have cut : starts = starts.take number ++
      byteLength lines :: breaks (byteLength lines + byteLength seen) rest := by
    rw [← dropped, List.take_append_drop]
  have length : (starts.take number).length = number := by
    have := congrArg List.length dropped
    rw [List.length_drop, List.length_cons] at this
    rw [List.length_take]
    omega
  refine ⟨starts.take number, ?_, length⟩
  rw [cut] at ordered
  have earlier := (List.pairwise_append.1 ordered).2.2
  have later : (breaks (byteLength lines + byteLength seen) rest).takeWhile
      (· ≤ byteLength lines + byteLength seen) = [] := by
    rw [List.takeWhile_eq_nil_iff]
    intro pos
    have := lt_of_mem_breaks (List.getElem_mem pos)
    simpa using this
  conv_lhs => rw [cut]
  rw [List.takeWhile_append_of_pos, List.takeWhile_cons_of_pos, later]
  · simp
  · intro start mem
    have := earlier start mem _ List.mem_cons_self
    simp only [decide_eq_true_eq]
    omega

theorem positionAt_of_wholeLines (split : lines ++ (seen ++ rest) = text.toList)
    (whole : WholeLines number lines (seen ++ rest)) (unbroken : Unbroken seen) :
    positionAt text (byteLength lines + byteLength seen) = ⟨number, unitLength seen⟩ := by
  obtain ⟨earlier, begun, length⟩ := takeWhile_starts whole unbroken
  have boundary : floorBoundary (byteLength lines + byteLength seen) text.toList =
      byteLength lines + byteLength seen := by
    rw [← split, ← List.append_assoc, ← byteLength_append, floorBoundary_append]
  unfold positionAt Lines.position Lines.ofText
  dsimp only
  rw [boundary, ← split, begun, List.getLastD_concat, List.length_append, length,
    dropBytes_append, Nat.add_sub_cancel_left, takeBytes_append]
  rfl

theorem offsetAt_of_wholeLines (split : lines ++ rest = text.toList)
    (whole : WholeLines number lines rest) (character : Nat) :
    offsetAt text ⟨number, character⟩ =
      byteLength lines + Lines.columnBytes character (firstLine rest) := by
  have start : (0 :: breaks 0 text.toList)[number]? = some (byteLength lines) := by
    rw [← split, ← Nat.add_zero number, ← List.getElem?_drop, whole.starts 0, Nat.zero_add]
    rfl
  unfold offsetAt Lines.offset Lines.ofText
  dsimp only
  rw [start]
  dsimp only [Lines.content]
  rw [← split, dropBytes_append]
  rfl

/-! ## Places -/

/-- A place in a text: behind whole lines and the beginning `seen` of the line after them. -/
structure IsPlace (text : String) (number : Nat) (lines seen rest : List Char) : Prop where
  split : lines ++ (seen ++ rest) = text.toList
  whole : WholeLines number lines (seen ++ rest)
  unbroken : Unbroken seen

namespace IsPlace

theorem seen_begins (place : IsPlace text number lines seen rest) :
    seen <+: firstLine (seen ++ rest) := by
  rw [firstLine_append place.unbroken]
  exact List.prefix_append _ _

theorem positionAt (place : IsPlace text number lines seen rest) :
    positionAt text (byteLength lines + byteLength seen) = ⟨number, unitLength seen⟩ :=
  positionAt_of_wholeLines place.split place.whole place.unbroken

theorem offsetAt (place : IsPlace text number lines seen rest) :
    offsetAt text ⟨number, unitLength seen⟩ = byteLength lines + byteLength seen := by
  rw [offsetAt_of_wholeLines place.split place.whole, columnBytes_unitLength place.seen_begins]

theorem addressable (place : IsPlace text number lines seen rest) :
    Addressable text (byteLength lines + byteLength seen) := by
  refine ⟨lines ++ seen, rest, ?_, byteLength_append _ _, ?_⟩
  · rw [List.append_assoc, place.split]
  · intro cut
    by_cases empty : seen = []
    · rw [empty, List.append_nil] at cut
      have whole := place.whole
      rw [empty] at whole
      exact whole.not_cutsBreak cut
    · exact not_cutsBreak_of_unbroken place.unbroken (cut.of_append lines empty)

theorem valid (place : IsPlace text number lines seen rest) :
    Valid text ⟨number, unitLength seen⟩ := by
  refine ⟨_, seen, ?_, place.seen_begins, rfl⟩
  rw [← place.split]
  exact place.whole.getElem?_contents

end IsPlace

theorem Addressable.exists_place (addressable : Addressable text offset) :
    ∃ number lines seen rest, IsPlace text number lines seen rest ∧
      offset = byteLength lines + byteLength seen := by
  obtain ⟨before, rest, split, rfl, outside⟩ := addressable
  obtain ⟨number, lines, seen, rfl, whole, unbroken⟩ := exists_wholeLines_of_cut outside
  rw [List.append_assoc] at split
  exact ⟨number, lines, seen, rest, ⟨split, whole, unbroken⟩, byteLength_append _ _⟩

/-- Every beginning of a line is a place. -/
theorem exists_place_of_line (listed : (lineContents text.toList)[number]? = some content)
    (prefixes : seen <+: content) :
    ∃ lines rest, IsPlace text number lines seen rest ∧ firstLine (seen ++ rest) = content := by
  obtain ⟨lines, tail, split, whole⟩ := exists_wholeLines_of_contents listed
  have first : firstLine tail = content := by
    rw [← split, whole.getElem?_contents] at listed
    exact Option.some.inj listed
  obtain ⟨rest, rfl⟩ := (first ▸ prefixes).trans (firstLine_begins tail)
  refine ⟨lines, rest, ⟨split, whole, ?_⟩, first⟩
  intro c mem
  exact unbroken_firstLine _ c (first ▸ prefixes.subset mem)

theorem Valid.exists_place (valid : Valid text position) :
    ∃ lines seen rest, IsPlace text position.line lines seen rest ∧
      unitLength seen = position.character := by
  obtain ⟨content, seen, listed, prefixes, units⟩ := valid
  obtain ⟨lines, rest, place, -⟩ := exists_place_of_line listed prefixes
  exact ⟨lines, seen, rest, place, units⟩

/-! ## Positions that are no places -/

/-- A position stands for the least place on its line that it does not pass. -/
theorem offsetAt_next {place : Position} (valid : Valid text place)
    (reached : character ≤ place.character)
    (least : ∀ other, Valid text other → other.line = place.line →
      character ≤ other.character → place.character ≤ other.character) :
    offsetAt text ⟨place.line, character⟩ = offsetAt text place := by
  obtain ⟨content, seen, listed, prefixes, units⟩ := valid
  obtain ⟨lines, rest, isPlace, first⟩ := exists_place_of_line listed prefixes
  obtain ⟨found, prefixes', bytes, reaches, least'⟩ := exists_columnBytes character content
  have le : unitLength found ≤ unitLength seen := least' seen prefixes (units ▸ reached)
  have reached' : character ≤ unitLength found := by
    rcases reaches with rfl | reaches
    · exact Nat.le_trans (units ▸ reached) (unitLength_mono prefixes)
    · exact reaches
  have ge : place.character ≤ unitLength found :=
    least ⟨place.line, unitLength found⟩ ⟨content, found, listed, prefixes', rfl⟩ rfl reached'
  have same : found = seen :=
    eq_of_prefix_of_unitLength prefixes' prefixes (Nat.le_antisymm le (units ▸ ge))
  have offset := isPlace.offsetAt
  rw [units] at offset
  rw [offsetAt_of_wholeLines isPlace.split isPlace.whole, first, bytes, same, ← offset]

theorem offsetAt_lineEnd (listed : (lineContents text.toList)[number]? = some content)
    (behind : unitLength content < character) :
    offsetAt text ⟨number, character⟩ = offsetAt text ⟨number, unitLength content⟩ := by
  obtain ⟨lines, rest, place, first⟩ := exists_place_of_line listed (List.prefix_refl content)
  obtain ⟨found, prefixes, bytes, reaches, -⟩ := exists_columnBytes character content
  have whole : found = content := by
    rcases reaches with whole | reaches
    · exact whole
    · have := unitLength_mono prefixes
      omega
  rw [place.offsetAt, offsetAt_of_wholeLines place.split place.whole, first, bytes, whole]

theorem offsetAt_textEnd (missing : (lineContents text.toList)[position.line]? = none) :
    offsetAt text position = byteLength text.toList := by
  have none : (0 :: breaks 0 text.toList)[position.line]? = none := by
    rw [List.getElem?_eq_none_iff] at missing ⊢
    rw [List.length_cons, length_breaks]
    exact missing
  unfold offsetAt Lines.offset Lines.ofText
  dsimp only
  rw [none]

/-! ## Order -/

theorem takeWhile_begins {first second : Nat} (le : first ≤ second) (starts : List Nat) :
    starts.takeWhile (· ≤ first) <+: starts.takeWhile (· ≤ second) := by
  induction starts with
  | nil => exact List.prefix_refl _
  | cons start rest ih =>
      by_cases begun : start ≤ first
      · rw [List.takeWhile_cons_of_pos (by simpa using begun),
          List.takeWhile_cons_of_pos (by simpa using Nat.le_trans begun le)]
        exact (List.prefix_cons_inj start).2 ih
      · rw [List.takeWhile_cons_of_neg (by simpa using begun)]
        exact List.nil_prefix

/-- Later offsets have later positions, or the same one. -/
theorem positionAt_mono (text : String) {first second : Nat} (le : first ≤ second) :
    (positionAt text first).line < (positionAt text second).line ∨
      (positionAt text first).line = (positionAt text second).line ∧
        (positionAt text first).character ≤ (positionAt text second).character := by
  unfold positionAt Lines.position Lines.ofText
  dsimp only
  have floors : floorBoundary first text.toList ≤ floorBoundary second text.toList :=
    byteLength_mono (takeBytes_mono le _)
  generalize floorBoundary first text.toList = first at floors
  generalize floorBoundary second text.toList = second at floors
  have begins := takeWhile_begins floors (0 :: breaks 0 text.toList)
  have one : 0 < ((0 :: breaks 0 text.toList).takeWhile (· ≤ first)).length := by
    rw [List.takeWhile_cons_of_pos (by simp)]
    exact Nat.succ_pos _
  generalize (0 :: breaks 0 text.toList).takeWhile (· ≤ first) = begun at begins one
  generalize (0 :: breaks 0 text.toList).takeWhile (· ≤ second) = begun' at begins
  rcases Nat.lt_or_ge begun.length begun'.length with fewer | asMany
  · left
    omega
  · -- The same lines have begun, so both are on one line.
    rw [begins.eq_of_length (Nat.le_antisymm begins.length_le asMany)]
    exact Or.inr ⟨rfl, unitLength_mono (takeBytes_mono (Nat.sub_le_sub_right floors _) _)⟩

/-! ## The main statement -/

/-- Offsets and positions are two coordinates for the same places of a text. -/
structure TwoCoordinates (text : String) : Prop where
  bijective : Set.BijOn (positionAt text) {offset | Addressable text offset}
    {position | Valid text position}
  inverse : Set.InvOn (offsetAt text) (positionAt text) {offset | Addressable text offset}
    {position | Valid text position}
  increasing : ∀ first second, Addressable text first → Addressable text second →
    first < second → (positionAt text first).Before (positionAt text second)
  /-- A position stands for the next place on its line. -/
  next : ∀ position place, Valid text place → place.line = position.line →
    position.character ≤ place.character →
    (∀ other, Valid text other → other.line = position.line →
      position.character ≤ other.character → place.character ≤ other.character) →
    offsetAt text position = offsetAt text place
  /-- Behind all places of its line, it stands for the end of the line. -/
  lineEnd : ∀ position content, (lineContents text.toList)[position.line]? = some content →
    (∀ other, Valid text other → other.line = position.line →
      other.character < position.character) →
    offsetAt text position = offsetAt text ⟨position.line, unitLength content⟩
  /-- On a line that is not there, it stands for the end of the text. -/
  textEnd : ∀ position, (lineContents text.toList)[position.line]? = none →
    offsetAt text position = byteLength text.toList

/-- Both conversions, on every text. -/
theorem coordinates_agree (text : String) : TwoCoordinates text := by
  have there : Set.MapsTo (positionAt text) {offset | Addressable text offset}
      {position | Valid text position} := by
    intro offset addressable
    obtain ⟨number, lines, seen, rest, place, rfl⟩ := addressable.exists_place
    exact place.positionAt ▸ place.valid
  have back : Set.MapsTo (offsetAt text) {position | Valid text position}
      {offset | Addressable text offset} := by
    intro position valid
    obtain ⟨lines, seen, rest, place, units⟩ := valid.exists_place
    have offset := place.offsetAt
    rw [units] at offset
    exact offset ▸ place.addressable
  have left : Set.LeftInvOn (offsetAt text) (positionAt text)
      {offset | Addressable text offset} := by
    intro offset addressable
    obtain ⟨number, lines, seen, rest, place, rfl⟩ := addressable.exists_place
    rw [place.positionAt, place.offsetAt]
  have right : Set.RightInvOn (offsetAt text) (positionAt text)
      {position | Valid text position} := by
    intro position valid
    obtain ⟨lines, seen, rest, place, units⟩ := valid.exists_place
    have offset := place.offsetAt
    have position := place.positionAt
    rw [units] at offset position
    rw [offset, position]
  refine ⟨Set.InvOn.bijOn ⟨left, right⟩ there back, ⟨left, right⟩, ?_, ?_, ?_, ?_⟩
  · intro first second addressable addressable' lt
    rcases positionAt_mono text (Nat.le_of_lt lt) with line | ⟨line, character⟩
    · exact Or.inl line
    · refine Or.inr ⟨line, Nat.lt_of_le_of_ne character fun same => ?_⟩
      have equal : positionAt text first = positionAt text second := by
        show (⟨(positionAt text first).line, (positionAt text first).character⟩ : Position) = _
        rw [line, same]
      have := left addressable
      rw [equal, left addressable'] at this
      omega
  · intro position place valid line reached least
    show offsetAt text ⟨position.line, position.character⟩ = _
    rw [← line]
    exact offsetAt_next valid reached fun other valid' line' =>
      least other valid' (line'.trans line)
  · intro position content listed behind
    have valid : Valid text ⟨position.line, unitLength content⟩ :=
      ⟨content, content, listed, List.prefix_refl _, rfl⟩
    exact offsetAt_lineEnd listed (behind _ valid rfl)
  · intro position missing
    exact offsetAt_textEnd missing

-- Inside a line break and inside a character of two units there are no places.
example : positionAt "a\r\n𝒳b" 2 = ⟨0, 2⟩ ∧ offsetAt "a\r\n𝒳b" ⟨0, 2⟩ = 1 ∧
    offsetAt "a\r\n𝒳b" ⟨1, 1⟩ = 7 := by decide +kernel

end LiveCheck
