import LiveCheck.Proofs.Table
import LiveCheck.Workspace.Store

/-!
The newest definition of a name among the contributions of files.

`Store.IsNewest` says which definition that is by comparing stamps; `newest?`
finds it by one pass over the contributions. Where no two files have the same
stamp the two agree, whatever order the pass takes (`foldl_newer_eq_some_iff`).
The last section follows the newest definition through the two changes a store
makes to its contributions: taking one out and adding one with a later stamp.
-/

namespace LiveCheck

namespace Store

variable {δ : Type} {files : Table (Contribution δ)} {name uri : String} {definition : δ}

/-- Some file defines `name` as `definition`, and no file that defines `name` has
a later stamp. -/
def IsNewest (files : Table (Contribution δ)) (name : String) (definition : δ) : Prop :=
  ∃ uri contribution, files.get? uri = some contribution ∧
    contribution.definitions.get? name = some definition ∧
    ∀ uri' other, files.get? uri' = some other → other.definitions.contains name = true →
      other.stamp ≤ contribution.stamp

/-- No file defines `name`. -/
def IsAbsent (files : Table (Contribution δ)) (name : String) : Prop :=
  ∀ uri contribution, files.get? uri = some contribution →
    contribution.definitions.get? name = none

/-- Different files have different stamps. -/
def StampsApart (files : Table (Contribution δ)) : Prop :=
  ∀ uri uri' contribution other, files.get? uri = some contribution →
    files.get? uri' = some other → contribution.stamp = other.stamp → uri = uri'

/-! ## One pass over the contributions -/

/-- What a pass has found after the contributions in `seen`: the definition of
`name` with the latest stamp, or none if there is no definition of `name`. -/
def IsBest (name : String) (seen : List (Contribution δ)) : Option (Nat × δ) → Prop
  | none => ∀ contribution ∈ seen, contribution.definitions.get? name = none
  | some (stamp, definition) =>
    (∃ contribution ∈ seen, contribution.stamp = stamp ∧
      contribution.definitions.get? name = some definition) ∧
    ∀ contribution ∈ seen, contribution.definitions.contains name = true →
      contribution.stamp ≤ stamp

theorem IsBest.newer {seen : List (Contribution δ)} {best : Option (Nat × δ)}
    (isBest : IsBest name seen best) (contribution : Contribution δ) :
    IsBest name (seen ++ [contribution]) (newer name best contribution) := by
  unfold Store.newer
  cases defined : contribution.definitions.get? name with
  | none =>
      have absent : ¬ contribution.definitions.contains name = true :=
        Table.not_contains.2 defined
      cases best with
      | none =>
          exact List.forall_mem_append.2 ⟨isBest, List.forall_mem_singleton.2 defined⟩
      | some held =>
          obtain ⟨⟨source, mem, found⟩, latest⟩ := isBest
          exact ⟨⟨source, List.mem_append_left _ mem, found⟩, List.forall_mem_append.2
            ⟨latest, List.forall_mem_singleton.2 fun has => absurd has absent⟩⟩
  | some definition =>
      have here : contribution ∈ seen ++ [contribution] := by simp
      cases best with
      | none =>
          refine ⟨⟨contribution, here, rfl, defined⟩, List.forall_mem_append.2
            ⟨fun other mem has => ?_, List.forall_mem_singleton.2 fun _ => Nat.le_refl _⟩⟩
          exact absurd has (Table.not_contains.2 (isBest other mem))
      | some held =>
          obtain ⟨stamp, heldDefinition⟩ := held
          obtain ⟨⟨source, mem, found⟩, latest⟩ := isBest
          dsimp only
          split
          · next le =>
            exact ⟨⟨contribution, here, rfl, defined⟩, List.forall_mem_append.2
              ⟨fun other mem has => Nat.le_trans (latest other mem has) le,
                List.forall_mem_singleton.2 fun _ => Nat.le_refl _⟩⟩
          · next later =>
            exact ⟨⟨source, List.mem_append_left _ mem, found⟩, List.forall_mem_append.2
              ⟨latest, List.forall_mem_singleton.2 fun _ => Nat.le_of_not_le later⟩⟩

theorem isBest_nil (name : String) : IsBest (δ := δ) name [] none := by
  intro contribution mem
  cases mem

theorem IsBest.foldl_newer {seen : List (Contribution δ)} {best : Option (Nat × δ)}
    (isBest : IsBest name seen best) (contributions : List (Contribution δ)) :
    IsBest name (seen ++ contributions) (contributions.foldl (Store.newer name) best) := by
  induction contributions generalizing seen best with
  | nil => simpa using isBest
  | cons first rest ih =>
      have step := ih (isBest.newer first)
      rwa [List.append_assoc] at step

/-- What a pass finds was contributed. -/
theorem exists_of_newest? (found : newest? files name = some definition) :
    ∃ uri contribution, files.get? uri = some contribution ∧
      contribution.definitions.get? name = some definition := by
  have isBest := (isBest_nil name).foldl_newer files.values
  obtain ⟨⟨stamp, best⟩, eq, rfl⟩ := Option.map_eq_some_iff.1 found
  rw [eq] at isBest
  obtain ⟨⟨contribution, mem, -, defined⟩, -⟩ := isBest
  obtain ⟨uri, entry⟩ := Table.mem_values.1 mem
  exact ⟨uri, contribution, entry, defined⟩

/-- A pass over all contributions, in any order, finds the newest definition. -/
theorem foldl_newer_eq_some_iff (apart : StampsApart files)
    {order : List (Contribution δ)} (perm : order.Perm files.values) :
    (order.foldl (newer name) none).map (·.2) = some definition ↔
      IsNewest files name definition := by
  have isBest : IsBest name order (order.foldl (newer name) none) :=
    (isBest_nil name).foldl_newer order
  have mem_order : ∀ contribution, contribution ∈ order ↔
      ∃ uri, files.get? uri = some contribution := by
    intro contribution
    rw [perm.mem_iff, Table.mem_values]
  cases found : order.foldl (newer name) none with
  | none =>
      rw [found] at isBest
      constructor
      · intro none_eq
        cases none_eq
      · intro parts
        obtain ⟨uri, contribution, entry, defined, -⟩ := parts
        rw [isBest contribution ((mem_order contribution).2 ⟨uri, entry⟩)] at defined
        cases defined
  | some best =>
      obtain ⟨stamp, held⟩ := best
      rw [found] at isBest
      obtain ⟨⟨source, mem, rfl, heldDefined⟩, latest⟩ := isBest
      obtain ⟨heldUri, heldEntry⟩ := (mem_order source).1 mem
      constructor
      · intro eq
        cases eq
        exact ⟨heldUri, source, heldEntry, heldDefined, fun uri' other entry has =>
          latest other ((mem_order other).2 ⟨uri', entry⟩) has⟩
      · intro parts
        obtain ⟨uri, contribution, entry, defined, newest⟩ := parts
        -- Each of the two is at least as new as the other, so they are one entry.
        have le := latest contribution ((mem_order contribution).2 ⟨uri, entry⟩)
          (Table.contains_eq_true.2 ⟨_, defined⟩)
        have ge := newest heldUri source heldEntry (Table.contains_eq_true.2 ⟨_, heldDefined⟩)
        have same := apart uri heldUri contribution source entry heldEntry (by omega)
        subst same
        rw [entry] at heldEntry
        cases heldEntry
        rw [defined] at heldDefined
        cases heldDefined
        rfl

theorem newest?_eq_some_iff (apart : StampsApart files) :
    newest? files name = some definition ↔ IsNewest files name definition :=
  foldl_newer_eq_some_iff apart (List.Perm.refl _)

theorem newest?_eq_none_iff : newest? files name = none ↔ IsAbsent files name := by
  have isBest := (isBest_nil name).foldl_newer files.values
  rw [newest?, Option.map_eq_none_iff]
  constructor
  · intro none_eq uri contribution entry
    rw [none_eq] at isBest
    exact isBest contribution (Table.mem_values.2 ⟨uri, entry⟩)
  · intro absent
    cases found : files.values.foldl (newer name) none with
    | none => rfl
    | some best =>
        rw [found] at isBest
        obtain ⟨⟨source, mem, -, defined⟩, -⟩ := isBest
        obtain ⟨uri, entry⟩ := Table.mem_values.1 mem
        rw [absent uri source entry] at defined
        cases defined

/-! ## Taking a contribution out and adding one -/

theorem get?_of_get?_erase {contribution : Contribution δ} {other : String}
    (entry : (files.erase uri).get? other = some contribution) :
    other ≠ uri ∧ files.get? other = some contribution := by
  rw [Table.get?_erase] at entry
  split at entry
  · cases entry
  · next ne => exact ⟨ne, entry⟩

theorem StampsApart.erase (apart : StampsApart files) (uri : String) :
    StampsApart (files.erase uri) := by
  intro first second contribution other entry entry' same
  exact apart first second contribution other (get?_of_get?_erase entry).2
    (get?_of_get?_erase entry').2 same

/-- Without the file `uri` the newest definition is the same, unless `uri` was the
file that had it. -/
theorem newest?_erase (apart : StampsApart files)
    (elsewhere : ∀ contribution definition, files.get? uri = some contribution →
      contribution.definitions.get? name = some definition →
      newest? files name ≠ some definition) :
    newest? (files.erase uri) name = newest? files name := by
  cases newest : newest? files name with
  | none =>
      rw [newest?_eq_none_iff] at newest ⊢
      intro other contribution entry
      exact newest other contribution (get?_of_get?_erase entry).2
  | some definition =>
      obtain ⟨held, contribution, entry, defined, latest⟩ :=
        (newest?_eq_some_iff apart).1 newest
      have ne : held ≠ uri := by
        rintro rfl
        exact elsewhere contribution definition entry defined newest
      rw [newest?_eq_some_iff (apart.erase uri)]
      refine ⟨held, contribution, ?_, defined, fun other theirs entry' => ?_⟩
      · rw [Table.get?_erase, if_neg ne]
        exact entry
      · exact latest other theirs (get?_of_get?_erase entry').2

theorem StampsApart.insert (apart : StampsApart files) {stamp : Nat} {definitions : Table δ}
    (later : ∀ other contribution, files.get? other = some contribution →
      contribution.stamp < stamp) :
    StampsApart (files.insert uri ⟨definitions, stamp⟩) := by
  intro first second contribution other entry entry' same
  rw [Table.get?_insert] at entry entry'
  split at entry
  · next eq =>
    cases entry
    split at entry'
    · next eq' => rw [eq, eq']
    · exact absurd same (Nat.ne_of_gt (later second other entry'))
  · split at entry'
    · cases entry'
      exact absurd same (Nat.ne_of_lt (later first contribution entry))
    · exact apart first second contribution other entry entry' same

/-- A contribution with a stamp later than all others takes over the names it has. -/
theorem newest?_insert (apart : StampsApart files) {stamp : Nat} {definitions : Table δ}
    (fresh : files.get? uri = none)
    (later : ∀ other contribution, files.get? other = some contribution →
      contribution.stamp < stamp) :
    newest? (files.insert uri ⟨definitions, stamp⟩) name =
      (definitions.get? name).or (newest? files name) := by
  have apart' : StampsApart (files.insert uri ⟨definitions, stamp⟩) := apart.insert later
  have kept : ∀ other contribution, files.get? other = some contribution →
      (files.insert uri ⟨definitions, stamp⟩).get? other = some contribution := by
    intro other contribution entry
    rw [Table.get?_insert, if_neg]
    · exact entry
    · rintro rfl
      rw [fresh] at entry
      cases entry
  cases defined : definitions.get? name with
  | some definition =>
      rw [Option.some_or, newest?_eq_some_iff apart']
      refine ⟨uri, ⟨definitions, stamp⟩, Table.get?_insert_self _ _ _, defined, ?_⟩
      intro other contribution entry _
      rw [Table.get?_insert] at entry
      split at entry
      · cases entry
        exact Nat.le_refl _
      · exact Nat.le_of_lt (later other contribution entry)
  | none =>
      rw [Option.none_or]
      cases newest : newest? files name with
      | none =>
          rw [newest?_eq_none_iff] at newest ⊢
          intro other contribution entry
          rw [Table.get?_insert] at entry
          split at entry
          · cases entry
            exact defined
          · exact newest other contribution entry
      | some definition =>
          obtain ⟨held, contribution, entry, heldDefined, latest⟩ :=
            (newest?_eq_some_iff apart).1 newest
          rw [newest?_eq_some_iff apart']
          refine ⟨held, contribution, kept held contribution entry, heldDefined, ?_⟩
          intro other theirs entry' has
          rw [Table.get?_insert] at entry'
          split at entry'
          · cases entry'
            exact absurd has (Table.not_contains.2 defined)
          · exact latest other theirs entry' has

end Store

end LiveCheck
