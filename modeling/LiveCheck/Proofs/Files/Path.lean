import LiveCheck.Files.Path
import LiveCheck.Proofs.Text.Encoding
import Mathlib.Data.List.Lex
import Mathlib.Data.List.TakeWhile
import Mathlib.Tactic.MkIffOfInductiveProp

/-!
The components of a path, and their order.

A path that is extended by a name has one more component (`components_join`), whatever slashes
and dots it is written with. Paths are ordered by their components, and of two paths with
different components one comes before the other (`before_trichotomy`), so they can be put in only
one ascending order (`Ascending.eq_of_mem_iff`). What lies below a path stands together: two paths
that part at some name are in the order of the names there (`before_along`).
-/

namespace LiveCheck

/-! ## Names -/

namespace FileName

variable {name extension : FileName} {text : String}

theorem text?_eq_some_iff : name.text? = some text ↔ name = ofText text := by
  rw [text?, textOf?_eq_some_iff]
  cases name
  exact (FileName.mk.injEq _ _).symm ▸ Iff.rfl

/-- What can be the name of an entry of a directory. -/
@[mk_iff] structure IsName (name : FileName) : Prop where
  nonempty : name.bytes ≠ []
  whole : slash ∉ name.bytes
  notHere : name ≠ .here
  notUp : name ≠ .up

instance : DecidablePred IsName := fun name => decidable_of_iff _ (isName_iff name).symm

/-! ## Extensions -/

theorem takeWhile_of_not_mem {back : List UInt8} (dotless : dot ∉ back) (rest : List UInt8) :
    (back ++ rest).takeWhile (· != dot) = back ++ rest.takeWhile (· != dot) := by
  refine List.takeWhile_append_of_pos ?_
  intro byte mem
  rw [bne_iff_ne]
  rintro rfl
  exact dotless mem

theorem extension?_of_not_mem (dotless : dot ∉ name.bytes) : name.extension? = none := by
  have after := takeWhile_of_not_mem (mt List.mem_reverse.1 dotless) []
  rw [List.append_nil, List.takeWhile_nil, List.append_nil] at after
  rw [extension?, after, List.drop_length]

theorem extension?_append {stem : List UInt8} (split : name.bytes = stem ++ dot :: extension.bytes)
    (dotless : dot ∉ extension.bytes) :
    name.extension? = if stem = [] then none else some extension := by
  have reversed : name.bytes.reverse = extension.bytes.reverse ++ dot :: stem.reverse := by
    simp [split]
  have after := takeWhile_of_not_mem (mt List.mem_reverse.1 dotless) (dot :: stem.reverse)
  rw [List.takeWhile_cons_of_neg (by decide), List.append_nil] at after
  rw [extension?, reversed, after, List.drop_left, List.reverse_reverse]
  cases begins : stem.reverse with
  | nil => rw [if_pos (List.reverse_eq_nil_iff.1 begins)]
  | cons byte front =>
      have nonempty : stem ≠ [] := by
        rintro rfl
        cases begins
      rw [if_neg nonempty]

/-- An extension is what follows the last dot of a name, unless that dot begins it. -/
theorem extension?_eq_some_iff :
    name.extension? = some extension ↔
      ∃ stem, name.bytes = stem ++ dot :: extension.bytes ∧ stem ≠ [] ∧
        dot ∉ extension.bytes := by
  constructor
  · intro found
    have dotted : dot ∈ name.bytes.reverse := by
      by_contra dotless
      rw [extension?_of_not_mem (mt List.mem_reverse.2 dotless)] at found
      cases found
    obtain ⟨back, front, reversed, dotless⟩ := List.eq_append_cons_of_mem dotted
    have split : name.bytes = front.reverse ++ dot :: (FileName.mk back.reverse).bytes := by
      rw [← List.reverse_inj, reversed]
      simp
    have dotless : dot ∉ (FileName.mk back.reverse).bytes := mt List.mem_reverse.1 dotless
    rw [extension?_append split dotless] at found
    split at found
    · cases found
    · next nonempty =>
      cases found
      exact ⟨_, split, nonempty, dotless⟩
  · intro parts
    obtain ⟨stem, split, nonempty, dotless⟩ := parts
    rw [extension?_append split dotless, if_neg nonempty]

end FileName

open FileName (IsName slash)

/-! ## Components -/

namespace FilePath

variable {name first : FileName} {rest : List FileName} {front : List UInt8} {path : FilePath}

theorem pieces_append_slash (front back : List UInt8) :
    pieces ⟨front ++ slash :: back⟩ = pieces ⟨front⟩ ++ pieces ⟨back⟩ := by
  rw [pieces, List.splitOn_append_cons_self, List.map_append]
  rfl

theorem pieces_of_not_mem (whole : slash ∉ name.bytes) : pieces ⟨name.bytes⟩ = [name] := by
  rw [pieces, List.splitOn_eq_singleton whole]
  rfl

theorem pieces_ne_nil (path : FilePath) : path.pieces ≠ [] := by
  intro none
  exact List.splitOn_ne_nil _ _ (List.map_eq_nil_iff.1 none)

theorem inner?_of_isName (named : IsName name) : inner? name = some (.name name) := by
  have neither : ¬ (name.bytes = [] ∨ name = .here) := not_or.2 ⟨named.nonempty, named.notHere⟩
  rw [inner?, if_neg neither, if_neg named.notUp]

theorem first?_of_isName (named : IsName name) : first? name = some (.name name) := by
  rw [first?, if_neg named.nonempty, if_neg named.notHere, inner?_of_isName named]

theorem components_of_pieces (nonempty : path.bytes ≠ []) (split : path.pieces = first :: rest) :
    path.components = (first? first).toList ++ rest.filterMap inner? := by
  obtain ⟨byte, more, bytes⟩ := List.exists_cons_of_ne_nil nonempty
  rw [components, bytes, split]

theorem components_append_slash (split : pieces ⟨front⟩ = first :: rest) (back : List UInt8) :
    components ⟨front ++ slash :: back⟩ =
      (first? first).toList ++ (rest ++ pieces ⟨back⟩).filterMap inner? := by
  have nonempty : front ++ slash :: back ≠ [] := List.append_ne_nil_of_right_ne_nil _ nofun
  refine components_of_pieces nonempty ?_
  rw [pieces_append_slash, split, List.cons_append]

/-- A name below a path is one more component, also if a slash at the end of the path is not
doubled. -/
theorem components_join (path : FilePath) (named : IsName name) :
    (path.join name).components = path.components ++ [.name name] := by
  have single := pieces_of_not_mem named.whole
  rw [join]
  split
  · next ends =>
    -- The path is empty or ends in a slash, with an empty piece behind it.
    rcases List.eq_nil_or_concat path.bytes with empty | ⟨front, last, bytes⟩
    · have alone : path.components = [] := by rw [components, empty]
      rw [alone, empty, List.nil_append, components_of_pieces named.nonempty single,
        first?_of_isName named]
      rfl
    · rw [List.concat_eq_append] at bytes
      obtain rfl : last = slash := by simpa [bytes] using ends
      obtain ⟨first, rest, split⟩ := List.exists_cons_of_ne_nil (pieces_ne_nil ⟨front⟩)
      have shorter := components_append_slash split []
      have longer := components_append_slash split name.bytes
      have dropped : (pieces ⟨[]⟩).filterMap inner? = [] := rfl
      rw [show path = ⟨front ++ [slash]⟩ from congrArg FilePath.mk bytes, List.append_assoc,
        List.singleton_append, shorter, longer, single]
      simp [dropped, inner?_of_isName named]
  · next ends =>
    have nonempty : path.bytes ≠ [] := by
      intro empty
      rw [empty] at ends
      exact ends rfl
    obtain ⟨first, rest, split⟩ := List.exists_cons_of_ne_nil (pieces_ne_nil path)
    rw [components_append_slash split, components_of_pieces nonempty split, single]
    simp [inner?_of_isName named]

end FilePath

/-! ## Order -/

namespace Component

/-- One component comes before another. -/
abbrev Before (a b : Component) : Prop := a.before b = true

theorem before_iff {a b : Component} : a.Before b ↔
    a.rank < b.rank ∨
      ∃ first second, a = .name first ∧ b = .name second ∧ first.bytes < second.bytes := by
  cases a <;> cases b <;> simp [Before, before, rank]

theorem before_trans {a b c : Component} (first : a.Before b) (second : b.Before c) :
    a.Before c := by
  rw [before_iff] at first second ⊢
  rcases first with lt | ⟨s, t, rfl, rfl, lt⟩
  · rcases second with lt' | ⟨t, u, rfl, rfl, lt'⟩
    · exact Or.inl (Nat.lt_trans lt lt')
    · exact Or.inl lt
  · rcases second with lt' | ⟨t', u, same, rfl, lt'⟩
    · exact Or.inl lt'
    · cases same
      exact Or.inr ⟨s, u, rfl, rfl, Std.lt_trans lt lt'⟩

instance : Std.Asymm Before where
  asymm a b forth back := by
    have self := before_iff.1 (before_trans forth back)
    rcases self with lt | ⟨s, t, rfl, same, lt⟩
    · exact Nat.lt_irrefl _ lt
    · cases same
      exact Std.lt_irrefl lt

theorem eq_of_rank_eq {a b : Component} (ranks : a.rank = b.rank)
    (names : ∀ first second, a = .name first → b = .name second → first = second) : a = b := by
  cases a <;> cases b <;> simp_all [rank]

instance : Std.Trichotomous Before where
  trichotomous a b forth back := by
    obtain ⟨notLess, unordered⟩ := not_or.1 (before_iff.not.1 forth)
    obtain ⟨notGreater, unordered'⟩ := not_or.1 (before_iff.not.1 back)
    refine eq_of_rank_eq (by omega) ?_
    intro first second isFirst isSecond
    rcases Std.lt_trichotomy first.bytes second.bytes with lt | same | gt
    · exact absurd ⟨first, second, isFirst, isSecond, lt⟩ unordered
    · exact congrArg FileName.mk same
    · exact absurd ⟨second, first, isSecond, isFirst, gt⟩ unordered'

end Component

namespace FilePath

variable {a b c : FilePath}

theorem beforeComponents_iff {as bs : List Component} :
    beforeComponents as bs = true ↔ List.Lex Component.Before as bs := by
  induction as generalizing bs with
  | nil =>
      cases bs with
      | nil => simp [beforeComponents]
      | cons b bs => simp [beforeComponents]
  | cons a as ih =>
      cases bs with
      | nil => simp [beforeComponents]
      | cons b bs =>
          rw [beforeComponents, Bool.or_eq_true, Bool.and_eq_true, decide_eq_true_eq, ih,
            List.cons_lex_cons_iff]

theorem before_trans (first : a.before b = true) (second : b.before c = true) :
    a.before c = true := by
  rw [before, beforeComponents_iff] at first second ⊢
  exact List.lex_trans Component.before_trans first second

theorem not_before_self (a : FilePath) : ¬ a.before a = true := by
  rw [before, beforeComponents_iff]
  intro self
  exact Std.Asymm.asymm _ _ self self

theorem before_trichotomy (a b : FilePath) :
    a.before b = true ∨ a.same b = true ∨ b.before a = true := by
  rw [before, before, beforeComponents_iff, beforeComponents_iff, same, decide_eq_true_eq]
  exact Std.Trichotomous.rel_or_eq_or_rel_swap

/-- Paths stand in strictly ascending order. -/
def Ascending (paths : List FilePath) : Prop := paths.Pairwise fun a b => a.before b = true

theorem Ascending.nodup {paths : List FilePath} (ascending : Ascending paths) : paths.Nodup := by
  rw [List.nodup_iff_pairwise_ne]
  refine ascending.imp ?_
  intro a b lt eq
  subst eq
  exact not_before_self a lt

/-- Paths can be put in only one ascending order. -/
theorem Ascending.eq_of_mem_iff {paths others : List FilePath} (ascending : Ascending paths)
    (ascending' : Ascending others) (same : ∀ path, path ∈ paths ↔ path ∈ others) :
    paths = others := by
  have perm := (List.perm_ext_iff_of_nodup ascending.nodup ascending'.nodup).2 same
  refine perm.eq_of_pairwise ?_ ascending ascending'
  intro a b _ _ lt gt
  exact absurd (before_trans lt gt) (not_before_self a)

/-! ## Paths below a path -/

/-- The path that leads on from a path through some names. -/
def along (path : FilePath) (names : List FileName) : FilePath := names.foldl join path

theorem components_along (path : FilePath) {names : List FileName}
    (named : ∀ name ∈ names, IsName name) :
    (path.along names).components = path.components ++ names.map .name := by
  induction names generalizing path with
  | nil => exact (List.append_nil _).symm
  | cons first rest ih =>
      have ⟨first_named, rest_named⟩ := List.forall_mem_cons.1 named
      rw [along, List.foldl_cons, ← along, ih _ rest_named, components_join path first_named,
        List.append_assoc]
      rfl

theorem length_le_along (path : FilePath) (names : List FileName) :
    path.bytes.length ≤ (path.along names).bytes.length := by
  induction names generalizing path with
  | nil => exact Nat.le_refl _
  | cons first rest ih =>
      have step : path.bytes.length ≤ (path.join first).bytes.length := by
        rw [join]
        split <;> simp
      exact Nat.le_trans step (ih _)

/-- Paths that part at a name are in the order of the names at which they part. -/
theorem before_along (path : FilePath) {first second : FileName} {rest others : List FileName}
    (firstNamed : ∀ name ∈ first :: rest, IsName name)
    (secondNamed : ∀ name ∈ second :: others, IsName name) (lt : first.bytes < second.bytes) :
    (path.along (first :: rest)).before (path.along (second :: others)) = true := by
  have names : Component.Before (.name first) (.name second) :=
    Component.before_iff.2 (Or.inr ⟨first, second, rfl, rfl, lt⟩)
  rw [before, beforeComponents_iff, components_along path firstNamed,
    components_along path secondNamed]
  exact List.Lex.append_left Component.Before (.rel names) _

theorem same_along (path : FilePath) {names others : List FileName}
    (named : ∀ name ∈ names, IsName name) (othersNamed : ∀ name ∈ others, IsName name) :
    (path.along names).same (path.along others) = true ↔ names = others := by
  have inj : Function.Injective Component.name := fun _ _ same => Component.name.inj same
  rw [same, decide_eq_true_eq, components_along path named, components_along path othersNamed,
    List.append_cancel_left_eq, inj.list_map.eq_iff]

theorem isUnder_along (path : FilePath) {names : List FileName}
    (named : ∀ name ∈ names, IsName name) : path.isUnder (path.along names) = true := by
  rw [isUnder, List.isPrefixOf_iff_prefix, components_along path named]
  exact List.prefix_append _ _

theorem extension?_join (path : FilePath) {name : FileName} (named : IsName name) :
    (path.join name).extension? = name.extension? := by
  rw [extension?, fileName?, components_join path named, List.getLast?_concat]
  rfl

end FilePath

end LiveCheck
