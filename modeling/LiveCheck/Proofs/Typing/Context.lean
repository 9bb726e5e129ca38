import LiveCheck.Proofs.Typing.Judgement
import LiveCheck.Table
import Mathlib.Data.List.Nodup

/-!
The context that a type mismatch shows.

The checker looks a name up from the newest binding inwards out. The context is made the other
way round: it goes through the bindings in the order in which they were made, and each one
takes the place of what it hides. Both see the same bindings, and the context lists them in the
order in which they were made (`context_visible`).
-/

namespace LiveCheck.Scope

variable {name type : String} {binding : String × String} {listed : List (String × String)}

/-! ## How scopes are made -/

/-- What is done to a scope: a name is bound in the innermost frame, or a frame is opened. -/
inductive Step where
  | insert (name type : String)
  | child
deriving DecidableEq, Repr

/-- The scope after a step. -/
def step (scope : Scope) : Step → Scope
  | .insert name type => scope.insert name type
  | .child => scope.child

/-- The scope made by some steps. -/
def made (steps : List Step) : Scope := steps.foldl step .empty

/-- The binding that a step makes. -/
def Step.binding? : Step → Option (String × String)
  | .insert name type => some (name, type)
  | .child => none

/-- All bindings of a scope, hidden ones too: outermost frame first, each frame in the order in
which its bindings were made. -/
def bindings (scope : Scope) : List (String × String) :=
  scope.frames.reverse.flatMap List.reverse

theorem bindings_eq_locals (scope : Scope) : scope.bindings = scope.locals.reverse := by
  rw [bindings, locals, List.reverse_flatten, List.flatMap_def, List.map_reverse]

theorem bindings_step (scope : Scope) (next : Step) :
    (scope.step next).bindings = scope.bindings ++ next.binding?.toList := by
  cases next with
  | insert name type =>
      rw [bindings_eq_locals, bindings_eq_locals, step, locals_insert, List.reverse_cons]
      rfl
  | child =>
      rw [bindings_eq_locals, bindings_eq_locals]
      exact (List.append_nil _).symm

theorem bindings_foldl_step (scope : Scope) (steps : List Step) :
    (steps.foldl step scope).bindings = scope.bindings ++ steps.filterMap Step.binding? := by
  induction steps generalizing scope with
  | nil => exact (List.append_nil _).symm
  | cons first rest ih =>
      rw [List.foldl_cons, ih, bindings_step, List.append_assoc]
      cases first <;> rfl

/-- A frame that is opened later lies further in, so the order of the frames and inside a frame
is the order of the steps. -/
theorem bindings_made (steps : List Step) :
    (made steps).bindings = steps.filterMap Step.binding? :=
  bindings_foldl_step .empty steps

/-! ## Bindings that are not hidden -/

/-- The bindings that no later one hides, in the order in which they are given. -/
def visible (bindings : List (String × String)) : List (String × String) :=
  (bindings.zipIdx.filter fun (binding, place) =>
    (bindings.drop (place + 1)).all (·.1 != binding.1)).map (·.1)

/-- One more binding is listed last, in place of the one that it hides. -/
theorem visible_concat (bindings : List (String × String)) (binding : String × String) :
    visible (bindings ++ [binding]) = list binding (visible bindings) := by
  have before : ∀ placed ∈ bindings.zipIdx,
      ((bindings ++ [binding]).drop (placed.2 + 1)).all (·.1 != placed.1.1) =
        (placed.1.1 != binding.1 && (bindings.drop (placed.2 + 1)).all (·.1 != placed.1.1)) := by
    intro placed mem
    have inside : placed.2 + 1 ≤ bindings.length := List.snd_lt_of_mem_zipIdx mem
    rw [List.drop_append_of_le_length inside, List.all_append, Bool.and_comm]
    simp [bne_comm]
  have last : (bindings ++ [binding]).drop (bindings.length + 1) = [] :=
    List.drop_eq_nil_of_le (by simp)
  rw [visible, List.zipIdx_append, List.filter_append, List.filter_congr before,
    ← List.filter_filter, List.map_append, list, visible, List.filter_map]
  simp [last, Function.comp_def]

theorem context_eq_foldr (scope : Scope) : scope.context = scope.locals.foldr list [] := by
  rw [context, locals, List.foldr_flatten]

theorem context_eq_visible (scope : Scope) : scope.context = visible scope.bindings := by
  rw [context_eq_foldr, bindings_eq_locals]
  induction scope.locals with
  | nil => rfl
  | cons newest older ih => rw [List.foldr_cons, ih, List.reverse_cons, visible_concat]

/-! ## What is listed -/

theorem mem_list :
    (name, type) ∈ list binding listed ↔
      if name = binding.1 then type = binding.2 else (name, type) ∈ listed := by
  obtain ⟨bound, boundType⟩ := binding
  by_cases same : name = bound <;> simp [list, same]

/-- A binding is listed where the checker finds it. -/
theorem mem_context (scope : Scope) :
    (name, type) ∈ scope.context ↔ scope.lookup name = some type := by
  rw [context_eq_foldr, lookup_eq_locals]
  induction scope.locals with
  | nil => simp
  | cons newest older ih =>
      rw [List.foldr_cons, mem_list, Table.lookup_entry_cons, ih]
      split
      · rw [Option.some_inj, eq_comm]
      · exact Iff.rfl

theorem nodup_list (distinct : (listed.map (·.1)).Nodup) :
    ((list binding listed).map (·.1)).Nodup := by
  rw [list, List.map_append, List.nodup_append]
  refine ⟨(List.filter_sublist.map _).nodup distinct, List.nodup_singleton _, ?_⟩
  intro other kept bound same
  obtain ⟨entry, mem, rfl⟩ := List.mem_map.1 kept
  rw [List.map_singleton, List.mem_singleton] at same
  simpa [same] using (List.mem_filter.1 mem).2

theorem nodup_context (scope : Scope) : (scope.context.map (·.1)).Nodup := by
  rw [context_eq_foldr]
  induction scope.locals with
  | nil => exact List.nodup_nil
  | cons newest older ih => exact nodup_list ih

/-- The context of a scope has each name once, with the type that a lookup gives, and lists the
bindings that are not hidden in the order in which they were made: outermost frame first. -/
theorem context_visible (steps : List Step) :
    ((made steps).context.map (·.1)).Nodup ∧
      (∀ name type, (name, type) ∈ (made steps).context ↔
        (made steps).lookup name = some type) ∧
      (made steps).context = visible (made steps).bindings ∧
      (made steps).bindings = steps.filterMap Step.binding? :=
  ⟨nodup_context _, fun _ _ => mem_context _, context_eq_visible _, bindings_made steps⟩

/-- A name that is bound again moves to the place of its newest binding. -/
example : (made [.insert "b" "Nat", .insert "a" "Bool", .child, .insert "b" "Bool"]).context =
    [("a", "Bool"), ("b", "Bool")] := by decide

end LiveCheck.Scope
