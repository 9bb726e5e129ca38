import LiveCheck.Proofs.Table
import LiveCheck.Workspace.Documents

/-!
The text of a document under each operation.

An operation on one document gives it its new text and leaves the texts of all others.
No document ever goes away (`Has.step`): a closed one leaves a snapshot.
-/

namespace LiveCheck.Documents

variable {documents next : Documents} {uri : String}

/-! ## Texts -/

theorem text?_openWith (opened text : String) (version : Int) :
    (documents.openWith opened text version).text? uri =
      if uri = opened then some text else documents.text? uri := by
  simp only [text?, openWith, Table.get?_insert, Table.get?_erase]
  split <;> rfl

theorem edit_eq_ok {edited text : String} {version : Int}
    (accepted : documents.edit edited text version = .ok next) :
    documents.isOpen edited = true ∧
      next = { documents with opened := documents.opened.insert edited ⟨text, version⟩ } := by
  unfold edit at accepted
  split at accepted
  · cases accepted
  · next document found =>
    split at accepted
    · cases accepted
    · cases accepted
      exact ⟨Table.contains_eq_true.2 ⟨document, found⟩, rfl⟩

theorem text?_edit {edited text : String} {version : Int}
    (accepted : documents.edit edited text version = .ok next) :
    next.text? uri = if uri = edited then some text else documents.text? uri := by
  obtain ⟨-, rfl⟩ := edit_eq_ok accepted
  simp only [text?, Table.get?_insert]
  split <;> rfl

theorem close_eq_ok {closed : String} {snapshot : Option String}
    (accepted : documents.close closed snapshot = .ok next) :
    documents.isOpen closed = true ∧ ∃ text, next =
      ⟨documents.opened.erase closed, documents.snapshots.insert closed text⟩ := by
  unfold close at accepted
  split at accepted
  · cases accepted
  · next document found =>
    cases accepted
    exact ⟨Table.contains_eq_true.2 ⟨document, found⟩, _, rfl⟩

theorem text?_close {closed : String} {snapshot : Option String}
    (accepted : documents.close closed snapshot = .ok next) (other : uri ≠ closed) :
    next.text? uri = documents.text? uri := by
  obtain ⟨-, text, rfl⟩ := close_eq_ok accepted
  simp only [text?, Table.get?_insert, Table.get?_erase, if_neg other]

theorem text?_close_self {closed : String} {snapshot : Option String}
    (accepted : documents.close closed snapshot = .ok next) :
    ∃ text, next.text? closed = some text := by
  obtain ⟨-, text, rfl⟩ := close_eq_ok accepted
  refine ⟨text, ?_⟩
  simp only [text?, Table.get?_erase, if_true, Table.get?_insert_self]
  rfl

/-! ## Open documents -/

theorem isOpen_openWith {opened text : String} {version : Int} :
    (documents.openWith opened text version).isOpen uri = true ↔
      uri = opened ∨ documents.isOpen uri = true :=
  Table.contains_insert

theorem isOpen_edit {edited text : String} {version : Int}
    (accepted : documents.edit edited text version = .ok next) :
    next.isOpen uri = true ↔ documents.isOpen uri = true := by
  obtain ⟨isOpen, rfl⟩ := edit_eq_ok accepted
  refine Table.contains_insert.trans ⟨?_, Or.inr⟩
  rintro (rfl | isOpen)
  · exact isOpen
  · exact isOpen

theorem isOpen_close {closed : String} {snapshot : Option String}
    (accepted : documents.close closed snapshot = .ok next) :
    next.isOpen uri = true ↔ uri ≠ closed ∧ documents.isOpen uri = true := by
  obtain ⟨-, text, rfl⟩ := close_eq_ok accepted
  exact Table.contains_erase

theorem isOpen_load (loaded text : String) :
    (documents.load loaded text).isOpen uri = documents.isOpen uri := by
  unfold load
  split <;> rfl

theorem isOpen_foldl_load (found : List (String × String)) :
    (found.foldl (fun documents (uri, text) => documents.load uri text) documents).isOpen uri =
      documents.isOpen uri := by
  induction found generalizing documents with
  | nil => rfl
  | cons first rest ih => exact ih.trans (isOpen_load first.1 first.2)

/-! ## Documents that are there -/

/-- There is a document with this address. -/
def Has (documents : Documents) (uri : String) : Prop := (documents.text? uri).isSome = true

theorem has_iff : documents.Has uri ↔
    documents.isOpen uri = true ∨ documents.snapshots.contains uri = true := by
  rw [Has, text?, Option.isSome_or, Option.isSome_map, Bool.or_eq_true]
  rfl

/-- What may happen to documents: one is opened, edited, closed or read from its file. -/
inductive Step (documents : Documents) : Documents → Prop where
  | opened (uri text : String) (version : Int) :
      Step documents (documents.openWith uri text version)
  | edited {uri text : String} {version : Int} {next : Documents}
      (accepted : documents.edit uri text version = .ok next) : Step documents next
  | closed {uri : String} {snapshot : Option String} {next : Documents}
      (accepted : documents.close uri snapshot = .ok next) : Step documents next
  | loaded (uri text : String) : Step documents (documents.load uri text)

theorem Has.step (has : documents.Has uri) (step : documents.Step next) : next.Has uri := by
  cases step with
  | opened opened text version =>
      rw [Has, text?_openWith]
      split
      · rfl
      · exact has
  | edited accepted =>
      rw [Has, text?_edit accepted]
      split
      · rfl
      · exact has
  | @closed closed snapshot _ accepted =>
      by_cases same : uri = closed
      · obtain ⟨-, text, rfl⟩ := close_eq_ok accepted
        exact has_iff.2 (Or.inr (Table.contains_insert.2 (Or.inl same)))
      · rw [Has, text?_close accepted same]
        exact has
  | loaded loaded text =>
      unfold load
      split
      · exact has
      · rw [has_iff, Table.contains_insert]
        exact (has_iff.1 has).imp_right Or.inr

theorem Has.foldl_load (has : documents.Has uri) (found : List (String × String)) :
    (found.foldl (fun documents (uri, text) => documents.load uri text) documents).Has uri := by
  induction found generalizing documents with
  | nil => exact has
  | cons first rest ih => exact ih (has.step (.loaded first.1 first.2))

theorem mem_texts : uri ∈ documents.texts.map (·.1) ↔ documents.Has uri := by
  have listed : documents.texts.map (·.1) = documents.opened.keys ++ documents.snapshots.keys := by
    simp [texts, toList, Table.keys, Function.comp_def]
  rw [listed, List.mem_append, Table.mem_keys, Table.mem_keys, has_iff]
  rfl

end LiveCheck.Documents
