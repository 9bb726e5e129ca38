import LiveCheck.Proofs.Documents
import Mathlib.Data.List.Induction

/-!
The copy of a document that counts.

Documents are kept in two tables, and an operation changes either or both or is refused. After
any history of operations no document is in both tables (`Exclusive.run`), and the copy of a
document is the one that the last operation to take effect on it gave it
(`get?_run_eq_some_iff`). `Gives` says which operations take effect and what they give. The main
statement is `oneCopy_run`.
-/

namespace LiveCheck.Documents

variable {documents next : Documents} {uri : String}

/-! ## Operations -/

/-- What is done to documents: one is opened, edited or closed in the editor, or read from its
file. A document is closed with its file's text, if that could be read. -/
inductive Operation where
  | opened (uri text : String) (version : Int)
  | edited (uri text : String) (version : Int)
  | closed (uri : String) (snapshot : Option String)
  | loaded (uri text : String)
deriving DecidableEq, Repr

/-- Carry out an operation or refuse it. -/
def perform (documents : Documents) : Operation → Except EditRefusal Documents
  | .opened uri text version => .ok (documents.openWith uri text version)
  | .edited uri text version => documents.edit uri text version
  | .closed uri snapshot => documents.close uri snapshot
  | .loaded uri text => .ok (documents.load uri text)

/-- The documents after an operation, which are those before it if it is refused. -/
def after (documents : Documents) (operation : Operation) : Documents :=
  match documents.perform operation with
  | .ok next => next
  | .error _ => documents

/-- The documents after some operations. -/
def run (documents : Documents) (operations : List Operation) : Documents :=
  operations.foldl after documents

theorem run_append (first second : List Operation) :
    documents.run (first ++ second) = (documents.run first).run second :=
  List.foldl_append

theorem run_concat (operations : List Operation) (operation : Operation) :
    documents.run (operations ++ [operation]) = (documents.run operations).after operation :=
  run_append operations [operation]

/-- Some operation of a run is one for which `holds`, with the documents it comes upon. -/
def Happens (holds : Documents → Operation → Prop) : Documents → List Operation → Prop
  | _, [] => False
  | documents, operation :: rest =>
    holds documents operation ∨ Happens holds (documents.after operation) rest

theorem happens_concat {holds : Documents → Operation → Prop} {operations : List Operation}
    {operation : Operation} : Happens holds documents (operations ++ [operation]) ↔
      Happens holds documents operations ∨ holds (documents.run operations) operation := by
  induction operations generalizing documents with
  | nil => simp [Happens, run]
  | cons first rest ih =>
      rw [List.cons_append, Happens, ih, Happens, or_assoc]
      rfl

theorem after_of_ok {operation : Operation} (accepted : documents.perform operation = .ok next) :
    documents.after operation = next := by
  rw [after, accepted]

theorem after_of_error {operation : Operation} {refusal : EditRefusal}
    (refused : documents.perform operation = .error refusal) :
    documents.after operation = documents := by
  rw [after, refused]

theorem step_of_perform {operation : Operation}
    (accepted : documents.perform operation = .ok next) : documents.Step next := by
  cases operation with
  | opened uri text version =>
      cases accepted
      exact .opened uri text version
  | edited uri text version => exact .edited accepted
  | closed uri snapshot => exact .closed accepted
  | loaded uri text =>
      cases accepted
      exact .loaded uri text

/-! ## Refusals -/

theorem version?_eq_some {version : Int} : documents.version? uri = some version ↔
    ∃ text, documents.opened.get? uri = some ⟨text, version⟩ := by
  rw [version?, Option.map_eq_some_iff]
  constructor
  · rintro ⟨⟨text, _⟩, found, rfl⟩
    exact ⟨text, found⟩
  · rintro ⟨text, found⟩
    exact ⟨_, found, rfl⟩

theorem isOpen_eq_false : documents.isOpen uri = false ↔ documents.opened.get? uri = none :=
  Table.contains_eq_false

theorem edit_eq_error_iff {text : String} {version : Int} {refusal : EditRefusal} :
    documents.edit uri text version = .error refusal ↔
      (documents.isOpen uri = false ∧ refusal = .notOpen uri) ∨
        ∃ current, documents.version? uri = some current ∧ version ≤ current ∧
          refusal = .staleVersion uri version current := by
  rw [isOpen_eq_false, version?, edit]
  cases documents.opened.get? uri with
  | none => simp [eq_comm]
  | some document =>
      by_cases stale : version ≤ document.version <;> simp [stale, eq_comm]

theorem edit_eq_ok_of_newer {text : String} {version current : Int}
    (found : documents.version? uri = some current) (newer : current < version) :
    documents.edit uri text version =
      .ok { documents with opened := documents.opened.insert uri ⟨text, version⟩ } := by
  obtain ⟨old, found⟩ := version?_eq_some.1 found
  rw [edit, found]
  exact if_neg (Int.not_le.2 newer)

theorem newer_of_edit_eq_ok {text : String} {version : Int}
    (accepted : documents.edit uri text version = .ok next) :
    ∃ current, documents.version? uri = some current ∧ current < version := by
  obtain ⟨isOpen, -⟩ := edit_eq_ok accepted
  obtain ⟨document, found⟩ := Table.contains_eq_true.1 isOpen
  have current : documents.version? uri = some document.version :=
    version?_eq_some.2 ⟨document.text, found⟩
  refine ⟨document.version, current, Int.not_le.1 fun stale => ?_⟩
  have refused : documents.edit uri text version = .error (.staleVersion uri version _) :=
    edit_eq_error_iff.2 (Or.inr ⟨_, current, stale, rfl⟩)
  cases accepted.symm.trans refused

theorem close_eq_error_iff {snapshot : Option String} {refusal : EditRefusal} :
    documents.close uri snapshot = .error refusal ↔
      documents.isOpen uri = false ∧ refusal = .notOpen uri := by
  rw [isOpen_eq_false, close]
  cases documents.opened.get? uri <;> simp [eq_comm]

theorem load_of_isOpen (isOpen : documents.isOpen uri = true) (text : String) :
    documents.load uri text = documents :=
  if_pos isOpen

theorem load_of_not_isOpen (notOpen : documents.isOpen uri = false) (text : String) :
    documents.load uri text =
      { documents with snapshots := documents.snapshots.insert uri text } :=
  if_neg (Bool.eq_false_iff.1 notOpen)

/-! ## One table for each document -/

/-- No document is both open and a snapshot. -/
def Exclusive (documents : Documents) : Prop :=
  ∀ uri, documents.isOpen uri = true → documents.snapshots.contains uri = false

theorem Exclusive.step (exclusive : documents.Exclusive) (step : documents.Step next) :
    next.Exclusive := by
  intro other isOpen
  rw [Table.contains_eq_false]
  cases step with
  | opened uri text version =>
      rw [openWith, Table.get?_erase]
      split
      · rfl
      · next other =>
        have before := (isOpen_openWith.1 isOpen).resolve_left other
        exact Table.contains_eq_false.1 (exclusive _ before)
  | edited accepted =>
      have before := (isOpen_edit accepted).1 isOpen
      obtain ⟨-, rfl⟩ := edit_eq_ok accepted
      exact Table.contains_eq_false.1 (exclusive _ before)
  | closed accepted =>
      obtain ⟨apart, before⟩ := (isOpen_close accepted).1 isOpen
      obtain ⟨-, text, rfl⟩ := close_eq_ok accepted
      rw [Table.get?_insert, if_neg apart]
      exact Table.contains_eq_false.1 (exclusive _ before)
  | loaded uri text =>
      rw [isOpen_load] at isOpen
      have absent := Table.contains_eq_false.1 (exclusive _ isOpen)
      cases already : documents.isOpen uri with
      | true => rwa [load_of_isOpen already]
      | false =>
          have apart : other ≠ uri := by
            rintro rfl
            exact Bool.false_ne_true (already.symm.trans isOpen)
          rwa [load_of_not_isOpen already, Table.get?_insert, if_neg apart]

theorem Exclusive.after (exclusive : documents.Exclusive) (operation : Operation) :
    (documents.after operation).Exclusive := by
  cases performed : documents.perform operation with
  | ok next =>
      rw [after_of_ok performed]
      exact exclusive.step (step_of_perform performed)
  | error refusal => rwa [after_of_error performed]

theorem Exclusive.run (exclusive : documents.Exclusive) (operations : List Operation) :
    (documents.run operations).Exclusive :=
  List.foldlRecOn operations Documents.after exclusive
    fun _ exclusive operation _ => exclusive.after operation

theorem exclusive_empty : empty.Exclusive := by
  intro uri isOpen
  cases isOpen

/-! ## What an operation gives -/

/-- An operation takes effect on a document and gives it a copy. An edit takes effect if its
version is newer, a document can be closed while it is open, and a file that is read counts
unless the document is open. -/
inductive Gives (documents : Documents) (uri : String) :
    Operation → Document.Origin × Document → Prop where
  | opened (text : String) (version : Int) :
      Gives documents uri (.opened uri text version) (.editor, ⟨text, version⟩)
  | edited {current version : Int} (found : documents.version? uri = some current)
      (newer : current < version) (text : String) :
      Gives documents uri (.edited uri text version) (.editor, ⟨text, version⟩)
  | closed (isOpen : documents.isOpen uri = true) (text : String) :
      Gives documents uri (.closed uri (some text)) (.disk, ⟨text, 0⟩)
  /-- The file of a document that is closed could not be read. -/
  | kept {document : Document} (found : documents.opened.get? uri = some document) :
      Gives documents uri (.closed uri none) (.disk, ⟨document.text, 0⟩)
  | loaded (notOpen : documents.isOpen uri = false) (text : String) :
      Gives documents uri (.loaded uri text) (.disk, ⟨text, 0⟩)

theorem close_eq_ok_of_get? {document : Document} (snapshot : Option String)
    (found : documents.opened.get? uri = some document) :
    documents.close uri snapshot = .ok ⟨documents.opened.erase uri,
      documents.snapshots.insert uri (snapshot.getD document.text)⟩ := by
  rw [close, found]

theorem get?_of_opened {document : Document} (found : documents.opened.get? uri = some document) :
    documents.get? uri = some (.editor, document) := by
  rw [get?, found]
  rfl

theorem get?_of_snapshot {text : String} (notOpen : documents.opened.get? uri = none)
    (found : documents.snapshots.get? uri = some text) :
    documents.get? uri = some (.disk, ⟨text, 0⟩) := by
  rw [get?, notOpen, found]
  rfl

theorem get?_congr (opened : next.opened.get? uri = documents.opened.get? uri)
    (snapshots : next.snapshots.get? uri = documents.snapshots.get? uri) :
    next.get? uri = documents.get? uri := by
  rw [get?, get?, opened, snapshots]

/-- A closed document leaves a snapshot. -/
theorem get?_close {document : Document} (snapshot : Option String)
    (found : documents.opened.get? uri = some document) :
    (documents.after (.closed uri snapshot)).get? uri =
      some (.disk, ⟨snapshot.getD document.text, 0⟩) := by
  have accepted : documents.perform (.closed uri snapshot) = _ :=
    close_eq_ok_of_get? snapshot found
  rw [after_of_ok accepted]
  refine get?_of_snapshot ?_ (Table.get?_insert_self _ _ _)
  rw [Table.get?_erase, if_pos rfl]

theorem Gives.get?_after {operation : Operation} {copy : Document.Origin × Document}
    (gives : documents.Gives uri operation copy) :
    (documents.after operation).get? uri = some copy := by
  cases gives with
  | opened text version => exact get?_of_opened (Table.get?_insert_self _ _ _)
  | @edited current version found newer text =>
      have accepted : documents.perform (.edited uri text version) = _ :=
        edit_eq_ok_of_newer found newer
      rw [after_of_ok accepted]
      exact get?_of_opened (Table.get?_insert_self _ _ _)
  | closed isOpen text =>
      obtain ⟨document, found⟩ := Table.contains_eq_true.1 isOpen
      exact get?_close (some text) found
  | kept found => exact get?_close none found
  | loaded notOpen text =>
      show (documents.load uri text).get? uri = _
      rw [load_of_not_isOpen notOpen]
      exact get?_of_snapshot (isOpen_eq_false.1 notOpen) (Table.get?_insert_self _ _ _)

/-- An operation that gives a document nothing leaves its copy. -/
theorem get?_after_of_not_gives {operation : Operation}
    (nothing : ∀ copy, ¬ documents.Gives uri operation copy) :
    (documents.after operation).get? uri = documents.get? uri := by
  cases operation with
  | opened other text version =>
      have apart : uri ≠ other := by
        rintro rfl
        exact nothing _ (.opened text version)
      refine get?_congr ?_ ?_
      · exact (Table.get?_insert _ _ _ _).trans (if_neg apart)
      · exact (Table.get?_erase _ _ _).trans (if_neg apart)
  | edited other text version =>
      cases performed : documents.perform (.edited other text version) with
      | error refusal => rw [after_of_error performed]
      | ok next =>
          have apart : uri ≠ other := by
            rintro rfl
            obtain ⟨current, found, newer⟩ := newer_of_edit_eq_ok performed
            exact nothing _ (.edited found newer text)
          rw [after_of_ok performed]
          obtain ⟨-, rfl⟩ := edit_eq_ok performed
          exact get?_congr ((Table.get?_insert _ _ _ _).trans (if_neg apart)) rfl
  | closed other snapshot =>
      cases performed : documents.perform (.closed other snapshot) with
      | error refusal => rw [after_of_error performed]
      | ok next =>
          obtain ⟨isOpen, left, rfl⟩ := close_eq_ok performed
          have apart : uri ≠ other := by
            rintro rfl
            obtain ⟨document, found⟩ := Table.contains_eq_true.1 isOpen
            cases snapshot with
            | some text => exact nothing _ (.closed isOpen text)
            | none => exact nothing _ (.kept found)
          rw [after_of_ok performed]
          refine get?_congr ?_ ?_
          · exact (Table.get?_erase _ _ _).trans (if_neg apart)
          · exact (Table.get?_insert _ _ _ _).trans (if_neg apart)
  | loaded other text =>
      show (documents.load other text).get? uri = _
      cases already : documents.isOpen other with
      | true => rw [load_of_isOpen already]
      | false =>
          have apart : uri ≠ other := by
            rintro rfl
            exact nothing _ (.loaded already text)
          rw [load_of_not_isOpen already]
          exact get?_congr rfl ((Table.get?_insert _ _ _ _).trans (if_neg apart))

/-! ## What a history gives -/

/-- An operation gives a document something. -/
def Touches (uri : String) (documents : Documents) (operation : Operation) : Prop :=
  ∃ copy, documents.Gives uri operation copy

/-- The last operation of a history that gives a document anything gives it this copy. -/
def LastGiven (history : List Operation) (uri : String) (copy : Document.Origin × Document) :
    Prop :=
  ∃ before operation rest, history = before ++ operation :: rest ∧
    (empty.run before).Gives uri operation copy ∧
    ¬ Happens (Touches uri) (empty.run (before ++ [operation])) rest

theorem lastGiven_concat {history : List Operation} {operation : Operation}
    {copy : Document.Origin × Document} :
    LastGiven (history ++ [operation]) uri copy ↔
      (empty.run history).Gives uri operation copy ∨
        ¬ Touches uri (empty.run history) operation ∧ LastGiven history uri copy := by
  constructor
  · rintro ⟨before, giver, rest, split, gives, quiet⟩
    cases rest using List.reverseRecOn with
    | nil =>
        obtain ⟨rfl, same⟩ := List.append_inj' split rfl
        cases same
        exact Or.inl gives
    | append_singleton rest last =>
        rw [← List.cons_append, ← List.append_assoc] at split
        obtain ⟨rfl, same⟩ := List.append_inj' split rfl
        cases same
        rw [happens_concat, not_or, ← run_append, List.append_assoc] at quiet
        exact Or.inr ⟨quiet.2, before, giver, rest, rfl, gives, quiet.1⟩
  · rintro (gives | ⟨quiet, before, giver, rest, rfl, gives, earlier⟩)
    · exact ⟨history, operation, [], rfl, gives, id⟩
    · refine ⟨before, giver, rest ++ [operation], by simp, gives, ?_⟩
      rw [happens_concat, not_or, ← run_append, List.append_assoc]
      exact ⟨earlier, quiet⟩

/-- A document has the copy that it was last given. -/
theorem get?_run_eq_some_iff {history : List Operation} {copy : Document.Origin × Document} :
    (empty.run history).get? uri = some copy ↔ LastGiven history uri copy := by
  induction history using List.reverseRecOn with
  | nil =>
      refine iff_of_false nofun ?_
      rintro ⟨before, operation, rest, split, -⟩
      simp at split
  | append_singleton history operation ih =>
      rw [run_concat, lastGiven_concat, ← ih]
      by_cases touches : Touches uri (empty.run history) operation
      · obtain ⟨given, gives⟩ := touches
        rw [gives.get?_after]
        constructor
        · intro same
          cases same
          exact Or.inl gives
        · rintro (other | ⟨untouched, -⟩)
          · rw [← gives.get?_after, other.get?_after]
          · exact absurd ⟨given, gives⟩ untouched
      · have nothing := not_exists.1 touches
        rw [get?_after_of_not_gives nothing]
        simp [touches, nothing]

/-! ## Versions -/

/-- An operation begins a document's versions anew or ends them. -/
def Operation.Resets (uri : String) : Operation → Prop
  | .opened other _ _ => other = uri
  | .closed other _ => other = uri
  | _ => False

/-- An operation is an edit of a document that is not refused. -/
def AcceptsEdit (uri : String) (documents : Documents) (operation : Operation) : Prop :=
  ∃ text version next, operation = .edited uri text version ∧
    documents.perform operation = .ok next

theorem version?_after_of_acceptsEdit {operation : Operation} {version : Int}
    (found : documents.version? uri = some version)
    (accepts : AcceptsEdit uri documents operation) :
    ∃ newer, (documents.after operation).version? uri = some newer ∧ version < newer := by
  obtain ⟨text, newer, next, rfl, performed⟩ := accepts
  obtain ⟨current, isCurrent, lt⟩ := newer_of_edit_eq_ok performed
  rw [found] at isCurrent
  cases isCurrent
  rw [after_of_ok performed]
  obtain ⟨-, rfl⟩ := edit_eq_ok performed
  exact ⟨newer, version?_eq_some.2 ⟨text, Table.get?_insert_self _ _ _⟩, lt⟩

theorem version?_congr (opened : next.opened.get? uri = documents.opened.get? uri) :
    next.version? uri = documents.version? uri := by
  rw [version?, version?, opened]

/-- Nothing but an edit changes the version of a document that is open all along. -/
theorem version?_after_of_not_acceptsEdit {operation : Operation}
    (stays : ¬ operation.Resets uri) (refuses : ¬ AcceptsEdit uri documents operation) :
    (documents.after operation).version? uri = documents.version? uri := by
  cases operation with
  | opened other text version =>
      exact version?_congr ((Table.get?_insert _ _ _ _).trans (if_neg (Ne.symm stays)))
  | edited other text version =>
      cases performed : documents.perform (.edited other text version) with
      | error refusal => rw [after_of_error performed]
      | ok next =>
          have apart : uri ≠ other := by
            rintro rfl
            exact refuses ⟨text, version, next, rfl, performed⟩
          rw [after_of_ok performed]
          obtain ⟨-, rfl⟩ := edit_eq_ok performed
          exact version?_congr ((Table.get?_insert _ _ _ _).trans (if_neg apart))
  | closed other snapshot =>
      cases performed : documents.perform (.closed other snapshot) with
      | error refusal => rw [after_of_error performed]
      | ok next =>
          rw [after_of_ok performed]
          obtain ⟨-, left, rfl⟩ := close_eq_ok performed
          exact version?_congr ((Table.get?_erase _ _ _).trans (if_neg (Ne.symm stays)))
  | loaded other text =>
      show (documents.load other text).version? uri = _
      unfold load
      split <;> rfl

/-- As long as a document is neither opened nor closed, its version rises with every edit that
is accepted and never falls. -/
theorem version?_run {operations : List Operation} {version : Int}
    (found : documents.version? uri = some version)
    (stays : ∀ operation ∈ operations, ¬ operation.Resets uri) :
    ∃ current, (documents.run operations).version? uri = some current ∧ version ≤ current ∧
      (version < current ↔ Happens (AcceptsEdit uri) documents operations) := by
  induction operations using List.reverseRecOn with
  | nil => exact ⟨version, found, Int.le_refl _, iff_of_false (Int.lt_irrefl _) id⟩
  | append_singleton earlier operation ih =>
      obtain ⟨staysEarlier, staysLast⟩ := List.forall_mem_append.1 stays
      obtain ⟨current, before, le, rises⟩ := ih staysEarlier
      rw [run_concat, happens_concat]
      by_cases accepts : AcceptsEdit uri (documents.run earlier) operation
      · obtain ⟨newer, after, lt⟩ := version?_after_of_acceptsEdit before accepts
        exact ⟨newer, after, Int.le_of_lt (Int.lt_of_le_of_lt le lt),
          iff_of_true (Int.lt_of_le_of_lt le lt) (Or.inr accepts)⟩
      · have stays := staysLast operation (List.mem_singleton_self operation)
        rw [version?_after_of_not_acceptsEdit stays accepts]
        exact ⟨current, before, le, by simp [accepts, rises]⟩

/-! ## All documents -/

theorem isOpen_iff_get? : documents.isOpen uri = true ↔
    ∃ document, documents.get? uri = some (.editor, document) := by
  rw [isOpen, Table.contains_eq_true, get?]
  cases documents.opened.get? uri with
  | some document => simp
  | none => cases documents.snapshots.get? uri <;> simp

theorem version?_iff_get? {version : Int} : documents.version? uri = some version ↔
    ∃ text, documents.get? uri = some (.editor, ⟨text, version⟩) := by
  rw [version?_eq_some, get?]
  cases documents.opened.get? uri with
  | some document => simp
  | none => cases documents.snapshots.get? uri <;> simp

theorem text?_eq_get? : documents.text? uri = (documents.get? uri).map (·.2.text) := by
  rw [text?, get?]
  cases documents.opened.get? uri with
  | some document => rfl
  | none => cases documents.snapshots.get? uri <;> rfl

theorem mem_toList_editor {document : Document} : (uri, .editor, document) ∈ documents.toList ↔
    documents.opened.get? uri = some document := by
  rw [Table.get?_eq_some_iff, toList]
  simp

theorem mem_toList_disk {document : Document} : (uri, .disk, document) ∈ documents.toList ↔
    ∃ text, documents.snapshots.get? uri = some text ∧ document = ⟨text, 0⟩ := by
  simp only [Table.get?_eq_some_iff, toList]
  simp [eq_comm]

theorem mem_toList (exclusive : documents.Exclusive) {origin : Document.Origin}
    {document : Document} : (uri, origin, document) ∈ documents.toList ↔
      documents.get? uri = some (origin, document) := by
  rw [get?]
  cases opened : documents.opened.get? uri with
  | some current =>
      have absent := Table.contains_eq_false.1
        (exclusive uri (Table.contains_eq_true.2 ⟨current, opened⟩))
      cases origin with
      | editor => simp [mem_toList_editor, opened]
      | disk => simp [mem_toList_disk, absent]
  | none =>
      cases origin with
      | editor => simp [mem_toList_editor, opened]
      | disk =>
          rw [mem_toList_disk, Option.map_none, Option.none_or, Option.map_eq_some_iff]
          simp [eq_comm]

/-- In a listing, open documents stand before snapshots, and each group is in ascending
order. -/
def ListedBefore (first second : String × Document.Origin × Document) : Prop :=
  (first.2.1 = .editor ∧ second.2.1 = .disk) ∨
    (first.2.1 = second.2.1 ∧ first.1 < second.1)

theorem pairwise_toList : documents.toList.Pairwise ListedBefore := by
  rw [toList, List.pairwise_append, List.pairwise_map, List.pairwise_map]
  refine ⟨documents.opened.ascending.imp fun lt => Or.inr ⟨rfl, lt⟩,
    documents.snapshots.ascending.imp fun lt => Or.inr ⟨rfl, lt⟩, ?_⟩
  intro first isOpen second isSnapshot
  obtain ⟨_, -, rfl⟩ := List.mem_map.1 isOpen
  obtain ⟨_, -, rfl⟩ := List.mem_map.1 isSnapshot
  exact Or.inl ⟨rfl, rfl⟩

theorem nodup_toList (exclusive : documents.Exclusive) :
    (documents.toList.map (·.1)).Nodup := by
  have keys : documents.toList.map (·.1) = documents.opened.keys ++ documents.snapshots.keys := by
    simp [toList, Table.keys, Function.comp_def]
  rw [keys]
  refine List.Nodup.append (Table.nodup_keys _) (Table.nodup_keys _) ?_
  intro uri isOpen isSnapshot
  have absent := exclusive uri (Table.mem_keys.1 isOpen)
  exact Bool.false_ne_true (absent.symm.trans (Table.mem_keys.1 isSnapshot))

/-! ## One copy of each document -/

/-- What holds of the documents after a history of operations. -/
structure OneCopy (history : List Operation) (documents : Documents) : Prop where
  exclusive (uri : String) :
    ¬ (documents.isOpen uri = true ∧ documents.snapshots.contains uri = true)
  /-- The copy of a document is the one that it was last given. -/
  current (uri : String) (copy : Document.Origin × Document) :
    documents.get? uri = some copy ↔ LastGiven history uri copy
  text (uri : String) : documents.text? uri = (documents.get? uri).map (·.2.text)
  isOpen (uri : String) : documents.isOpen uri = true ↔
    ∃ document, documents.get? uri = some (.editor, document)
  version (uri : String) (version : Int) : documents.version? uri = some version ↔
    ∃ text, documents.get? uri = some (.editor, ⟨text, version⟩)
  edit_refused (uri text : String) (version : Int) (refusal : EditRefusal) :
    documents.perform (.edited uri text version) = .error refusal ↔
      (documents.isOpen uri = false ∧ refusal = .notOpen uri) ∨
        ∃ current, documents.version? uri = some current ∧ version ≤ current ∧
          refusal = .staleVersion uri version current
  close_refused (uri : String) (snapshot : Option String) (refusal : EditRefusal) :
    documents.perform (.closed uri snapshot) = .error refusal ↔
      documents.isOpen uri = false ∧ refusal = .notOpen uri
  /-- An operation that is refused changes nothing. -/
  refused (operation : Operation) (refusal : EditRefusal)
    (refused : documents.perform operation = .error refusal) :
    documents.after operation = documents
  load_open (uri text : String) (isOpen : documents.isOpen uri = true) :
    documents.after (.loaded uri text) = documents
  /-- The version of a document rises with every edit that is accepted, until the document is
  opened anew or closed. -/
  rising (uri : String) (version : Int) (operations : List Operation)
    (found : documents.version? uri = some version)
    (stays : ∀ operation ∈ operations, ¬ operation.Resets uri) :
    ∃ current, (documents.run operations).version? uri = some current ∧ version ≤ current ∧
      (version < current ↔ Happens (AcceptsEdit uri) documents operations)
  listed (uri : String) (origin : Document.Origin) (document : Document) :
    (uri, origin, document) ∈ documents.toList ↔
      documents.get? uri = some (origin, document)
  listed_once : (documents.toList.map (·.1)).Nodup
  ordered : documents.toList.Pairwise ListedBefore
  size_eq : documents.size = documents.toList.length

/-- After any history of operations there is one copy of each document that counts. -/
theorem oneCopy_run (history : List Operation) : OneCopy history (empty.run history) :=
  have exclusive := exclusive_empty.run history
  { exclusive := fun uri ⟨isOpen, isSnapshot⟩ =>
      Bool.false_ne_true ((exclusive uri isOpen).symm.trans isSnapshot)
    current := fun _ _ => get?_run_eq_some_iff
    text := fun _ => text?_eq_get?
    isOpen := fun _ => isOpen_iff_get?
    version := fun _ _ => version?_iff_get?
    edit_refused := fun _ _ _ _ => edit_eq_error_iff
    close_refused := fun _ _ _ => close_eq_error_iff
    refused := fun _ _ refused => after_of_error refused
    load_open := fun _ text isOpen => load_of_isOpen isOpen text
    rising := fun _ _ _ found stays => version?_run found stays
    listed := fun _ _ _ => mem_toList exclusive
    listed_once := nodup_toList exclusive
    ordered := pairwise_toList
    size_eq := by simp [size, toList, Table.size] }

end LiveCheck.Documents
