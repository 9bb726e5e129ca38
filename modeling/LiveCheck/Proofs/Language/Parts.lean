import LiveCheck.Proofs.Language.Places

/-!
The parts of a definition and the spans they cover.

Every term in a term uses one name (`Term.subject`). The spans of these terms, of their names
and of the labels of their arms are the places of the term. In a text that parses, the parts
of a term stand one behind the other inside it, so no two of its places are the same and all
of them lie inside the term (`Placed.within`). The same holds of the places of a definition
(`parse_within`).
-/

namespace LiveCheck

/-! ## Terms in a term -/

namespace Term

/-- What holds of a term when it holds of its arguments, or of the bodies of its arms, holds
of every term. -/
theorem induct {motive : Term → Prop} (ref : ∀ ident, motive (.ref ident))
    (app : ∀ func args span, (∀ arg ∈ args, motive arg) → motive (.app func args span))
    (case : ∀ scrutinee branches span, (∀ branch ∈ branches, motive branch.body) →
      motive (.case scrutinee branches span)) : ∀ term, motive term := by
  intro term
  refine @Term.rec motive (fun args => ∀ arg ∈ args, motive arg)
    (fun branches => ∀ branch ∈ branches, motive branch.body)
    (fun branch => motive branch.body) ref app case (List.forall_mem_nil _) ?_
    (List.forall_mem_nil _) ?_ (fun _ _ body => body) term
  · intro arg rest first others
    exact List.forall_mem_cons.2 ⟨first, others⟩
  · intro branch rest first others
    exact List.forall_mem_cons.2 ⟨first, others⟩

mutual

/-- A term and all terms inside it. -/
def subterms : Term → List Term
  | .ref ident => [.ref ident]
  | .app func args span => .app func args span :: subtermsArgs args
  | .case scrutinee branches span => .case scrutinee branches span :: subtermsBranches branches

/-- `subterms` for the arguments of a call. -/
def subtermsArgs : List Term → List Term
  | [] => []
  | arg :: rest => arg.subterms ++ subtermsArgs rest

/-- `subterms` for the bodies of the arms of a case distinction. -/
def subtermsBranches : List (Branch Term) → List Term
  | [] => []
  | ⟨_, body⟩ :: rest => body.subterms ++ subtermsBranches rest

end

theorem subtermsArgs_eq (args : List Term) : subtermsArgs args = args.flatMap subterms := by
  induction args with
  | nil => rfl
  | cons arg rest ih => rw [subtermsArgs, ih, List.flatMap_cons]

theorem subtermsBranches_eq (branches : List (Branch Term)) :
    subtermsBranches branches = branches.flatMap fun branch => branch.body.subterms := by
  induction branches with
  | nil => rfl
  | cons branch rest ih => rw [subtermsBranches, ih, List.flatMap_cons]

/-- The name that a term uses: itself, the head of a call, or what a case distinction is on. -/
def subject : Term → Ident
  | .ref ident => ident
  | .app func _ _ => func
  | .case scrutinee _ _ => scrutinee

/-- The names used in a term, each as often as it is used. -/
def uses (term : Term) : List Ident := term.subterms.map subject

theorem uses_ref (ident : Ident) : (Term.ref ident).uses = [ident] := rfl

theorem uses_app (func : Ident) (args : List Term) (span : Span) :
    (Term.app func args span).uses = func :: args.flatMap uses := by
  rw [uses, subterms, subtermsArgs_eq, List.map_cons, List.map_flatMap]
  rfl

theorem uses_case (scrutinee : Ident) (branches : List (Branch Term)) (span : Span) :
    (Term.case scrutinee branches span).uses =
      scrutinee :: branches.flatMap fun branch => branch.body.uses := by
  rw [uses, subterms, subtermsBranches_eq, List.map_cons, List.map_flatMap]
  rfl

mutual

/-- The spans of a term, of the terms in it and of the names in it. -/
def places : Term → List Span
  | .ref ident => [ident.span]
  | .app func args span => span :: func.span :: placesArgs args
  | .case scrutinee branches span => span :: scrutinee.span :: placesBranches branches

/-- `places` for the arguments of a call. -/
def placesArgs : List Term → List Span
  | [] => []
  | arg :: rest => arg.places ++ placesArgs rest

/-- `places` for the arms of a case distinction. -/
def placesBranches : List (Branch Term) → List Span
  | [] => []
  | ⟨ctor, body⟩ :: rest => ctor.span :: body.places ++ placesBranches rest

end

theorem placesArgs_eq (args : List Term) : placesArgs args = args.flatMap places := by
  induction args with
  | nil => rfl
  | cons arg rest ih => rw [placesArgs, ih, List.flatMap_cons]

/-- The spans of an arm of a case distinction. -/
def armPlaces (branch : Branch Term) : List Span := branch.ctor.span :: branch.body.places

theorem placesBranches_eq (branches : List (Branch Term)) :
    placesBranches branches = branches.flatMap armPlaces := by
  induction branches with
  | nil => rfl
  | cons branch rest ih => rw [placesBranches, ih, List.flatMap_cons, armPlaces]

theorem places_app (func : Ident) (args : List Term) (span : Span) :
    (Term.app func args span).places = [span, func.span] ++ args.flatMap places := by
  rw [places, placesArgs_eq]
  rfl

theorem places_case (scrutinee : Ident) (branches : List (Branch Term)) (span : Span) :
    (Term.case scrutinee branches span).places =
      [span, scrutinee.span] ++ branches.flatMap armPlaces := by
  rw [places, placesBranches_eq]
  rfl

/-- A name stands at one of the places of the term that uses it. -/
theorem span_mem_places {ident : Ident} : ∀ {term : Term}, ident ∈ term.uses →
    ident.span ∈ term.places := by
  intro term
  induction term using induct with
  | ref other =>
      intro mem
      rw [List.mem_singleton.1 mem]
      exact List.mem_singleton_self _
  | app func args span ih =>
      intro mem
      rw [uses_app, List.mem_cons, List.mem_flatMap] at mem
      rw [places_app, List.mem_append, List.mem_flatMap]
      rcases mem with rfl | ⟨arg, argMem, mem⟩
      · exact Or.inl (by simp)
      · exact Or.inr ⟨arg, argMem, ih arg argMem mem⟩
  | case scrutinee branches span ih =>
      intro mem
      rw [uses_case, List.mem_cons, List.mem_flatMap] at mem
      rw [places_case, List.mem_append, List.mem_flatMap]
      rcases mem with rfl | ⟨branch, branchMem, mem⟩
      · exact Or.inl (by simp)
      · exact Or.inr ⟨branch, branchMem, List.mem_cons_of_mem _ (ih branch branchMem mem)⟩

end Term

/-- The spans of the names in a definition and of the terms in its body. -/
def Def.places (definition : Def) : List Span :=
  headSpans definition.origin definition.params ++
    match definition.body with
    | .func _ ret body => ret.span :: body.places
    | _ => []

/-! ## Spans inside a span -/

/-- Spans that are all different, cover something, and lie inside `whole`. -/
structure Within (whole : Span) (spans : List Span) : Prop where
  distinct : spans.Nodup
  proper : ∀ span ∈ spans, span.start < span.stop
  inside : ∀ span ∈ spans, span.Inside whole

variable {whole part : Span} {parts others spans inner : List Span}

theorem within_singleton (proper : part.start < part.stop) : Within part [part] where
  distinct := List.nodup_singleton _
  proper := List.forall_mem_singleton.2 proper
  inside := List.forall_mem_singleton.2 ⟨Nat.le_refl _, Nat.le_refl _⟩

/-- What ends with something else has a span of its own. -/
theorem Within.cons {middle : Nat} (within : Within ⟨whole.start, middle⟩ spans)
    (proper : whole.start < whole.stop) (rest : middle < whole.stop) :
    Within whole (whole :: spans) := by
  refine ⟨List.nodup_cons.2 ⟨?_, within.distinct⟩, ?_, ?_⟩
  · intro mem
    have stop : whole.stop ≤ middle := (within.inside whole mem).2
    omega
  · exact List.forall_mem_cons.2 ⟨proper, within.proper⟩
  · refine List.forall_mem_cons.2 ⟨⟨Nat.le_refl _, Nat.le_refl _⟩, ?_⟩
    intro span mem
    obtain ⟨start, stop⟩ := within.inside span mem
    exact ⟨start, Nat.le_trans stop (Nat.le_of_lt rest)⟩

/-- Spans that lie in some of the parts, those in one part before those in the next. -/
inductive Spread : List Span → List Span → Prop where
  | nil : Spread [] []
  | skip {part : Span} {parts spans : List Span} (rest : Spread parts spans) :
      Spread (part :: parts) spans
  | part {part : Span} {parts inner spans : List Span} (within : Within part inner)
      (rest : Spread parts spans) : Spread (part :: parts) (inner ++ spans)

theorem Spread.single (proper : part.start < part.stop) (rest : Spread parts spans) :
    Spread (part :: parts) (part :: spans) :=
  .part (within_singleton proper) rest

theorem Spread.append (first : Spread parts spans) (second : Spread others inner) :
    Spread (parts ++ others) (spans ++ inner) := by
  induction first with
  | nil => exact second
  | skip rest ih => exact .skip ih
  | part within rest ih =>
      rw [List.append_assoc, List.cons_append]
      exact .part within ih

theorem Spread.flatMap {α : Type} {phrases : List α} {parts spans : α → List Span}
    (spread : ∀ phrase ∈ phrases, Spread (parts phrase) (spans phrase)) :
    Spread (phrases.flatMap parts) (phrases.flatMap spans) := by
  induction phrases with
  | nil => exact .nil
  | cons phrase rest ih =>
      rw [List.forall_mem_cons] at spread
      rw [List.flatMap_cons, List.flatMap_cons]
      exact spread.1.append (ih spread.2)

theorem Spread.exists_part (spread : Spread parts spans) {span : Span} (mem : span ∈ spans) :
    span.start < span.stop ∧ ∃ part ∈ parts, span.Inside part := by
  induction spread with
  | nil => cases mem
  | skip rest ih =>
      obtain ⟨proper, part, partMem, inside⟩ := ih mem
      exact ⟨proper, part, List.mem_cons_of_mem _ partMem, inside⟩
  | @part first parts inner spans within rest ih =>
      rcases List.mem_append.1 mem with mem | mem
      · exact ⟨within.proper span mem, first, List.mem_cons_self, within.inside span mem⟩
      · obtain ⟨proper, part, partMem, inside⟩ := ih mem
        exact ⟨proper, part, List.mem_cons_of_mem _ partMem, inside⟩

theorem Spread.nodup (spread : Spread parts spans)
    (ordered : parts.Pairwise fun earlier later => earlier.stop ≤ later.start) :
    spans.Nodup := by
  induction spread with
  | nil => exact List.nodup_nil
  | skip rest ih => exact ih (List.pairwise_cons.1 ordered).2
  | part within rest ih =>
      obtain ⟨before, ordered⟩ := List.pairwise_cons.1 ordered
      refine List.nodup_append.2 ⟨within.distinct, ih ordered, ?_⟩
      rintro span mem _ later rfl
      -- It would have to end before it starts.
      obtain ⟨proper, part, partMem, start, -⟩ := rest.exists_part later
      obtain ⟨-, stop⟩ := within.inside span mem
      have behind := before part partMem
      omega

/-- What is spread over parts that stand one behind the other is within what holds the
parts. -/
theorem Spread.within (spread : Spread parts spans)
    (ordered : parts.Pairwise fun earlier later => earlier.stop ≤ later.start)
    (inside : ∀ part ∈ parts, part.Inside whole) : Within whole spans where
  distinct := spread.nodup ordered
  proper _ mem := (spread.exists_part mem).1
  inside span mem := by
    obtain ⟨-, part, partMem, start, stop⟩ := spread.exists_part mem
    obtain ⟨partStart, partStop⟩ := inside part partMem
    exact ⟨Nat.le_trans partStart start, Nat.le_trans stop partStop⟩

/-! ## Terms -/

variable {text : String}

theorem Written.proper {kind : TokenKind} {span : Span} {word : String}
    (written : Written text kind span word) : span.start < span.stop :=
  (inOrder_lexemes text).nonempty _ written.token

/-- The places of a phrase that ends with a closing bracket, from what is spread over the
parts before it. -/
theorem Laid.within_closed {closed : Span} {separators : List TokenKind}
    (laid : Laid text whole (parts ++ [closed]) separators) (ends : whole.stop = closed.stop)
    (spread : Spread parts spans) : Within whole (whole :: spans) := by
  have closedMem : closed ∈ parts ++ [closed] := List.mem_append_right _ (by simp)
  have proper := laid.proper closed closedMem
  obtain ⟨start, -⟩ := laid.inside closed closedMem
  obtain ⟨ordered, -, before⟩ := List.pairwise_append.1 laid.ordered
  have within : Within ⟨whole.start, closed.start⟩ spans := by
    refine spread.within ordered fun part mem => ⟨?_, before part mem closed (by simp)⟩
    exact (laid.inside part (List.mem_append_left _ mem)).1
  exact within.cons (by omega) (by omega)

/-- The places of a term are different and lie inside the term. -/
theorem Placed.within {term : Term} (placed : Placed text term) :
    Within term.span term.places := by
  induction placed with
  | ref written => exact within_singleton written.proper
  | @app func args span opened closed head opening placed closing extent laid ih =>
      rw [Term.places, Term.placesArgs_eq]
      have ends : span.stop = closed.stop := by rw [extent]
      refine laid.within_closed ends (.single head.proper (.skip ?_))
      rw [List.map_eq_flatMap]
      refine .flatMap fun arg mem => ?_
      have spread : Spread [arg.span] (arg.places ++ []) := .part (ih arg mem) .nil
      rwa [List.append_nil] at spread
  | @case scrutinee branches span keyword opened closed begins scrutinized opening constructors
      placed closing extent laid ih =>
      rw [Term.places, Term.placesBranches_eq]
      have ends : span.stop = closed.stop := by rw [extent]
      refine laid.within_closed ends (.skip (.single scrutinized.proper (.skip ?_)))
      refine .flatMap fun branch mem => .single (constructors branch mem).proper ?_
      have spread : Spread [branch.body.span] (branch.body.places ++ []) :=
        .part (ih branch mem) .nil
      rwa [List.append_nil] at spread

/-! ## Definitions -/

theorem spread_headSpans {name : Span} {params : List Param} (proper : name.start < name.stop)
    (written : ∀ param ∈ params, param.name.Written text ∧ param.type.Written text) :
    Spread (headSpans name params) (headSpans name params) :=
  .single proper (.flatMap fun param mem =>
    .single (written param mem).1.proper (.single (written param mem).2.proper .nil))

theorem PlacedItem.within {extent : Span} {defs : List Def} (placed : PlacedItem text extent defs)
    {definition : Def} (mem : definition ∈ defs) :
    Within definition.extent definition.places := by
  cases placed with
  | @func function params ret body isFunc head result placed covers laid =>
      obtain rfl := List.mem_singleton.1 mem
      rw [head.covers, Def.places, isFunc]
      have body : Spread [body.span] (body.places ++ []) := .part placed.within .nil
      rw [List.append_nil] at body
      have spread := (spread_headSpans head.origin.proper head.params).append
        (.single result.proper body)
      exact spread.within laid.ordered laid.inside
  | @type type ctors keyword opened closed isType begins head opening constructors closing covers
      laid =>
      rcases List.mem_cons.1 mem with rfl | mem
      · have only : definition.places = [definition.origin] := by
          simp only [Def.places, Def.params, isType, headSpans, List.flatMap_nil, List.append_nil]
        rw [head.covers, only]
        exact ⟨List.nodup_singleton _, List.forall_mem_singleton.2 head.origin.proper,
          List.forall_mem_singleton.2 head.inside⟩
      · obtain ⟨short, fields, isCtor, -, head⟩ := constructors definition mem
        have only : definition.places = headSpans definition.origin definition.params := by
          simp only [Def.places, isCtor, List.append_nil]
        have sub : (headSpans definition.origin definition.params).Sublist
            (keyword :: type.origin :: opened ::
              ctors.flatMap (fun ctor => headSpans ctor.origin ctor.params) ++ [closed]) := by
          obtain ⟨before, after, rfl⟩ := List.append_of_mem mem
          simp only [List.flatMap_append, List.flatMap_cons, List.cons_append, List.append_assoc]
          refine .cons _ (.cons _ (.cons _ (.trans ?_ (List.sublist_append_right _ _))))
          exact List.sublist_append_left _ _
        rw [head.covers, only]
        exact (spread_headSpans head.origin.proper head.params).within (laid.ordered.sublist sub)
          fun part partMem => laid.inside part (sub.subset partMem)

/-- The places of a definition of a text that parses are different and lie inside its item. -/
theorem parse_within {uri text : String} {defs : List Def} (parsed : parse uri text = .ok defs)
    {definition : Def} (mem : definition ∈ defs) :
    Within definition.extent definition.places := by
  obtain ⟨file, derived⟩ := Parser.items_sound List.nodup_nil parsed
  rw [← derived.definitions_eq] at mem
  obtain ⟨item, itemMem, mem⟩ := List.mem_flatMap.1 mem
  exact ((Grammar.File.placed uri derived.tokens_eq).1 item itemMem).within mem

end LiveCheck
