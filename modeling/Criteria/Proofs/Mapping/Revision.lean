import Criteria.Proofs.Filter.Conditions

/-! # Revising clauses in place

A clause can also be revised in place: its fields are set one after the other, and what has been set
before a failure stays set. `perform_eq` says that a revision leaves what mappings and conversions
compute from the clause as a whole, and that it leaves the clause as it was when it fails. From the
few things that a single step can do follows what a whole sequence of steps preserves.
-/

namespace Criteria

/-- A computation that revises a clause and may fail on the way. -/
abbrev Revision := ExceptT Error (StateM Clause)

/-- Whether a clause is to be compiled or left out. -/
inductive Fate where
  | kept
  | dropped
deriving DecidableEq

namespace Revision

/-- Move the clause to another column. -/
def setName (name : String) : Revision Unit :=
  modify (·.rename name)

/-- Give the clause another value. -/
def setValue (value : Value) : Revision Unit :=
  modify fun clause => { clause with value }

/-- Put a query in the place of the clause. -/
def setOverride (query : Query) : Revision Unit :=
  modify fun clause => { clause with override := some query }

/-- The result of a revision and the clause that it leaves. -/
def perform {α : Type} (revision : Revision α) (clause : Clause) : Except Error α × Clause :=
  (revision.run.run clause).run

variable {α β : Type}

/-- The second step revises the clause that the first one leaves, unless that one fails. -/
@[simp] theorem perform_bind (first : Revision α) (next : α → Revision β) (clause : Clause) :
    (first >>= next).perform clause =
      match first.perform clause with
      | (.ok value, left) => (next value).perform left
      | (.error error, left) => (.error error, left) := by
  change (ExceptT.bindCont next (first.perform clause).1 (first.perform clause).2).run = _
  rcases first.perform clause with ⟨_ | _, _⟩ <;> rfl

@[simp] theorem perform_get (clause : Clause) :
    (get : Revision Clause).perform clause = (.ok clause, clause) := rfl

@[simp] theorem perform_liftM (result : Except Error α) (clause : Clause) :
    (liftM result : Revision α).perform clause = (result, clause) := rfl

end Revision

open Revision

namespace Mapping

/-- Revise a clause with the given raw value. -/
def edit (raw : String) : Mapping → Revision Unit
  | text value => setValue (.text (value raw))
  | namedText value => do
    let (column, mapped) := value raw
    setName column
    setValue (.text mapped)
  | number value => setValue (.number (value raw))
  | namedNumber value => do
    let (column, mapped) := value raw
    setName column
    setValue (.number mapped)
  | boolean value => setValue (.boolean (value raw))
  | namedBoolean value => do
    let (column, mapped) := value raw
    setName column
    setValue (.boolean mapped)
  | integer value => do
    let operand ← operand (← get).name raw
    setValue (.number (value operand))
  | namedInteger value => do
    let operand ← operand (← get).name raw
    let (column, mapped) := value operand
    setName column
    setValue (.number mapped)
  | enumeration table => do
    let found ← table.find (← get).name raw
    setValue found
  | suppliedEnumeration table => do
    let found ← (table ()).find (← get).name raw
    setValue found
  | namedEnumeration table => do
    let (column, table) := table ()
    -- The clause is only moved once its item has been found.
    let found ← table.find column raw
    setName column
    setValue found
  | item value => do
    let (chosen, table) := value raw
    let found ← table.find (← get).name chosen
    setValue found
  | namedItem value => do
    let (column, chosen, table) := value raw
    let found ← table.find column chosen
    setName column
    setValue found
  | override query => do
    setOverride (query (← get).operator raw)
  | skip => pure ()

/-- Whether a mapping drops the clauses it is applied to. -/
def fate : Mapping → Fate
  | skip => .dropped
  | _ => .kept

/-- Apply a mapping in place. A value that has a kind already is left alone. -/
def revise (mapping : Mapping) : Revision Fate := do
  match (← get).value with
  | .raw raw =>
    mapping.edit raw
    return mapping.fate
  | _ => return .kept

end Mapping

/-- Apply the mapping of the clause's field in place. -/
def Mappings.revise (mappings : Mappings) : Revision Fate := do
  let clause ← get
  match mappings.entries[clause.name]? with
  | none => return .kept
  | some (.known mapping) => mapping.revise
  | some (.unrecognized shape) => throw (.unknownMapping clause.name shape)

/-- Convert the value in place. -/
def Kind.revise (target : Kind) : Revision Fate := do
  let clause ← get
  if clause.value.kind = .typed target then
    return .kept
  match clause.value.coerce? target with
  | some value =>
    setValue value
    return .kept
  | none =>
    throw (.badConversion clause.name clause.value.display clause.value.kind target)

/-- A step that revises a clause. -/
inductive Step where
  | table (mappings : Mappings)
  | single (mapping : Mapping)
  | coercion (target : Kind)

namespace Step

/-- Carry out a step in place. -/
def revise : Step → Revision Fate
  | table mappings => mappings.revise
  | single mapping => mapping.revise
  | coercion target => target.revise

/-- What a step computes from a clause as a whole. -/
def outcome (clause : Clause) : Step → Except Error Outcome
  | table mappings => mappings.apply clause
  | single mapping => mapping.apply clause
  | coercion target => return .keep (← clause.coerce target)

/-- The step applies a mapping or a table of them. -/
def IsMapping : Step → Prop
  | table _ | single _ => True
  | coercion _ => False

end Step

/-- The result with the clause that it leaves: only a kept clause is another one. -/
def Clause.settled (clause : Clause) : Except Error Outcome → Except Error Fate × Clause
  | .ok (.keep kept) => (.ok .kept, kept)
  | .ok .skip => (.ok .dropped, clause)
  | .error error => (.error error, clause)

/-- The clause after a sequence of steps, failed ones among them. -/
def Clause.revised (clause : Clause) (steps : List Step) : Clause :=
  steps.foldl (fun clause step => (step.revise.perform clause).2) clause

/-! ### In place and as a whole -/

variable {clause : Clause}

theorem Mapping.perform_eq (mapping : Mapping) (clause : Clause) :
    mapping.revise.perform clause = clause.settled (mapping.apply clause) := by
  obtain ⟨name, operator, value, renamed, override⟩ := clause
  cases value with
  | boolean _ | number _ | text _ => rfl
  | raw raw =>
    cases mapping with
    | text _ | namedText _ | number _ | namedNumber _ | boolean _ | namedBoolean _ | override _
    | skip => rfl
    | integer _ | namedInteger _ =>
      simp only [revise, edit, apply, effect, perform_bind, perform_get, perform_liftM]
      cases operand name raw <;> rfl
    | enumeration _ | suppliedEnumeration _ | namedEnumeration _ | item _ | namedItem _ =>
      simp only [revise, edit, apply, effect, perform_bind, perform_get, perform_liftM]
      generalize Enumeration.find _ _ _ = found
      cases found <;> rfl

theorem Mappings.perform_eq (mappings : Mappings) (clause : Clause) :
    mappings.revise.perform clause = clause.settled (mappings.apply clause) := by
  simp only [revise, apply, perform_bind, perform_get]
  cases mappings.entries[clause.name]? with
  | none => rfl
  | some entry =>
    cases entry with
    | known mapping => exact mapping.perform_eq clause
    | unrecognized shape => rfl

theorem Value.coerce?_of_kind {value : Value} {target : Kind} (fits : value.kind = .typed target) :
    value.coerce? target = some value := by
  cases value with
  | raw _ => cases fits
  | boolean _ | number _ | text _ => exact if_pos fits

theorem Kind.perform_eq (target : Kind) (clause : Clause) :
    target.revise.perform clause = clause.settled (return .keep (← clause.coerce target)) := by
  simp only [revise, perform_bind, perform_get, Clause.coerce]
  by_cases fits : clause.value.kind = .typed target
  · simp only [fits, if_true, Value.coerce?_of_kind fits]
    rfl
  · simp only [fits, if_false]
    cases clause.value.coerce? target <;> rfl

/-- A step leaves what it computes from the clause as a whole, and nothing else. -/
theorem Step.perform_eq (step : Step) (clause : Clause) :
    step.revise.perform clause = clause.settled (step.outcome clause) := by
  cases step with
  | table mappings => exact mappings.perform_eq clause
  | single mapping => exact mapping.perform_eq clause
  | coercion target => exact target.perform_eq clause

/-! ### Single steps -/

/-- What a step can do to a clause, with the result: nothing at all, whatever the result; give it a
typed value, and with a mapping possibly another column; or put a query in its place. -/
inductive Step.Turns (step : Step) (clause : Clause) : Except Error Fate → Clause → Prop
  | still (result : Except Error Fate) : Turns step clause result clause
  | typed {column : Option String} {value : Value} (unread : clause.value.kind = .raw)
      (kind : value.kind ≠ .raw) (moves : column ≠ none → step.IsMapping) :
      Turns step clause (.ok .kept) { clause.moved column with value }
  | replaced {query : Query} (unread : clause.value.kind = .raw) :
      Turns step clause (.ok .kept) { clause with override := some query }

theorem Mapping.turns {mapping : Mapping} {step : Step} {outcome : Outcome}
    (applied : mapping.apply clause = .ok outcome) (maps : step.IsMapping) :
    step.Turns clause (clause.settled (.ok outcome)).1 (clause.settled (.ok outcome)).2 := by
  obtain ⟨_, rfl⟩ | ⟨raw, unread, ⟨value, _, kind, rfl⟩ | ⟨query, _, rfl⟩ | ⟨_, rfl⟩⟩ :=
    Mapping.apply_cases applied
  · exact .still _
  · exact .typed (by rw [unread]; rfl) kind fun _ => maps
  · exact .replaced (by rw [unread]; rfl)
  · exact .still _

/-- Converting a typed value does not change it. -/
theorem Value.eq_of_coerce? {value result : Value} {target : Kind} (typed : value.kind ≠ .raw)
    (coerced : value.coerce? target = some result) : result = value := by
  cases value with
  | raw _ => exact absurd rfl typed
  | boolean _ | number _ | text _ =>
    exact (Option.some.inj (Option.ite_none_right_eq_some.mp coerced).2).symm

theorem Step.turns (step : Step) (clause : Clause) :
    step.Turns clause (step.revise.perform clause).1 (step.revise.perform clause).2 := by
  rw [step.perform_eq]
  cases computed : step.outcome clause with
  | error error => exact .still _
  | ok result =>
    cases step with
    | single mapping => exact Mapping.turns computed trivial
    | table mappings =>
      simp only [outcome, Mappings.apply] at computed
      split at computed
      · cases computed
        exact .still _
      · exact Mapping.turns computed trivial
      · cases computed
    | coercion target =>
      obtain ⟨_, coerced, rfl⟩ := Except.bind_pure_eq_ok_iff.mp computed
      obtain ⟨value, read, rfl⟩ := Clause.coerce_eq_ok_iff.mp coerced
      by_cases unread : clause.value.kind = .raw
      · have kind : value.kind ≠ .raw := by
          rw [Value.kind_of_coerce? read]
          exact ValueKind.noConfusion
        exact @Step.Turns.typed _ clause none value unread kind fun moves => absurd rfl moves
      · obtain rfl := Value.eq_of_coerce? unread read
        exact .still _

namespace Step.Turns

variable {step : Step} {result : Except Error Fate} {next : Clause}

theorem eq_of_error {error : Error} (turns : step.Turns clause (.error error) next) :
    next = clause := by
  cases turns
  rfl

theorem eq_of_typed (turns : step.Turns clause result next) (typed : clause.value.kind ≠ .raw) :
    next = clause := by
  cases turns with
  | still => rfl
  | typed unread | replaced unread => exact absurd unread typed

theorem operator_eq (turns : step.Turns clause result next) : next.operator = clause.operator := by
  cases turns with
  | @typed column => cases column <;> rfl
  | still | replaced => rfl

theorem override_ne_none (turns : step.Turns clause result next) (present : clause.override ≠ none) :
    next.override ≠ none := by
  cases turns with
  | @typed column => cases column <;> exact present
  | still => exact present
  | replaced => exact Option.some_ne_none _

/-- As long as the value is raw, a step changes nothing but the query in the place of the clause. -/
theorem eq_of_raw (turns : step.Turns clause result next) (unread : next.value.kind = .raw) :
    next = { clause with override := next.override } := by
  cases turns with
  | still | replaced => rfl
  | typed _ kind => exact absurd unread kind

/-- A step that changes the value gives it a kind. -/
theorem typed_of_value_ne (turns : step.Turns clause result next)
    (changed : next.value ≠ clause.value) : clause.value.kind = .raw ∧ next.value.kind ≠ .raw := by
  cases turns with
  | still | replaced => exact absurd rfl changed
  | typed unread kind => exact ⟨unread, kind⟩

/-- A clause is only moved by a mapping that types its value. -/
theorem typed_of_moved (turns : step.Turns clause result next)
    (moved : next.name ≠ clause.name ∨ next.renamed ≠ clause.renamed) :
    step.IsMapping ∧ result = .ok .kept ∧ next.renamed = true ∧ clause.value.kind = .raw ∧
      next.value.kind ≠ .raw := by
  cases turns with
  | still | replaced => exact absurd moved (by simp)
  | @typed column _ unread kind moves =>
    cases column with
    | none => exact absurd moved (by simp [Clause.moved])
    | some column => exact ⟨moves (Option.some_ne_none _), rfl, rfl, unread, kind⟩

theorem raw_of_override_ne (turns : step.Turns clause result next)
    (changed : next.override ≠ clause.override) :
    clause.value.kind = .raw ∧ next.value = clause.value := by
  cases turns with
  | still => exact absurd rfl changed
  | @typed column => cases column <;> exact absurd rfl changed
  | replaced unread => exact ⟨unread, rfl⟩

end Step.Turns

/-- A mapping that has succeeded has nothing more to do. -/
theorem Mapping.perform_again {mapping : Mapping} {fate : Fate} {next : Clause}
    (performed : mapping.revise.perform clause = (.ok fate, next)) :
    (mapping.revise.perform next).2 = next := by
  rw [mapping.perform_eq] at performed
  cases applied : mapping.apply clause with
  | error error =>
    rw [applied] at performed
    cases performed
  | ok outcome =>
    obtain ⟨_, rfl⟩ | ⟨raw, unread, ⟨value, _, kind, rfl⟩ | ⟨query, rfl, rfl⟩ | ⟨rfl, rfl⟩⟩ :=
      Mapping.apply_cases applied
    · rw [applied] at performed
      cases performed
      rw [mapping.perform_eq, applied]
      rfl
    · rw [applied] at performed
      cases performed
      exact (Step.turns (.single mapping) _).eq_of_typed kind
    · -- The value is still raw: the query is made a second time, of the same operator and value.
      rw [applied] at performed
      cases performed
      simp only [Mapping.perform_eq, apply, unread]
      rfl
    · rw [applied] at performed
      cases performed
      rw [Mapping.perform_eq, applied]
      rfl

/-! ### Sequences of steps -/

namespace Clause

variable {steps : List Step}

theorem revised_cons (clause : Clause) (step : Step) (rest : List Step) :
    clause.revised (step :: rest) = (step.revise.perform clause).2.revised rest := rfl

theorem revised_append (clause : Clause) (front back : List Step) :
    clause.revised (front ++ back) = (clause.revised front).revised back :=
  List.foldl_append

/-- Once the value has a kind, nothing changes any more. -/
theorem revised_of_typed (typed : clause.value.kind ≠ .raw) (steps : List Step) :
    clause.revised steps = clause := by
  induction steps with
  | nil => rfl
  | cons step rest ih => rw [revised_cons, (step.turns clause).eq_of_typed typed, ih]

theorem operator_revised (clause : Clause) (steps : List Step) :
    (clause.revised steps).operator = clause.operator := by
  induction steps generalizing clause with
  | nil => rfl
  | cons step rest ih => exact (ih _).trans (step.turns clause).operator_eq

theorem override_revised_ne_none (present : clause.override ≠ none) (steps : List Step) :
    (clause.revised steps).override ≠ none := by
  induction steps generalizing clause with
  | nil => exact present
  | cons step rest ih => exact ih ((step.turns clause).override_ne_none present)

/-- As long as the value is raw, nothing has changed but the query in the place of the clause. -/
theorem revised_of_raw (unread : (clause.revised steps).value.kind = .raw) :
    clause.revised steps = { clause with override := (clause.revised steps).override } := by
  induction steps generalizing clause with
  | nil => rfl
  | cons step rest ih =>
    rw [revised_cons] at unread ⊢
    have later := ih unread
    -- No step takes a kind away, so the value was raw after the first one as well.
    have still : (step.revise.perform clause).2.value.kind = .raw := by
      rw [later] at unread
      exact unread
    have first := (step.turns clause).eq_of_raw still
    rw [later, first]

end Clause

/-- A clause changes at most once. A step that fails leaves it as it was, and the operator never
changes. As long as its value is raw, nothing has changed but the query in its place; the step that
gives the value a kind is the last one that changes anything, and only a mapping that does so moves
the clause to another column. A query in the place of a clause stays there, and is only put there or
exchanged as long as the value is raw. A mapping applied again after it has succeeded changes
nothing. -/
theorem revisions_settle {clause current next last : Clause} {before after : List Step} {step : Step}
    {result : Except Error Fate} (reached : clause.revised before = current)
    (performed : step.revise.perform current = (result, next))
    (left : next.revised after = last) :
    clause.revised (before ++ step :: after) = last ∧
    (∀ error, result = .error error → next = current) ∧
    last.operator = clause.operator ∧
    (current.value.kind ≠ .raw → last = current) ∧
    (current.value.kind = .raw → current = { clause with override := current.override }) ∧
    (next.value ≠ current.value →
      current.value.kind = .raw ∧ next.value.kind ≠ .raw ∧ last = next) ∧
    (next.name ≠ current.name ∨ next.renamed ≠ current.renamed →
      step.IsMapping ∧ result = .ok .kept ∧ next.renamed = true ∧ current.value.kind = .raw ∧
        next.value.kind ≠ .raw) ∧
    (current.override ≠ none → last.override ≠ none) ∧
    (next.override ≠ current.override → current.value.kind = .raw ∧ next.value = current.value) ∧
    ∀ mapping fate, step = .single mapping → result = .ok fate →
      (step.revise.perform next).2 = next := by
  have turns : step.Turns current result next := by
    have turns := step.turns current
    rwa [performed] at turns
  have continued : clause.revised (before ++ step :: after) = last := by
    rw [Clause.revised_append, reached, Clause.revised_cons, performed, left]
  have onwards : current.revised (step :: after) = last := by
    rw [Clause.revised_cons, performed, left]
  refine ⟨continued, ?_, ?_, ?_, ?_, ?_, turns.typed_of_moved, ?_, turns.raw_of_override_ne, ?_⟩
  · rintro error rfl
    exact turns.eq_of_error
  · rw [← continued]
    exact clause.operator_revised _
  · intro typed
    rw [← onwards]
    exact Clause.revised_of_typed typed _
  · subst reached
    exact Clause.revised_of_raw
  · intro changed
    obtain ⟨unread, kind⟩ := turns.typed_of_value_ne changed
    exact ⟨unread, kind, left.symm.trans (Clause.revised_of_typed kind after)⟩
  · intro present
    rw [← onwards]
    exact Clause.override_revised_ne_none present _
  · rintro mapping fate rfl rfl
    exact Mapping.perform_again performed

/-- A clause about states. -/
def openState : Clause :=
  .ofRaw "state" .equal "open"

/-- States are looked up elsewhere. -/
def replaceState : Step :=
  .single (.override fun _ raw => ⟨"state_id IN (?)", [.text raw]⟩)

/-- A state says whether something is a draft. -/
def draftState : Step :=
  .single (.namedBoolean fun raw => ("draft", raw == "open"))

/-- The levels of no state are known. -/
def rankState : Step :=
  .single (.namedEnumeration fun _ => ("level", ∅))

/-- The clause about states is replaced, then cannot be read as a number, then becomes a truth value
of another column, and stays as it is after that. Where its level cannot be looked up, it is not
moved to the column of levels either. -/
theorem revisions_settle_states :
    openState.revised
      ([replaceState, .coercion .number] ++ draftState :: [.coercion .text, rankState]) =
        ⟨"draft", .equal, .boolean true, true, some ⟨"state_id IN (?)", [.text "open"]⟩⟩ ∧
    ∀ next, rankState.revise.perform openState = (.error (.enumNotFound "level" "open"), next) →
      next = openState := by
  have reached : openState.revised [replaceState, .coercion .number] =
      { openState with override := some ⟨"state_id IN (?)", [.text "open"]⟩ } := rfl
  have performed : draftState.revise.perform
      { openState with override := some ⟨"state_id IN (?)", [.text "open"]⟩ } =
        (.ok .kept, ⟨"draft", .equal, .boolean true, true,
          some ⟨"state_id IN (?)", [.text "open"]⟩⟩) := rfl
  have left : Clause.revised ⟨"draft", .equal, .boolean true, true,
      some ⟨"state_id IN (?)", [.text "open"]⟩⟩ [.coercion .text, rankState] =
        ⟨"draft", .equal, .boolean true, true, some ⟨"state_id IN (?)", [.text "open"]⟩⟩ := rfl
  refine ⟨(revisions_settle reached performed left).1, fun next failed => ?_⟩
  have start : openState.revised [] = openState := rfl
  have stopped : next.revised [] = next := rfl
  exact (revisions_settle start failed stopped).2.1 _ rfl

end Criteria
