import Criteria.Proofs.Filter.Reading

/-! # The kinds of bound arguments

Whatever a mapping makes of a clause, the argument bound for it is of the kind that its column is
declared to have: 0 or 1 for truth values, an integer or the pattern of one for numbers, and a text
for texts. A typed value of another kind is never bound. Only a query that was put in the place of a
clause before can bring other arguments with it.
-/

namespace Criteria

variable {schema : Schema} {mappings : Mappings}

/-- The arguments that an operator compares columns of a kind with. -/
inductive Kind.Binds (operator : Operator) : Kind → Argument → Prop
  | zero : Binds operator .boolean (.int 0)
  | one : Binds operator .boolean (.int 1)
  | number (plain : operator.isLike = false) (value : Int64) : Binds operator .number (.int value)
  | numberPattern (searches : operator.isLike = true) (pattern : String) :
      Binds operator .number (.text pattern)
  | text (value : String) : Binds operator .text (.text value)

/-- On truth values searches are comparisons by equality, and patterns are only looked for in
numbers and texts. -/
structure Kind.ComparesBy (operator : Operator) (kind : Kind) (comparator : Comparator) : Prop where
  equality : kind = .boolean → operator.isLike = true →
    comparator = if operator = .excludes then .notEqual else .equal
  pattern : comparator = .like ∨ comparator = .notLike → kind = .number ∨ kind = .text

/-- How a clause adds a condition. A query in its place is added as it is, and otherwise a declared
column is compared with an argument of its kind. -/
inductive Clause.AddsTyped (schema : Schema) (mappings : Mappings) (clause : Clause) :
    Condition → Prop
  | replaced {query : Query} (override : clause.override = some query) :
      AddsTyped schema mappings clause (.verbatim query)
  | compared {column : String} {kind : Kind} {comparator : Comparator} {argument : Argument}
      (fresh : clause.override = none) (mapped : clause.column? mappings = some column)
      (declared : schema column = some kind) (binds : kind.Binds clause.operator argument)
      (compares : kind.ComparesBy clause.operator comparator) :
      AddsTyped schema mappings clause (.compare column comparator argument)

/-- A value of a kind is bound as an argument of that kind. -/
theorem Operator.binds_bind (operator : Operator) {value : Value} {kind : Kind}
    (typed : value.kind = .typed kind) : kind.Binds operator (operator.bind value) := by
  cases searches : operator.pattern? with
  | none =>
    have plain : operator.isLike = false := by simp [isLike, searches]
    rw [bind_of_pattern?_eq_none searches]
    cases value with
    | raw written => contradiction
    | boolean value =>
      cases typed
      cases value with
      | false => exact .zero
      | true => exact .one
    | number value =>
      cases typed
      exact .number plain value
    | text value =>
      cases typed
      exact .text value
  | some pattern =>
    have like : operator.isLike = true := by simp [isLike, searches]
    cases kind with
    | boolean =>
      cases value with
      | boolean value =>
        cases value with
        | false => exact .zero
        | true => exact .one
      | raw written => contradiction
      | number _ | text _ => cases typed
    | number =>
      rw [bind_of_pattern? searches (by rw [typed]; decide)]
      exact .numberPattern like _
    | text =>
      rw [bind_of_pattern? searches (by rw [typed]; decide)]
      exact .text _

theorem Operator.comparesBy {operator : Operator} {comparator : Kind → Comparator}
    (compares : operator.comparator? = some comparator) (kind : Kind) :
    kind.ComparesBy operator (comparator kind) := by
  constructor
  · rintro rfl searches
    cases operator with
    | includes | excludes | startsWith | endsWith =>
      cases compares
      rfl
    | equal | notEqual | regex | notRegex | greater | less | atLeast | atMost => contradiction
  · intro pattern
    cases kind with
    | number => exact .inl rfl
    | text => exact .inr rfl
    | boolean =>
      cases operator with
      | regex | notRegex => contradiction
      | equal | notEqual | includes | excludes | startsWith | endsWith | greater | less | atLeast
      | atMost =>
        cases compares
        rcases pattern with like | notLike <;> contradiction

/-- A typed value is only read as one of its own kind. -/
theorem Value.kind_eq_of_coerce? {value result : Value} {found target : Kind}
    (typed : value.kind = .typed found) (coerced : value.coerce? target = some result) :
    found = target := by
  cases value with
  | raw written => contradiction
  | boolean _ | number _ | text _ =>
    simp only [coerce?, Option.ite_none_right_eq_some] at coerced
    exact ValueKind.typed.inj (typed.symm.trans coerced.1)

/-- What a clause adds is typed, unless a query was put in its place before. -/
theorem Clause.Adds.typed {clause : Clause} {condition : Condition}
    (adds : clause.Adds schema mappings condition) (plain : mappings.All Mapping.IsPlain) :
    clause.AddsTyped schema mappings condition := by
  obtain ⟨kept, applied, conditioned⟩ := Clause.mappedCondition?_eq_ok_some_iff.mp adds
  have keeps := Mappings.keeps_of_apply applied
  have same := keeps.override_eq plain
  rcases Clause.condition_eq_ok_iff.mp conditioned with
    ⟨query, present, rfl⟩ | ⟨absent, comparator, kind, value, compares, known, coerced, rfl⟩
  · exact .replaced (same.symm.trans present)
  · have mapped : clause.column? mappings = some kept.name := by rw [Clause.column?, applied]
    have binds := kept.operator.binds_bind (Value.kind_of_coerce? coerced)
    have comparesBy := Operator.comparesBy compares kind
    rw [keeps.operator_eq] at binds comparesBy
    rw [keeps.operator_eq]
    exact .compared (same.symm.trans absent) mapped known binds comparesBy

namespace Formula

/-- If mappings put no queries in the place of clauses, each kept clause of a compiled formula has
added a comparison of a declared column with one argument of its kind, or the query that was in its
place before; without such queries all arguments are integers and texts. A typed value of another
kind than its column is declared to have keeps the formula from compiling. -/
theorem compile_typed (plain : mappings.All Mapping.IsPlain) (formula : Formula) :
    (∀ query, formula.compile schema mappings = .ok query →
      ∃ groups, query = conjunction groups ∧
        query.arguments = groups.flatten.flatMap (·.query.arguments) ∧
        List.Forall₂ (List.Forall₂ (Clause.AddsTyped schema mappings))
          (formula.groups.map mappings.kept) groups ∧
        (formula.IsUnreplaced mappings → ∀ argument ∈ query.arguments,
          (∃ value, argument = .int value) ∨ ∃ value, argument = .text value)) ∧
    ∀ clause ∈ formula.groups.flatten, ∀ kept found declared,
      mappings.apply clause = .ok (.keep kept) → kept.override = none →
      kept.value.kind = .typed found → schema kept.name = some declared → found ≠ declared →
        ∃ error, formula.compile schema mappings = .error error := by
  constructor
  · intro query compiled
    obtain ⟨groups, succeeds, rfl⟩ := compile_eq_ok_iff.mp compiled
    have added := forall₂_kept_of_conditions succeeds
    refine ⟨groups, rfl, arguments_conjunction groups,
      added.imp fun _ _ => List.Forall₂.imp fun _ _ adds => adds.typed plain, ?_⟩
    intro unreplaced argument member
    rw [arguments_conjunction] at member
    obtain ⟨condition, among, inside⟩ := List.mem_flatMap.mp member
    obtain ⟨clause, kept, adds⟩ :=
      (forall₂_kept_flatten_of_conditions succeeds).exists_of_mem_right among
    cases adds.typed plain with
    | replaced override => cases (unreplaced clause kept).symm.trans override
    | compared _ _ _ binds _ =>
      rw [List.mem_singleton.mp inside]
      cases binds with
      | zero | one | number => exact .inl ⟨_, rfl⟩
      | numberPattern | text => exact .inr ⟨_, rfl⟩
  · intro clause member kept found declared applied fresh typed known differ
    -- If the formula compiled, the clause would have added a value read as one of the declared kind.
    cases compiled : formula.compile schema mappings with
    | error error => exact ⟨error, rfl⟩
    | ok query =>
      have undropped : clause ∈ mappings.kept formula.groups.flatten :=
        Mappings.mem_kept_iff.mpr ⟨member, by simp [applied]⟩
      obtain ⟨condition, adds⟩ := exists_adds_of_compile compiled undropped
      obtain ⟨_, same, conditioned⟩ := Clause.mappedCondition?_eq_ok_some_iff.mp adds
      cases applied.symm.trans same
      rcases Clause.condition_eq_ok_iff.mp conditioned with
        ⟨query, present, _⟩ | ⟨_, _, kind, _, _, declares, coerced, _⟩
      · cases fresh.symm.trans present
      · cases known.symm.trans declares
        exact absurd (Value.kind_eq_of_coerce? typed coerced) differ

end Formula

/-- Drafts are marked by truth values, and years are numbers. No other columns are declared. -/
def draftSchema : Schema := fun name =>
  if name = "draft" then some .boolean else if name = "year" then some .number else none

/-- A state is about drafts, and a decade is given as a text. -/
def draftMappings : Mappings :=
  (Mappings.empty.insert "state" (.known (.namedBoolean fun raw => ("draft", raw == "open"))))
    |>.insert "decade" (.known (.namedText fun raw => ("year", raw ++ "0")))

/-- Searches in a number and in truth values, typed by a mapping or before it. -/
def draftSearch : Formula :=
  ⟨[[.ofRaw "year" .startsWith "19", ⟨"year", .atLeast, .number 2001, true, none⟩],
    [.ofRaw "state" .excludes "closed"]]⟩

/-- A decade, whose column is one of numbers. -/
def decadeSearch : Clause :=
  .ofRaw "decade" .equal "199"

theorem compile_typed_drafts :
    draftMappings.All Mapping.IsPlain ∧
    draftSearch.compile draftSchema draftMappings =
      .ok ⟨"(year LIKE ? OR year >= ?) AND (draft <> ?)", [.text "19%", .int 2001, .int 0]⟩ ∧
    (∃ groups, List.Forall₂ (List.Forall₂ (Clause.AddsTyped draftSchema draftMappings))
      (draftSearch.groups.map draftMappings.kept) groups) ∧
    draftMappings.apply decadeSearch = .ok (.keep ⟨"year", .equal, .text "1990", true, none⟩) ∧
    ∃ error, (Formula.mk [[decadeSearch]]).compile draftSchema draftMappings = .error error := by
  have plain : draftMappings.All Mapping.IsPlain :=
    ((Mappings.all_empty _).insert (by rintro _ ⟨⟩) "state").insert (by rintro _ ⟨⟩) "decade"
  have compiled : draftSearch.compile draftSchema draftMappings =
      .ok ⟨"(year LIKE ? OR year >= ?) AND (draft <> ?)", [.text "19%", .int 2001, .int 0]⟩ := by
    decide +kernel
  have applied : draftMappings.apply decadeSearch =
      .ok (.keep ⟨"year", .equal, .text "1990", true, none⟩) := by
    decide +kernel
  obtain ⟨groups, _, _, typed, _⟩ := (Formula.compile_typed plain draftSearch).1 _ compiled
  have declared : draftSchema "year" = some .number := by decide
  have refused := (Formula.compile_typed plain ⟨[[decadeSearch]]⟩).2 decadeSearch (by decide) _
    .text .number applied rfl rfl declared (by decide)
  exact ⟨plain, compiled, ⟨groups, typed⟩, applied, refused⟩

/-- A clause that another table has replaced by a query without its column. -/
def undeleted : Formula :=
  ⟨[[{ Clause.ofRaw "deleted" .equal "1" with override := some ⟨"deleted_at IS ?", [.null]⟩ }]]⟩

/-- A query that was put in the place of a clause before brings arguments of any type with it, and
nothing declares its column. -/
theorem not_compile_typed_replaced :
    Mappings.empty.All Mapping.IsPlain ∧
    undeleted.compile (fun _ => none) .empty = .ok ⟨"(deleted_at IS ?)", [.null]⟩ ∧
    ∀ clause ∈ undeleted.groups.flatten,
      Mappings.empty.apply clause = .ok (.keep clause) ∧
      ∀ kind : Kind, ¬ kind.Binds clause.operator .null := by
  refine ⟨Mappings.all_empty _, by decide +kernel, ?_⟩
  intro clause member
  obtain rfl := List.mem_singleton.mp member
  refine ⟨by decide +kernel, ?_⟩
  rintro kind ⟨⟩

end Criteria
