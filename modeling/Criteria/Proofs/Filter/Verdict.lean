import Criteria.Proofs.Filter.Conditions

/-! # Which filters compile

Whether a filter compiles is decided clause by clause, and the first error in reading order counts;
how the clauses are grouped makes no difference. A clause is looked at in a fixed order: its mapping,
a query in its place, the operator, the column, the value. `Clause.Verdict` has one case for each way
in which this ends.
-/

namespace Criteria

variable {schema : Schema} {mappings : Mappings}

/-- What is wrong with a clause. -/
def Clause.error? (schema : Schema) (mappings : Mappings) (clause : Clause) : Option Error :=
  match clause.mappedCondition? schema mappings with
  | .error error => some error
  | .ok _ => none

/-- The condition that a clause adds, if it adds one. -/
def Clause.addedCondition? (schema : Schema) (mappings : Mappings) (clause : Clause) :
    Option Condition :=
  match clause.mappedCondition? schema mappings with
  | .error _ => none
  | .ok condition => condition

/-- How a clause fares on its own: without an error, or with the first one. -/
inductive Clause.Verdict (schema : Schema) (mappings : Mappings) (clause : Clause) :
    Option Error → Prop
  | unmapped {error : Error} (failed : mappings.apply clause = .error error) :
      Verdict schema mappings clause (some error)
  | dropped (skipped : mappings.apply clause = .ok .skip) : Verdict schema mappings clause none
  | replaced {kept : Clause} {query : Query} (applied : mappings.apply clause = .ok (.keep kept))
      (override : kept.override = some query) : Verdict schema mappings clause none
  | unsupported {kept : Clause} (applied : mappings.apply clause = .ok (.keep kept))
      (plain : kept.override = none)
      (regex : clause.operator = .regex ∨ clause.operator = .notRegex) :
      Verdict schema mappings clause (some (.unsupportedOperator clause.operator))
  | unknown {kept : Clause} (applied : mappings.apply clause = .ok (.keep kept))
      (plain : kept.override = none)
      (supported : ¬(clause.operator = .regex ∨ clause.operator = .notRegex))
      (undeclared : schema kept.name = none) :
      Verdict schema mappings clause (some (.unknownField kept.name))
  | unread {kept : Clause} {kind : Kind} (applied : mappings.apply clause = .ok (.keep kept))
      (plain : kept.override = none)
      (supported : ¬(clause.operator = .regex ∨ clause.operator = .notRegex))
      (declared : schema kept.name = some kind) (misfit : kept.value.coerce? kind = none) :
      Verdict schema mappings clause
        (some (.badConversion kept.name kept.value.display kept.value.kind kind))
  | compared {kept : Clause} {kind : Kind} {value : Value}
      (applied : mappings.apply clause = .ok (.keep kept)) (plain : kept.override = none)
      (supported : ¬(clause.operator = .regex ∨ clause.operator = .notRegex))
      (declared : schema kept.name = some kind) (coerced : kept.value.coerce? kind = some value) :
      Verdict schema mappings clause none

/-! ### Single clauses -/

namespace Clause

variable {clause : Clause}

theorem mappedCondition?_eq (clause : Clause) :
    clause.mappedCondition? schema mappings =
      .checked (clause.error? schema mappings) (clause.addedCondition? schema mappings) := by
  unfold error? addedCondition?
  cases clause.mappedCondition? schema mappings <;> rfl

theorem error?_of_error {error : Error} (failed : mappings.apply clause = .error error) :
    clause.error? schema mappings = some error := by
  rw [error?, mappedCondition?_of_error failed]

theorem error?_of_skip (skipped : mappings.apply clause = .ok .skip) :
    clause.error? schema mappings = none := by
  rw [error?, mappedCondition?, skipped]
  rfl

/-- A kept clause is in error if it has no condition. -/
theorem error?_of_keep {kept : Clause} (applied : mappings.apply clause = .ok (.keep kept)) :
    clause.error? schema mappings =
      match kept.condition schema with
      | .error error => some error
      | .ok _ => none := by
  rw [error?, mappedCondition?_of_keep applied]
  cases kept.condition schema <;> rfl

/-- Each clause fares in one way. -/
theorem verdict_error? (clause : Clause) :
    clause.Verdict schema mappings (clause.error? schema mappings) := by
  cases applied : mappings.apply clause with
  | error error =>
    rw [error?_of_error applied]
    exact .unmapped applied
  | ok outcome =>
    cases outcome with
    | skip =>
      rw [error?_of_skip applied]
      exact .dropped applied
    | keep kept =>
      have operator := (Mappings.keeps_of_apply applied).operator_eq
      rw [error?_of_keep applied, condition_eq]
      -- The cases below follow the checks of `condition` in their order.
      cases override : kept.override with
      | some query => exact .replaced applied override
      | none =>
        cases compares : kept.operator.comparator? with
        | none =>
          rw [operator] at compares ⊢
          exact .unsupported applied override (Operator.comparator?_eq_none_iff.mp compares)
        | some comparator =>
          have supported : ¬(clause.operator = .regex ∨ clause.operator = .notRegex) := by
            rw [← Operator.comparator?_eq_none_iff, ← operator, compares]
            exact Option.some_ne_none _
          cases declared : schema kept.name with
          | none => exact .unknown applied override supported declared
          | some kind =>
            cases coerced : kept.value.coerce? kind with
            | none =>
              simp only [coerce, coerced]
              exact .unread applied override supported declared coerced
            | some value =>
              simp only [coerce, coerced]
              exact .compared applied override supported declared coerced

theorem Verdict.error?_eq {result : Option Error} (verdict : clause.Verdict schema mappings result) :
    clause.error? schema mappings = result := by
  have kept_operator {kept : Clause} (applied : mappings.apply clause = .ok (.keep kept)) :
      kept.operator = clause.operator := (Mappings.keeps_of_apply applied).operator_eq
  have compares {kept : Clause} (applied : mappings.apply clause = .ok (.keep kept))
      (supported : ¬(clause.operator = .regex ∨ clause.operator = .notRegex)) :
      ∃ comparator, kept.operator.comparator? = some comparator := by
    rw [← kept_operator applied] at supported
    exact Operator.exists_comparator supported
  cases verdict with
  | unmapped failed => exact error?_of_error failed
  | dropped skipped => exact error?_of_skip skipped
  | replaced applied override => simp [error?_of_keep applied, condition_eq, override]
  | unsupported applied plain regex =>
    have incomparable := Operator.comparator?_eq_none_iff.mpr regex
    simp [error?_of_keep applied, condition_eq, plain, kept_operator applied, incomparable]
  | unknown applied plain supported undeclared =>
    obtain ⟨comparator, found⟩ := compares applied supported
    simp [error?_of_keep applied, condition_eq, plain, found, undeclared]
  | unread applied plain supported declared misfit =>
    obtain ⟨comparator, found⟩ := compares applied supported
    simp [error?_of_keep applied, condition_eq, plain, found, declared, coerce, misfit, bind,
      Except.bind]
  | compared applied plain supported declared coerced =>
    obtain ⟨comparator, found⟩ := compares applied supported
    simp [error?_of_keep applied, condition_eq, plain, found, declared, coerce, coerced, bind,
      Except.bind, pure, Except.pure]

/-- The cases of a verdict are all there are, and exclude each other. -/
theorem verdict_iff {result : Option Error} :
    clause.Verdict schema mappings result ↔ clause.error? schema mappings = result := by
  constructor
  · exact Verdict.error?_eq
  · rintro rfl
    exact clause.verdict_error?

end Clause

/-! ### Errors that are not the filter's -/

namespace Mapping

variable {mapping : Mapping}

private theorem isUserInput_of_effect {field raw : String} {operator : Operator} {error : Error}
    (failed : mapping.effect field operator raw = .error error) : error.isUserInput = true := by
  have operand {error : Error} (failed : operand field raw = .error error) :
      error.isUserInput = true := by
    unfold operand at failed
    split at failed <;> cases failed
    rfl
  have find {table : Enumeration} {name item : String} {error : Error}
      (failed : table.find name item = .error error) : error.isUserInput = true := by
    unfold Enumeration.find at failed
    split at failed <;> cases failed
    rfl
  cases mapping with
  | text _ | namedText _ | number _ | namedNumber _ | boolean _ | namedBoolean _ | override _
  | skip => cases failed
  | integer _ | namedInteger _ => exact operand (Except.bind_pure_eq_error_iff.mp failed)
  | enumeration _ | suppliedEnumeration _ | namedEnumeration _ | item _ | namedItem _ =>
    exact find (Except.bind_pure_eq_error_iff.mp failed)

/-- Mappings only fail because of the values they are given. -/
theorem isUserInput_of_apply {clause : Clause} {error : Error}
    (failed : mapping.apply clause = .error error) : error.isUserInput = true := by
  unfold apply at failed
  split at failed
  · exact isUserInput_of_effect (Except.bind_pure_eq_error_iff.mp failed)
  · cases failed

end Mapping

/-- A field with something else than a mapping is reported, whatever the clause says. -/
theorem Mappings.apply_of_unrecognized {clause : Clause} {shape : String}
    (holds : mappings.entries[clause.name]? = some (.unrecognized shape)) :
    mappings.apply clause = .error (.unknownMapping clause.name shape) := by
  rw [apply, holds]

theorem Clause.Verdict.eq_unknownMapping {clause : Clause} {error : Error} {shape : String}
    (verdict : clause.Verdict schema mappings (some error))
    (holds : mappings.entries[clause.name]? = some (.unrecognized shape)) :
    error = .unknownMapping clause.name shape := by
  have reported : clause.error? schema mappings = some (.unknownMapping clause.name shape) :=
    error?_of_error (Mappings.apply_of_unrecognized holds)
  exact Option.some.inj (verdict.error?_eq.symm.trans reported)

/-- The table of mappings is to blame for the error of a clause exactly if it holds something else
than a mapping for the field. -/
theorem Clause.Verdict.isUserInput_eq_false_iff {clause : Clause} {error : Error}
    (verdict : clause.Verdict schema mappings (some error)) :
    error.isUserInput = false ↔
      ∃ shape, mappings.entries[clause.name]? = some (.unrecognized shape) := by
  constructor
  · intro blamed
    cases verdict with
    | unsupported | unknown | unread => cases blamed
    | unmapped failed =>
      unfold Mappings.apply at failed
      split at failed
      · cases failed
      · rw [Mapping.isUserInput_of_apply failed] at blamed
        cases blamed
      · rename_i shape holds
        exact ⟨shape, holds⟩
  · rintro ⟨shape, holds⟩
    rw [verdict.eq_unknownMapping holds]
    rfl

/-! ### Whole formulas -/

namespace Formula

theorem conditions_eq (formula : Formula) :
    formula.conditions schema mappings =
      .checked (formula.groups.flatten.findSome? (Clause.error? schema mappings))
        (formula.groups.map (·.filterMap (Clause.addedCondition? schema mappings))) := by
  have group (clauses : List Clause) : groupConditions schema mappings clauses =
      .checked (clauses.findSome? (Clause.error? schema mappings))
        (clauses.filterMap (Clause.addedCondition? schema mappings)) := by
    rw [groupConditions, List.mapM_eq_checked Clause.mappedCondition?_eq, Except.checked_bind_pure,
      List.reduceOption, List.filterMap_map]
    rfl
  rw [conditions, List.mapM_eq_checked group, List.findSome?_findSome?]

/-- What becomes of a formula: its first error, or the conditions of all its clauses. -/
theorem compile_eq (formula : Formula) :
    formula.compile schema mappings =
      .checked (formula.groups.flatten.findSome? (Clause.error? schema mappings))
        (conjunction (formula.groups.map (·.filterMap (Clause.addedCondition? schema mappings)))) := by
  rw [compile, conditions_eq, Except.checked_bind_pure]

theorem exists_compile_eq_ok_iff {formula : Formula} :
    (∃ query, formula.compile schema mappings = .ok query) ↔
      ∀ clause ∈ formula.groups.flatten, clause.Verdict schema mappings none := by
  simp only [compile_eq, Except.checked_eq_ok_iff, List.findSome?_eq_none_iff, Clause.verdict_iff,
    exists_and_left, exists_eq, and_true]

/-- The first clause in error decides. -/
theorem compile_eq_error_iff {formula : Formula} {error : Error} :
    formula.compile schema mappings = .error error ↔
      ∃ front clause back, formula.groups.flatten = front ++ clause :: back ∧
        (∀ earlier ∈ front, earlier.Verdict schema mappings none) ∧
        clause.Verdict schema mappings (some error) := by
  simp only [compile_eq, Except.checked_eq_error_iff, List.findSome?_eq_some_iff,
    Clause.verdict_iff]
  constructor
  · rintro ⟨front, clause, back, divided, found, sound⟩
    exact ⟨front, clause, back, divided, sound, found⟩
  · rintro ⟨front, clause, back, divided, sound, found⟩
    exact ⟨front, clause, back, divided, found, sound⟩

theorem exists_compile_singleton_eq_ok_iff {clause : Clause} :
    (∃ query, compile schema mappings ⟨[[clause]]⟩ = .ok query) ↔
      clause.Verdict schema mappings none := by
  simp [exists_compile_eq_ok_iff]

theorem compile_singleton_eq_error_iff {clause : Clause} {error : Error} :
    compile schema mappings ⟨[[clause]]⟩ = .error error ↔
      clause.Verdict schema mappings (some error) := by
  rw [Clause.verdict_iff, compile_eq, Except.checked_eq_error_iff]
  simp

/-- A formula compiles exactly if each of its clauses compiles alone, and otherwise fails with the
error of the first one that does not, however the clauses are grouped. A clause alone fares as the
cases of its verdict say; one with a regular expression gets into a compiled formula only if its
mapping drops it or it carries a query in its place. The first error is a mistake in the table of
mappings exactly if the table holds no mapping but something else for the field of that clause. -/
theorem compile_clausewise (formula : Formula) :
    ((∃ query, formula.compile schema mappings = .ok query) ↔
      ∀ clause ∈ formula.groups.flatten,
        ∃ query, compile schema mappings ⟨[[clause]]⟩ = .ok query) ∧
    (∀ error, formula.compile schema mappings = .error error ↔
      ∃ front clause back, formula.groups.flatten = front ++ clause :: back ∧
        (∀ earlier ∈ front, ∃ query, compile schema mappings ⟨[[earlier]]⟩ = .ok query) ∧
        compile schema mappings ⟨[[clause]]⟩ = .error error) ∧
    (∀ clause : Clause,
      ((∃ query, compile schema mappings ⟨[[clause]]⟩ = .ok query) ↔
        clause.Verdict schema mappings none) ∧
      ∀ error, compile schema mappings ⟨[[clause]]⟩ = .error error ↔
        clause.Verdict schema mappings (some error)) ∧
    (∀ query, formula.compile schema mappings = .ok query →
      ∀ clause ∈ formula.groups.flatten, clause.operator = .regex ∨ clause.operator = .notRegex →
        mappings.apply clause = .ok .skip ∨
          ∃ kept replacement, mappings.apply clause = .ok (.keep kept) ∧
            kept.override = some replacement) ∧
    ∀ clause error, compile schema mappings ⟨[[clause]]⟩ = .error error →
      (error.isUserInput = false ↔
        ∃ shape, mappings.entries[clause.name]? = some (.unrecognized shape)) ∧
      ∀ shape, mappings.entries[clause.name]? = some (.unrecognized shape) →
        error = .unknownMapping clause.name shape := by
  refine ⟨?_, fun error => ?_,
    fun _ => ⟨exists_compile_singleton_eq_ok_iff, fun _ => compile_singleton_eq_error_iff⟩, ?_, ?_⟩
  · simp only [exists_compile_singleton_eq_ok_iff]
    exact exists_compile_eq_ok_iff
  · simp only [exists_compile_singleton_eq_ok_iff, compile_singleton_eq_error_iff]
    exact compile_eq_error_iff
  · intro query compiled clause member regex
    have verdict := exists_compile_eq_ok_iff.mp ⟨query, compiled⟩ clause member
    cases verdict with
    | dropped skipped => exact .inl skipped
    | replaced applied override => exact .inr ⟨_, _, applied, override⟩
    | compared _ _ supported => exact absurd regex supported
  · intro clause error failed
    have verdict := compile_singleton_eq_error_iff.mp failed
    exact ⟨verdict.isUserInput_eq_false_iff, fun _ => verdict.eq_unknownMapping⟩

end Formula

/-- Years are numbers. No other columns are declared. -/
def yearSchema : Schema := fun name =>
  if name = "year" then some .number else none

/-- Tags are kept elsewhere, and a sort order is no condition. What is held for states is of another
type. -/
def noteMappings : Mappings :=
  ((Mappings.empty.insert "tag" (.known (.override fun _ raw => ⟨"tag REGEXP ?", [.text raw]⟩)))
    |>.insert "sort" (.known .skip)).insert "state" (.unrecognized "u8")

/-- Regular expressions that are replaced and dropped, an error in the value, and one in the table. -/
def noteSearch : Formula :=
  ⟨[[.ofRaw "tag" .regex "a.*", .ofRaw "sort" .notRegex "x"],
    [.ofRaw "year" .equal "old", .ofRaw "state" .equal "1"]]⟩

/-- The earlier error counts, although the later one is in the table. -/
theorem compile_clausewise_notes :
    (∃ front clause back, noteSearch.groups.flatten = front ++ clause :: back ∧
      (∀ earlier ∈ front, ∃ query,
        Formula.compile yearSchema noteMappings ⟨[[earlier]]⟩ = .ok query) ∧
      Formula.compile yearSchema noteMappings ⟨[[clause]]⟩ =
        .error (.badConversion "year" "old" .raw .number)) ∧
    Formula.compile yearSchema noteMappings ⟨[[.ofRaw "state" .equal "1"]]⟩ =
      .error (.unknownMapping "state" "u8") ∧
    ((Error.unknownMapping "state" "u8").isUserInput = false ↔
      ∃ shape, noteMappings.entries["state"]? = some (.unrecognized shape)) := by
  have failed : noteSearch.compile yearSchema noteMappings =
      .error (.badConversion "year" "old" .raw .number) := by decide +kernel
  have state : Formula.compile yearSchema noteMappings ⟨[[.ofRaw "state" .equal "1"]]⟩ =
      .error (.unknownMapping "state" "u8") := by decide +kernel
  obtain ⟨_, first, _, _, blame⟩ := @Formula.compile_clausewise yearSchema noteMappings noteSearch
  exact ⟨(first _).mp failed, state, (blame (.ofRaw "state" .equal "1") _ state).1⟩

/-- A regular expression in whose place a query was put before it is compiled. -/
def titlePattern : Clause :=
  { Clause.ofRaw "title" .regex "a.*" with override := some ⟨"title REGEXP ?", [.text "a.*"]⟩ }

/-- Without any mapping, a regular expression gets into the condition, for a column that is not
declared: another table has replaced the clause before. -/
theorem not_compile_clausewise_replaced :
    Mappings.empty.apply titlePattern = .ok (.keep titlePattern) ∧
    titlePattern.operator = .regex ∧
    Formula.compile (fun _ => none) .empty ⟨[[titlePattern]]⟩ =
      .ok ⟨"(title REGEXP ?)", [.text "a.*"]⟩ := by
  refine ⟨by decide +kernel, rfl, by decide +kernel⟩

end Criteria
