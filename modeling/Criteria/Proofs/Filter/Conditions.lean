import Criteria.Filter
import Criteria.Proofs.Mapping.Effect
import Mathlib.Data.List.ReduceOption

/-! # The conditions of a compiled filter

A filter compiles exactly if each of its clauses is dropped or has a condition. The conditions stand
in the groups of their clauses, in reading order. What is proved here relates clauses and conditions
as data; the text that the conditions are joined to is left to the theorems that need it.
-/

/-- Every result of a relation item by item belongs to an item. -/
theorem List.Forall₂.exists_of_mem_right {α β : Type} {relation : α → β → Prop} {items : List α}
    {results : List β} (related : List.Forall₂ relation items results) {result : β}
    (member : result ∈ results) : ∃ item ∈ items, relation item result := by
  induction related with
  | nil => contradiction
  | @cons item _ _ _ head _ ih =>
    rcases List.mem_cons.mp member with rfl | member
    · exact ⟨item, List.mem_cons_self .., head⟩
    · obtain ⟨found, among, holds⟩ := ih member
      exact ⟨found, List.mem_cons_of_mem _ among, holds⟩

namespace Criteria

variable {schema : Schema} {mappings : Mappings}

theorem Clause.coerce_eq_ok_iff {clause typed : Clause} {target : Kind} :
    clause.coerce target = .ok typed ↔
      ∃ value, clause.value.coerce? target = some value ∧ typed = { clause with value } := by
  unfold Clause.coerce
  cases clause.value.coerce? target <;> simp [eq_comm]

/-! ### Comparisons by kind -/

/-- The comparison that searches for a pattern in a column of the given kind. -/
def Comparator.search : Kind → Comparator
  | .boolean => equal
  | .number | .text => like

/-- The comparison that excludes a pattern from a column of the given kind. -/
def Comparator.exclude : Kind → Comparator
  | .boolean => notEqual
  | .number | .text => notLike

/-- The comparison that an operator becomes on a column of a kind. Regular expressions have none. -/
def Operator.comparator? : Operator → Option (Kind → Comparator)
  | equal => some fun _ => .equal
  | notEqual => some fun _ => .notEqual
  | includes | startsWith | endsWith => some .search
  | excludes => some .exclude
  | greater => some fun _ => .greater
  | less => some fun _ => .less
  | atLeast => some fun _ => .atLeast
  | atMost => some fun _ => .atMost
  | regex | notRegex => none

theorem Operator.comparator?_eq_none_iff {operator : Operator} :
    operator.comparator? = none ↔ operator = .regex ∨ operator = .notRegex := by
  cases operator <;> simp [comparator?]

theorem Operator.exists_comparator {operator : Operator}
    (comparable : ¬(operator = .regex ∨ operator = .notRegex)) :
    ∃ comparator, operator.comparator? = some comparator :=
  Option.ne_none_iff_exists'.mp (mt Operator.comparator?_eq_none_iff.mp comparable)

/-- The comparison with a value is the one for its kind. -/
theorem Operator.comparator_eq {operator : Operator} {value : Value} {kind : Kind}
    (typed : value.kind = .typed kind) :
    operator.comparator value =
      match operator.comparator? with
      | some comparator => .ok (comparator kind)
      | none => .error (.unsupportedOperator operator) := by
  cases value with
  | raw written => contradiction
  | boolean _ | number _ | text _ =>
    cases typed
    cases operator <;> rfl

/-- A condition compares by what the operator becomes on columns of the declared kind. -/
theorem Clause.condition_eq (schema : Schema) (clause : Clause) :
    clause.condition schema =
      match clause.override, clause.operator.comparator?, schema clause.name with
      | some query, _, _ => .ok (.verbatim query)
      | none, none, _ => .error (.unsupportedOperator clause.operator)
      | none, some _, none => .error (.unknownField clause.name)
      | none, some comparator, some kind => do
        let typed ← clause.coerce kind
        return .compare typed.name (comparator kind) (typed.operator.bind typed.value) := by
  unfold Clause.condition
  cases clause.override with
  | some query => rfl
  | none =>
    by_cases regex : clause.operator = .regex ∨ clause.operator = .notRegex
    · simp only [if_pos regex, Operator.comparator?_eq_none_iff.mpr regex]
    · obtain ⟨comparator, compares⟩ := Operator.exists_comparator regex
      cases schema clause.name with
      | none => simp only [if_neg regex, compares]
      | some kind =>
        simp only [if_neg regex, compares, Clause.coerce]
        cases coerced : clause.value.coerce? kind with
        | none => rfl
        | some value =>
          have compared : clause.operator.comparator value = .ok (comparator kind) := by
            rw [Operator.comparator_eq (Value.kind_of_coerce? coerced), compares]
          change (do return Condition.compare clause.name (← clause.operator.comparator value) _) = _
          rw [compared]
          rfl

/-! ### Conditions of clauses -/

/-- A condition is the query in the place of a clause, or compares a known column with a value of
its kind. -/
theorem Clause.condition_eq_ok_iff {clause : Clause} {condition : Condition} :
    clause.condition schema = .ok condition ↔
      (∃ query, clause.override = some query ∧ condition = .verbatim query) ∨
      (clause.override = none ∧ ∃ comparator kind value,
        clause.operator.comparator? = some comparator ∧ schema clause.name = some kind ∧
        clause.value.coerce? kind = some value ∧
        condition = .compare clause.name (comparator kind) (clause.operator.bind value)) := by
  rw [Clause.condition_eq]
  cases clause.override with
  | some query => simp [eq_comm]
  | none =>
    cases clause.operator.comparator? with
    | none => simp
    | some comparator =>
      cases schema clause.name with
      | none => simp
      | some kind =>
        simp only [Except.bind_pure_eq_ok_iff, Clause.coerce_eq_ok_iff]
        constructor
        · rintro ⟨_, ⟨value, coerced, rfl⟩, same⟩
          exact .inr ⟨trivial, comparator, kind, value, rfl, rfl, coerced, same⟩
        · rintro (⟨query, absurdity, _⟩ | ⟨_, _, _, value, ⟨⟩, ⟨⟩, coerced, same⟩)
          · contradiction
          · exact ⟨_, ⟨value, coerced, rfl⟩, same⟩

/-- Where no pattern is searched for, the value is bound as it is. -/
theorem Operator.bind_of_pattern?_eq_none {operator : Operator} (plain : operator.pattern? = none)
    (value : Value) : operator.bind value = value.argument := by
  cases value <;> simp [bind, plain, Value.argument]

/-- A search binds a pattern for the value, unless that is a truth value. -/
theorem Operator.bind_of_pattern? {operator : Operator} {pattern : String → String}
    (searches : operator.pattern? = some pattern) {value : Value}
    (searched : value.kind ≠ .typed .boolean) :
    operator.bind value = .text (pattern (literalPattern value.display)) := by
  cases value with
  | boolean _ => exact absurd rfl searched
  | raw _ | number _ | text _ => simp [bind, searches]

/-- A clause that its mapping keeps is in error exactly as what is kept of it, and otherwise adds its
condition. -/
theorem Clause.mappedCondition?_of_keep {clause kept : Clause}
    (applied : mappings.apply clause = .ok (.keep kept)) :
    clause.mappedCondition? schema mappings = (do return some (← kept.condition schema)) := by
  rw [mappedCondition?, applied]
  rfl

theorem Clause.mappedCondition?_of_error {clause : Clause} {error : Error}
    (failed : mappings.apply clause = .error error) :
    clause.mappedCondition? schema mappings = .error error := by
  rw [mappedCondition?, failed]
  rfl

/-- A clause adds nothing exactly if its mapping drops it. -/
theorem Clause.mappedCondition?_eq_ok_none_iff {clause : Clause} :
    clause.mappedCondition? schema mappings = .ok none ↔ mappings.apply clause = .ok .skip := by
  unfold Clause.mappedCondition?
  rw [Except.bind_eq_ok_iff]
  constructor
  · rintro ⟨outcome, applied, succeeds⟩
    cases outcome with
    | keep kept =>
      obtain ⟨_, _, absurdity⟩ := Except.bind_pure_eq_ok_iff.mp succeeds
      contradiction
    | skip => exact applied
  · exact fun applied => ⟨.skip, applied, rfl⟩

/-- A clause adds the condition of what its mapping keeps of it. -/
theorem Clause.mappedCondition?_eq_ok_some_iff {clause : Clause} {condition : Condition} :
    clause.mappedCondition? schema mappings = .ok (some condition) ↔
      ∃ kept, mappings.apply clause = .ok (.keep kept) ∧ kept.condition schema = .ok condition := by
  unfold Clause.mappedCondition?
  rw [Except.bind_eq_ok_iff]
  constructor
  · rintro ⟨outcome, applied, succeeds⟩
    cases outcome with
    | keep kept =>
      obtain ⟨_, conditioned, same⟩ := Except.bind_pure_eq_ok_iff.mp succeeds
      obtain rfl := Option.some.inj same
      exact ⟨kept, applied, conditioned⟩
    | skip => cases Except.pure_eq_ok_iff.mp succeeds
  · rintro ⟨kept, applied, conditioned⟩
    exact ⟨.keep kept, applied, Except.bind_pure_eq_ok_iff.mpr ⟨condition, conditioned, rfl⟩⟩

/-- Whether the mapping of the clause's field drops it. -/
def Mappings.drops (mappings : Mappings) (clause : Clause) : Bool :=
  match mappings.apply clause with
  | .ok .skip => true
  | _ => false

/-- The clauses of a group that are not dropped. -/
def Mappings.kept (mappings : Mappings) (group : List Clause) : List Clause :=
  group.filter (!mappings.drops ·)

theorem Mappings.drops_iff {clause : Clause} :
    mappings.drops clause = true ↔ mappings.apply clause = .ok .skip := by
  unfold drops
  split <;> simp_all

theorem Mappings.mem_kept_iff {group : List Clause} {clause : Clause} :
    clause ∈ mappings.kept group ↔ clause ∈ group ∧ mappings.apply clause ≠ .ok .skip := by
  rw [kept, List.mem_filter, ne_eq, ← drops_iff, Bool.not_eq_true', Bool.not_eq_true]

/-- Nothing is kept of a group exactly if each of its clauses is dropped. -/
theorem Mappings.kept_eq_nil_iff {group : List Clause} :
    mappings.kept group = [] ↔ ∀ clause ∈ group, mappings.apply clause = .ok .skip := by
  simp [kept, drops_iff]

/-- The clause adds the condition to a filter. -/
def Clause.Adds (schema : Schema) (mappings : Mappings) (clause : Clause) (condition : Condition) :
    Prop :=
  clause.mappedCondition? schema mappings = .ok (some condition)

namespace Formula

/-- The conditions of a group are those of its kept clauses in order. -/
theorem forall₂_kept_of_groupConditions {group : List Clause} {conditions : List Condition}
    (succeeds : groupConditions schema mappings group = .ok conditions) :
    List.Forall₂ (Clause.Adds schema mappings) (mappings.kept group) conditions := by
  rw [groupConditions, Except.bind_pure_eq_ok_iff] at succeeds
  obtain ⟨results, mapped, rfl⟩ := succeeds
  have related := List.mapM_eq_ok_iff.mp mapped
  clear mapped
  induction related with
  | nil => exact .nil
  | @cons clause result _ _ produced _ ih =>
    cases result with
    | none =>
      have dropped : mappings.drops clause = true :=
        Mappings.drops_iff.mpr (Clause.mappedCondition?_eq_ok_none_iff.mp produced)
      rw [Mappings.kept, List.filter_cons_of_neg (by simpa using dropped),
        List.reduceOption_cons_of_none]
      exact ih
    | some condition =>
      obtain ⟨outcome, applied, _⟩ := Clause.mappedCondition?_eq_ok_some_iff.mp produced
      have undropped : mappings.drops clause = false := by
        rw [Mappings.drops, applied]
      rw [Mappings.kept, List.filter_cons_of_pos (by simpa using undropped),
        List.reduceOption_cons_of_some]
      exact .cons produced ih

theorem forall₂_kept_of_conditions {formula : Formula} {groups : List (List Condition)}
    (succeeds : formula.conditions schema mappings = .ok groups) :
    List.Forall₂ (List.Forall₂ (Clause.Adds schema mappings)) (formula.groups.map mappings.kept)
      groups := by
  have related := List.mapM_eq_ok_iff.mp succeeds
  rw [List.forall₂_map_left_iff]
  exact related.imp fun _ _ => forall₂_kept_of_groupConditions

/-- The conditions of all groups are those of all kept clauses in reading order. -/
theorem forall₂_kept_flatten_of_conditions {formula : Formula} {groups : List (List Condition)}
    (succeeds : formula.conditions schema mappings = .ok groups) :
    List.Forall₂ (Clause.Adds schema mappings) (mappings.kept formula.groups.flatten)
      groups.flatten := by
  rw [Mappings.kept, List.filter_flatten]
  exact List.rel_flatten (forall₂_kept_of_conditions succeeds)

theorem compile_eq_ok_iff {formula : Formula} {query : Query} :
    formula.compile schema mappings = .ok query ↔
      ∃ groups, formula.conditions schema mappings = .ok groups ∧ query = conjunction groups := by
  rw [compile, Except.bind_pure_eq_ok_iff]

/-- Only what becomes of the clauses counts in a formula. -/
theorem compile_congr {formula : Formula} {other : Mappings}
    (same : ∀ clause ∈ formula.groups.flatten,
      clause.mappedCondition? schema other = clause.mappedCondition? schema mappings) :
    formula.compile schema other = formula.compile schema mappings := by
  have conditionsSame : formula.conditions schema other = formula.conditions schema mappings := by
    refine List.mapM_congr fun group among => ?_
    have groupSame : group.mapM (Clause.mappedCondition? schema other) =
        group.mapM (Clause.mappedCondition? schema mappings) :=
      List.mapM_congr fun clause member => same clause (List.mem_flatten_of_mem among member)
    rw [groupConditions, groupConditions, groupSame]
  rw [compile, compile, conditionsSame]

/-- In a formula that compiles, every kept clause adds a condition. -/
theorem exists_adds_of_compile {formula : Formula} {query : Query} {clause : Clause}
    (compiled : formula.compile schema mappings = .ok query)
    (kept : clause ∈ mappings.kept formula.groups.flatten) :
    ∃ condition, clause.Adds schema mappings condition := by
  obtain ⟨groups, succeeds, _⟩ := compile_eq_ok_iff.mp compiled
  have added := forall₂_kept_flatten_of_conditions succeeds
  obtain ⟨index, bound, rfl⟩ := List.getElem_of_mem kept
  exact ⟨_, added.get bound (added.length_eq ▸ bound)⟩

end Formula

/-- A filter text compiles to what the formula read from it compiles to. -/
theorem compile_eq_ok_iff {source : String} {query : Query} :
    compile schema mappings source = .ok query ↔
      ∃ formula, Formula.parse source = .ok formula ∧ formula.compile schema mappings = .ok query := by
  unfold compile
  cases Formula.parse source <;> simp [Except.bind_eq_ok_iff, Except.mapError]

end Criteria
