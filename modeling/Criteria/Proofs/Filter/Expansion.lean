import Criteria.Proofs.Filter.Alignment
import Criteria.Proofs.Query.Expansion

/-! # Expanding compiled filters

A compiled filter is balanced, so it can be expanded wherever it is used. Only a query in the place
of a clause can bring lists with it; without them expansion changes nothing.
-/

namespace Criteria

variable {schema : Schema} {mappings : Mappings}

namespace Formula

theorem isBalanced_disjunction {group : List Condition}
    (balanced : ∀ condition ∈ group, condition.query.isBalanced) :
    (disjunction group).isBalanced :=
  Query.isBalanced_parenthesized
    (Query.isBalanced_join (by decide) (List.forall_mem_map.mpr balanced))

theorem isBalanced_conjunction {groups : List (List Condition)}
    (balanced : ∀ condition ∈ groups.flatten, condition.query.isBalanced) :
    (conjunction groups).isBalanced := by
  apply Query.isBalanced_join (by decide)
  rw [List.forall_mem_map]
  intro group member
  apply isBalanced_disjunction
  intro condition inside
  exact balanced condition
    (List.mem_flatten.mpr ⟨group, List.mem_of_mem_filter member, inside⟩)

/-- Joined conditions without a text have no arguments. -/
theorem arguments_conjunction_of_text_eq_empty {groups : List (List Condition)}
    (empty : (conjunction groups).text = "") : (conjunction groups).arguments = [] := by
  rw [arguments_conjunction, text_conjunction_eq_empty_iff.mp empty, List.flatMap_nil]

end Formula

/-- Comparisons never bind lists. -/
theorem Operator.isSingle_bind (operator : Operator) (value : Value) :
    (operator.bind value).IsSingle := by
  intro items
  unfold bind
  split
  · simp [Argument.ofBool]
  · split
    · simp
    · cases value <;> simp [Value.argument, Argument.ofBool]

/-- A query in the place of a clause was there before, or was put there by its mapping. -/
theorem Mappings.Keeps.override_cases {clause kept : Clause} (keeps : mappings.Keeps clause kept) :
    kept.override = clause.override ∨ ∃ query raw, mappings.Holds clause.name (.override query) ∧
      clause.value = .raw raw ∧ kept.override = some (query clause.operator raw) := by
  cases keeps with
  | untouched => exact .inl rfl
  | @typed mapping raw => cases moved : mapping.column? raw <;> exact .inl rfl
  | @overridden query raw holds unread => exact .inr ⟨query, raw, holds, unread, rfl⟩

/-- No query in the place of the clause has a list among its arguments. -/
def Mappings.AddsNoList (mappings : Mappings) (clause : Clause) : Prop :=
  ∀ query raw, mappings.Holds clause.name (.override query) → clause.value = .raw raw →
    ∀ argument ∈ (query clause.operator raw).arguments, argument.IsSingle

/-- The argument of a comparison is single; all others are those of a query in the place of a
clause. -/
theorem Clause.Adds.forall_arguments {property : Argument → Prop} {clause : Clause}
    {condition : Condition} (adds : clause.Adds schema mappings condition)
    (fresh : clause.override = none) (bound : ∀ argument, argument.IsSingle → property argument)
    (replaced : ∀ query raw, mappings.Holds clause.name (.override query) → clause.value = .raw raw →
      ∀ argument ∈ (query clause.operator raw).arguments, property argument) :
    ∀ argument ∈ condition.query.arguments, property argument := by
  obtain ⟨kept, applied, conditioned⟩ := Clause.mappedCondition?_eq_ok_some_iff.mp adds
  rcases Clause.condition_eq_ok_iff.mp conditioned with
    ⟨query, present, rfl⟩ | ⟨_, comparator, kind, value, _, _, _, rfl⟩
  · rcases (Mappings.keeps_of_apply applied).override_cases with same | ⟨_, _, holds, unread, stands⟩
    · rw [same, fresh] at present
      contradiction
    · cases present.symm.trans stands
      exact replaced _ _ holds unread
  · intro argument member
    rw [List.mem_singleton.mp member]
    exact bound _ (kept.operator.isSingle_bind value)

/-- What holds of single arguments and of those that queries bring with them holds of all arguments
of a compiled filter text. -/
theorem forall_arguments_of_compile {property : Argument → Prop} {source : String}
    {condition : Query} (compiled : compile schema mappings source = .ok condition)
    (bound : ∀ argument, argument.IsSingle → property argument)
    (replaced : ∀ formula, Formula.parse source = .ok formula →
      ∀ clause ∈ formula.groups.flatten, ∀ query raw, mappings.Holds clause.name (.override query) →
        clause.value = .raw raw →
          ∀ argument ∈ (query clause.operator raw).arguments, property argument) :
    ∀ argument ∈ condition.arguments, property argument := by
  obtain ⟨formula, read, compiledFormula⟩ := compile_eq_ok_iff.mp compiled
  obtain ⟨groups, succeeds, rfl⟩ := Formula.compile_eq_ok_iff.mp compiledFormula
  have added := Formula.forall₂_kept_flatten_of_conditions succeeds
  rw [Formula.arguments_conjunction]
  intro argument member
  obtain ⟨condition, among, inside⟩ := List.mem_flatMap.mp member
  obtain ⟨clause, kept, adds⟩ := added.exists_of_mem_right among
  have original := (Mappings.mem_kept_iff.mp kept).1
  obtain ⟨_, _, _, rfl, _⟩ := (Formula.isCanonical_of_parse read).legible.clause original
  exact adds.forall_arguments rfl bound (replaced formula read _ original) argument inside

/-- What a filter text compiles to is balanced, has no arguments without a text, and is its own
expansion unless a query in the place of a clause has brought a list. -/
theorem expansion_of_compile {source : String} {condition : Query}
    (aligned : mappings.All Mapping.IsAligned)
    (compiled : compile schema mappings source = .ok condition) :
    condition.isBalanced ∧ (condition.text = "" → condition.arguments = []) ∧
      ((∀ formula, Formula.parse source = .ok formula →
        ∀ clause ∈ formula.groups.flatten, mappings.AddsNoList clause) →
          condition.expanded = condition) := by
  obtain ⟨formula, read, compiledFormula⟩ := compile_eq_ok_iff.mp compiled
  obtain ⟨groups, succeeds, rfl⟩ := Formula.compile_eq_ok_iff.mp compiledFormula
  refine ⟨?_, Formula.arguments_conjunction_of_text_eq_empty, fun noList => ?_⟩
  · apply Formula.isBalanced_conjunction
    apply Formula.isBalanced_of_adds aligned ?_ (Formula.forall₂_kept_flatten_of_conditions succeeds)
    intro clause kept
    exact (Formula.isCanonical_of_parse read).clause_isAligned (Mappings.mem_kept_iff.mp kept).1
  · exact Query.expanded_eq_self (forall_arguments_of_compile compiled (fun _ => id) noList)

end Criteria
