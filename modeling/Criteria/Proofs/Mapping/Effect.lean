import Criteria.Mappings
import Criteria.Proofs.Except

/-! # What mappings do to clauses

`Mappings.Keeps` lists the three ways in which a clause is kept: untouched, with a typed value and
possibly in another column, or with a query in its place. Everything that is proved about mapped
clauses goes through these cases.
-/

namespace Criteria

/-- The number found for an item is a value of its own kind. -/
theorem Enumeration.find_eq_ok_iff {table : Enumeration} {name item : String} {value : Value} :
    table.find name item = .ok value ↔ ∃ number, table[item]? = some number ∧ value = .number number := by
  unfold find
  cases table[item]? <;> simp [eq_comm]

/-- The clause in another column, if one is given. -/
def Clause.moved (clause : Clause) (column : Option String) : Clause :=
  column.elim clause clause.rename

theorem Clause.after_assign (clause : Clause) (column : Option String) (value : Value) :
    clause.after (.assign column value) = .keep { clause.moved column with value } := by
  cases column <;> rfl

namespace Mapping

variable {mapping : Mapping} {field raw : String} {operator : Operator}

theorem operand_eq_ok_iff {number : Int64} :
    operand field raw = .ok number ↔ Text.int64? raw = some number := by
  unfold operand
  cases Text.int64? raw <;> simp

/-- The column that a mapping moves a clause with the given raw value to, if it moves it. -/
def column? (mapping : Mapping) (raw : String) : Option String :=
  match mapping with
  | namedText value => some (value raw).1
  | namedNumber value => some (value raw).1
  | namedBoolean value => some (value raw).1
  | namedInteger value => (Text.int64? raw).map fun operand => (value operand).1
  | namedEnumeration table => some (table ()).1
  | namedItem value => some (value raw).1
  | _ => none

/-- The mapping puts no query in the place of a clause. -/
def IsPlain (mapping : Mapping) : Prop :=
  ∀ query, mapping ≠ .override query

/-- Whatever the value of a clause, the mapping moves it to the same column, if it moves it. -/
def HasFixedColumn (mapping : Mapping) : Prop :=
  ∃ column, ∀ field operator raw moved value,
    mapping.effect field operator raw = .ok (.assign moved value) → moved = column

/-- A mapping types the value, or puts a query in the place of the clause, or drops it. -/
theorem effect_cases {effect : Effect} (succeeds : mapping.effect field operator raw = .ok effect) :
    (∃ value, value.kind ≠ .raw ∧ effect = .assign (mapping.column? raw) value) ∨
      (∃ query, mapping = .override query ∧ effect = .override (query operator raw)) ∨
      (mapping = .skip ∧ effect = .skip) := by
  cases mapping
  case override query =>
    cases succeeds
    exact .inr (.inl ⟨query, rfl, rfl⟩)
  case skip =>
    cases succeeds
    exact .inr (.inr ⟨rfl, rfl⟩)
  all_goals
    left
    simp only [Mapping.effect, Except.bind_eq_ok_iff, Except.pure_eq_ok_iff, operand_eq_ok_iff,
      Enumeration.find_eq_ok_iff, Except.ok.injEq] at succeeds
  case text | namedText | number | namedNumber | boolean | namedBoolean =>
    subst succeeds
    exact ⟨_, by simp [Value.kind], rfl⟩
  case integer =>
    obtain ⟨operand, _, rfl⟩ := succeeds
    exact ⟨_, by simp [Value.kind], rfl⟩
  case namedInteger value =>
    obtain ⟨operand, read, rfl⟩ := succeeds
    have moved : (namedInteger value).column? raw = some (value operand).1 := by
      rw [column?, read, Option.map_some]
    rw [moved]
    exact ⟨_, by simp [Value.kind], rfl⟩
  all_goals
    obtain ⟨_, ⟨number, _, rfl⟩, rfl⟩ := succeeds
    exact ⟨_, by simp [Value.kind], rfl⟩

/-- A mapping leaves a typed value alone, and does one of the three things to a raw one. -/
theorem apply_cases {clause : Clause} {outcome : Outcome}
    (applied : mapping.apply clause = .ok outcome) :
    (clause.value.kind ≠ .raw ∧ outcome = .keep clause) ∨
      ∃ raw, clause.value = .raw raw ∧
        ((∃ value, mapping.effect clause.name clause.operator raw =
            .ok (.assign (mapping.column? raw) value) ∧ value.kind ≠ .raw ∧
            outcome = .keep { clause.moved (mapping.column? raw) with value }) ∨
          (∃ query, mapping = .override query ∧
            outcome = .keep { clause with override := some (query clause.operator raw) }) ∨
          (mapping = .skip ∧ outcome = .skip)) := by
  unfold apply at applied
  split at applied
  · rename_i raw unread
    obtain ⟨effect, succeeds, result⟩ := Except.bind_eq_ok_iff.mp applied
    obtain rfl := Except.pure_eq_ok_iff.mp result
    refine .inr ⟨raw, unread, ?_⟩
    obtain ⟨value, kind, rfl⟩ | ⟨query, rfl, rfl⟩ | ⟨rfl, rfl⟩ := effect_cases succeeds
    · exact .inl ⟨value, succeeds, kind, clause.after_assign _ _⟩
    · exact .inr (.inl ⟨query, rfl, rfl⟩)
    · exact .inr (.inr ⟨rfl, rfl⟩)
  · rename_i typed
    cases applied
    refine .inl ⟨?_, rfl⟩
    intro kind
    cases value : clause.value with
    | raw raw => exact typed raw value
    | boolean _ | number _ | text _ => rw [value] at kind; cases kind

end Mapping

namespace Mappings

/-- The mapping of a field, if its entry is one. -/
def Holds (mappings : Mappings) (field : String) (mapping : Mapping) : Prop :=
  mappings.entries[field]? = some (.known mapping)

/-- Every mapping of the table has a property. -/
def All (mappings : Mappings) (property : Mapping → Prop) : Prop :=
  ∀ field mapping, mappings.Holds field mapping → property mapping

theorem all_empty (property : Mapping → Prop) : empty.All property := by
  intro field mapping holds
  simp [Holds, empty] at holds

/-- One more mapping with the property leaves a table in which all have it. -/
theorem All.insert {mappings : Mappings} {property : Mapping → Prop} (all : mappings.All property)
    {mapping : Mapping} (new : property mapping) (field : String) :
    (mappings.insert field (.known mapping)).All property := by
  intro other found holds
  simp only [Holds, Mappings.insert, Std.TreeMap.getElem?_insert] at holds
  split at holds
  · cases holds
    exact new
  · exact all other found holds

/-- Of a table, only the entry of the clause's field counts. -/
theorem apply_congr {mappings other : Mappings} {clause : Clause}
    (same : other.entries[clause.name]? = mappings.entries[clause.name]?) :
    other.apply clause = mappings.apply clause := by
  rw [apply, apply, same]

/-- How a clause is kept. -/
inductive Keeps (mappings : Mappings) (clause : Clause) : Clause → Prop
  | untouched (plain : mappings.entries[clause.name]? = none ∨ clause.value.kind ≠ .raw) :
      Keeps mappings clause clause
  | typed {mapping : Mapping} {raw : String} {value : Value}
      (holds : mappings.Holds clause.name mapping) (unread : clause.value = .raw raw)
      (assigned : mapping.effect clause.name clause.operator raw =
        .ok (.assign (mapping.column? raw) value))
      (kind : value.kind ≠ .raw) :
      Keeps mappings clause { clause.moved (mapping.column? raw) with value }
  | overridden {query : Operator → String → Query} {raw : String}
      (holds : mappings.Holds clause.name (.override query)) (unread : clause.value = .raw raw) :
      Keeps mappings clause { clause with override := some (query clause.operator raw) }

variable {mappings : Mappings} {clause : Clause} {outcome : Outcome}

/-- A clause is kept in one of the three ways, or dropped, which happens to raw values only. -/
theorem apply_cases (applied : mappings.apply clause = .ok outcome) :
    (∃ kept, outcome = .keep kept ∧ mappings.Keeps clause kept) ∨
      (outcome = .skip ∧ mappings.Holds clause.name .skip ∧ clause.value.kind = .raw) := by
  unfold apply at applied
  split at applied
  · rename_i absent
    cases applied
    exact .inl ⟨clause, rfl, .untouched (.inl absent)⟩
  · rename_i mapping holds
    obtain ⟨typed, rfl⟩ | ⟨raw, unread, ⟨value, assigned, kind, rfl⟩ | ⟨query, rfl, rfl⟩ | ⟨rfl, rfl⟩⟩ :=
      Mapping.apply_cases applied
    · exact .inl ⟨clause, rfl, .untouched (.inr typed)⟩
    · exact .inl ⟨_, rfl, .typed holds unread assigned kind⟩
    · exact .inl ⟨_, rfl, .overridden holds unread⟩
    · exact .inr ⟨rfl, holds, by rw [unread]; rfl⟩
  · contradiction

/-- A clause is dropped exactly if its mapping says so and has not typed its value before. -/
theorem apply_eq_ok_skip_iff :
    mappings.apply clause = .ok .skip ↔
      mappings.Holds clause.name .skip ∧ clause.value.kind = .raw := by
  constructor
  · intro applied
    obtain ⟨_, kept, _⟩ | ⟨_, holds, unread⟩ := apply_cases applied
    · contradiction
    · exact ⟨holds, unread⟩
  · rintro ⟨holds, unread⟩
    cases value : clause.value with
    | raw raw =>
      have entry : mappings.entries[clause.name]? = some (.known .skip) := holds
      simp only [apply, entry, Mapping.apply, value]
      rfl
    | boolean _ | number _ | text _ =>
      rw [value] at unread
      cases unread

/-- Mappings leave the operator alone. -/
theorem Keeps.operator_eq {kept : Clause} (keeps : mappings.Keeps clause kept) :
    kept.operator = clause.operator := by
  cases keeps with
  | untouched | overridden => rfl
  | @typed mapping raw => cases moved : mapping.column? raw <;> rfl

/-- Mappings that replace nothing leave a query in the place of the clause alone. -/
theorem Keeps.override_eq {kept : Clause} (keeps : mappings.Keeps clause kept)
    (plain : mappings.All Mapping.IsPlain) : kept.override = clause.override := by
  cases keeps with
  | untouched => rfl
  | @typed mapping raw => cases moved : mapping.column? raw <;> rfl
  | overridden holds _ => exact absurd rfl (plain _ _ holds _)

theorem keeps_of_apply {kept : Clause} (applied : mappings.apply clause = .ok (.keep kept)) :
    mappings.Keeps clause kept := by
  obtain ⟨_, same, keeps⟩ | ⟨dropped, _⟩ := apply_cases applied
  · cases same
    exact keeps
  · contradiction

end Mappings

end Criteria
