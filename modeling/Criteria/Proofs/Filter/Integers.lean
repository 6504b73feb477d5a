import Criteria.Proofs.Filter.Text
import Criteria.Proofs.Filter.Verdict
import Criteria.Proofs.Query.Balance
import Criteria.Proofs.Text.Integer

/-! # Integers in filters

Columns of numbers are compared with integers, not with texts. A raw value is accepted exactly if it
denotes an integer of 64 bits, and what is bound depends on that integer alone: the integer itself, or
its decimal form where a pattern is searched for. Mappings of integers are given the same integers of
the same texts.
-/

namespace Criteria

open Text

variable {schema : Schema} {mappings : Mappings}

/-- What is bound where a column of numbers is compared with an integer. -/
def Operator.numberArgument (operator : Operator) (number : Int64) : Argument :=
  match operator with
  | includes | excludes => .text ("%" ++ toString number.toInt ++ "%")
  | startsWith => .text (toString number.toInt ++ "%")
  | endsWith => .text ("%" ++ toString number.toInt)
  | equal | notEqual | regex | notRegex | greater | less | atLeast | atMost => .int number

/-- The clause as it compares with a raw value. -/
def Clause.withRaw (clause : Clause) (raw : String) : Clause :=
  { clause with value := .raw raw }

/-- The clause compares a column of numbers, by another operator than that of a regular expression.
It has no mapping, and no query in its place. -/
structure Clause.ComparesNumbers (schema : Schema) (mappings : Mappings) (clause : Clause) : Prop where
  unmapped : mappings.entries[clause.name]? = none
  plain : clause.override = none
  declared : schema clause.name = some .number
  comparable : ¬(clause.operator = .regex ∨ clause.operator = .notRegex)

/-! ### Single clauses -/

/-- Nothing has to be escaped in the decimal form of an integer. -/
theorem literalPattern_toString (number : Int) : literalPattern (toString number) = toString number := by
  have unescaped : ∀ text : List Char, (∀ char ∈ text, char ≠ '%') →
      (text.flatMap fun char => if char = '%' then ['%', '%'] else [char]) = text := by
    intro text plain
    induction text with
    | nil => rfl
    | cons char rest ih =>
      obtain ⟨first, others⟩ := List.forall_mem_cons.mp plain
      rw [List.flatMap_cons, if_neg first, ih others, List.singleton_append]
  rw [literalPattern, unescaped, String.ofList_toList]
  rintro char member rfl
  rcases isDigit_of_mem_toString member with digit | minus
  · cases digit
  · cases minus

theorem Operator.bind_number (operator : Operator) (number : Int64) :
    operator.bind (.number number) = operator.numberArgument number := by
  have shown : literalPattern (Value.number number).display = toString number.toInt :=
    literalPattern_toString number.toInt
  have typed : (Value.number number).kind ≠ .typed .boolean := by simp [Value.kind]
  cases operator with
  | includes | excludes | startsWith | endsWith => rw [bind_of_pattern? rfl typed, shown]; rfl
  | equal | notEqual | regex | notRegex | greater | less | atLeast | atMost =>
    exact bind_of_pattern?_eq_none rfl _

namespace Clause.ComparesNumbers

variable {clause : Clause} {raw : String}

/-- A raw value is compared as the integer that it is read as. -/
theorem mappedCondition?_eq {comparator : Kind → Comparator}
    (compares : clause.ComparesNumbers schema mappings)
    (found : clause.operator.comparator? = some comparator) (raw : String) :
    (clause.withRaw raw).mappedCondition? schema mappings =
      match int64? raw with
      | some number => .ok (some (.compare clause.name (comparator .number)
          (clause.operator.numberArgument number)))
      | none => .error (.badConversion clause.name raw .raw .number) := by
  have kept : mappings.apply (clause.withRaw raw) = .ok (.keep (clause.withRaw raw)) := by
    simp only [Mappings.apply, withRaw, compares.unmapped]
  rw [mappedCondition?_of_keep kept]
  simp only [condition_eq, withRaw, compares.plain, found, compares.declared, coerce, Value.coerce?,
    Value.ofRaw?, ← Operator.bind_number]
  cases int64? raw <;> rfl

theorem exists_comparator (compares : clause.ComparesNumbers schema mappings) :
    ∃ comparator, clause.operator.comparator? = some comparator :=
  Operator.exists_comparator compares.comparable

/-- Texts that denote the same integer of 64 bits come to the same condition. -/
theorem mappedCondition?_congr (compares : clause.ComparesNumbers schema mappings)
    {other : String} {number : Int64} (denotes : Denotes raw.toList number.toInt)
    (same : Denotes other.toList number.toInt) :
    (clause.withRaw raw).mappedCondition? schema mappings =
      (clause.withRaw other).mappedCondition? schema mappings := by
  obtain ⟨comparator, found⟩ := compares.exists_comparator
  rw [compares.mappedCondition?_eq found, compares.mappedCondition?_eq found,
    int64?_eq_some_iff.mpr denotes, int64?_eq_some_iff.mpr same]

end Clause.ComparesNumbers

theorem Condition.parenthesized_compare (column : String) (comparator : Comparator)
    (argument : Argument) :
    (compare column comparator argument).query.parenthesized =
      ⟨"(" ++ column ++ " " ++ comparator.text ++ " ?)", [argument]⟩ := by
  have written : (" ?)" : String) = " ?" ++ ")" := rfl
  rw [written]
  simp only [← String.append_assoc]
  rfl

namespace Formula

/-- A formula compiles to what its only condition does. -/
theorem compile_singleton_of_ok {clause : Clause} {condition : Condition}
    (added : clause.mappedCondition? schema mappings = .ok (some condition)) :
    compile schema mappings ⟨[[clause]]⟩ = .ok condition.query.parenthesized := by
  have only : conjunction [[condition]] = condition.query.parenthesized := by
    simp [conjunction, disjunction, Query.join_singleton]
  rw [compile_eq, Except.checked_eq_ok_iff, ← only]
  simp [Clause.error?, Clause.addedCondition?, added]

/-- Clauses that come to the same condition can stand for each other in any formula. -/
theorem compile_replace {clause other : Clause}
    (same : clause.mappedCondition? schema mappings = other.mappedCondition? schema mappings)
    (before after : List (List Clause)) (front back : List Clause) :
    compile schema mappings ⟨before ++ (front ++ clause :: back) :: after⟩ =
      compile schema mappings ⟨before ++ (front ++ other :: back) :: after⟩ := by
  have group : groupConditions schema mappings (front ++ clause :: back) =
      groupConditions schema mappings (front ++ other :: back) := by
    simp only [groupConditions, List.mapM_append, List.mapM_cons, same]
  simp only [compile, conditions, List.mapM_append, List.mapM_cons, group]

end Formula

/-! ### Mappings of integers -/

/-- A mapping of integers is given the integer that a raw value is read as. -/
theorem Mapping.apply_integer (value : Int64 → Int64) (clause : Clause) (raw : String) :
    (Mapping.integer value).apply (clause.withRaw raw) =
      match int64? raw with
      | some read => .ok (.keep { clause with value := .number (value read) })
      | none => .error (.badConversion clause.name raw .raw .number) := by
  simp only [apply, effect, operand, Clause.withRaw]
  cases int64? raw <;> rfl

theorem Mapping.apply_namedInteger (value : Int64 → String × Int64) (clause : Clause) (raw : String) :
    (Mapping.namedInteger value).apply (clause.withRaw raw) =
      match int64? raw with
      | some read =>
        .ok (.keep { clause.rename (value read).1 with value := .number (value read).2 })
      | none => .error (.badConversion clause.name raw .raw .number) := by
  simp only [apply, effect, operand, Clause.withRaw]
  cases int64? raw <;> rfl

/-- A clause that compares a column of numbers compiles exactly if its raw value denotes an integer of
64 bits. It binds that integer or its decimal form, which is a shortest text that denotes it, and in
any filter a text that denotes the same integer can stand in its place. Mappings of integers are given
the same integers. All other texts are reported as they are. -/
theorem compile_integers (raw : String) :
    (∀ (schema : Schema) (mappings : Mappings) (clause : Clause),
      clause.ComparesNumbers schema mappings →
      ((∃ query, Formula.compile schema mappings ⟨[[clause.withRaw raw]]⟩ = .ok query) ↔
        ∃ number, Denotes raw.toList number ∧ -2 ^ 63 ≤ number ∧ number < 2 ^ 63) ∧
      (∀ number : Int64, Denotes raw.toList number.toInt →
        ∃ comparator, clause.operator.comparator? = some comparator ∧
          Formula.compile schema mappings ⟨[[clause.withRaw raw]]⟩ =
            .ok ⟨"(" ++ clause.name ++ " " ++ (comparator .number).text ++ " ?)",
              [clause.operator.numberArgument number]⟩) ∧
      ((¬∃ number : Int64, Denotes raw.toList number.toInt) →
        Formula.compile schema mappings ⟨[[clause.withRaw raw]]⟩ =
          .error (.badConversion clause.name raw .raw .number)) ∧
      ∀ (number : Int64) (other : String), Denotes raw.toList number.toInt →
        Denotes other.toList number.toInt → ∀ before front back after,
          Formula.compile schema mappings
              ⟨before ++ (front ++ clause.withRaw raw :: back) :: after⟩ =
            Formula.compile schema mappings
              ⟨before ++ (front ++ clause.withRaw other :: back) :: after⟩) ∧
    (∀ (clause : Clause) (value : Int64 → Int64) (namedValue : Int64 → String × Int64),
      (∀ number : Int64, Denotes raw.toList number.toInt →
        (Mapping.integer value).apply (clause.withRaw raw) =
            .ok (.keep { clause with value := .number (value number) }) ∧
          (Mapping.namedInteger namedValue).apply (clause.withRaw raw) =
            .ok (.keep { clause.rename (namedValue number).1 with
              value := .number (namedValue number).2 })) ∧
      ((¬∃ number : Int64, Denotes raw.toList number.toInt) →
        (Mapping.integer value).apply (clause.withRaw raw) =
            .error (.badConversion clause.name raw .raw .number) ∧
          (Mapping.namedInteger namedValue).apply (clause.withRaw raw) =
            .error (.badConversion clause.name raw .raw .number))) ∧
    ∀ number : Int, Denotes (toString number).toList number ∧
      ∀ text, Denotes text number → (toString number).toList.length ≤ text.length := by
  have unread (none : ¬∃ number : Int64, Denotes raw.toList number.toInt) : int64? raw = .none := by
    simpa only [← int64?_eq_some_iff, ← Option.isSome_iff_exists, Option.not_isSome_iff_eq_none]
      using none
  refine ⟨fun schema mappings clause compares => ?_, fun clause value namedValue => ⟨?_, ?_⟩,
    fun number => ⟨denotes_toString number, fun _ => Denotes.length_toString_le⟩⟩
  · obtain ⟨comparator, found⟩ := compares.exists_comparator
    have condition := compares.mappedCondition?_eq found raw
    have compiled (number : Int64) (denotes : Denotes raw.toList number.toInt) :
        Formula.compile schema mappings ⟨[[clause.withRaw raw]]⟩ =
          .ok ⟨"(" ++ clause.name ++ " " ++ (comparator .number).text ++ " ?)",
            [clause.operator.numberArgument number]⟩ := by
      rw [int64?_eq_some_iff.mpr denotes] at condition
      rw [Formula.compile_singleton_of_ok condition, Condition.parenthesized_compare]
    have refused (none : ¬∃ number : Int64, Denotes raw.toList number.toInt) :
        Formula.compile schema mappings ⟨[[clause.withRaw raw]]⟩ =
          .error (.badConversion clause.name raw .raw .number) := by
      rw [unread none] at condition
      rw [Formula.compile_eq, Except.checked_eq_error_iff]
      simp [Clause.error?, condition]
    refine ⟨?_, fun number denotes => ⟨comparator, found, compiled number denotes⟩, refused,
      fun number other denotes same before front back after =>
        Formula.compile_replace (compares.mappedCondition?_congr denotes same) before after front back⟩
    rw [← exists_denotes_toInt_iff]
    constructor
    · rintro ⟨query, succeeds⟩
      by_contra none
      cases succeeds.symm.trans (refused none)
    · rintro ⟨number, denotes⟩
      exact ⟨_, compiled number denotes⟩
  · intro number denotes
    rw [Mapping.apply_integer, Mapping.apply_namedInteger, int64?_eq_some_iff.mpr denotes]
    exact ⟨rfl, rfl⟩
  · intro none
    rw [Mapping.apply_integer, Mapping.apply_namedInteger, unread none]
    exact ⟨rfl, rfl⟩

/-- Years are numbers. -/
def yearClause (operator : Operator) : Clause :=
  .ofRaw "year" operator ""

theorem yearClause_comparesNumbers (operator : Operator)
    (comparable : ¬(operator = .regex ∨ operator = .notRegex)) :
    (yearClause operator).ComparesNumbers (fun _ => some .number) .empty :=
  ⟨Std.TreeMap.getElem?_emptyc, rfl, rfl, comparable⟩

/-- The least integer of 64 bits with leading zeros, and a text for the first one that has more bits. -/
theorem compile_integers_limits :
    Denotes "-0009223372036854775808".toList Int64.minValue.toInt ∧
    Formula.compile (fun _ => some .number) .empty
        ⟨[[(yearClause .startsWith).withRaw "-0009223372036854775808"]]⟩ =
      .ok ⟨"(year LIKE ?)", [.text "-9223372036854775808%"]⟩ ∧
    (Mapping.integer (· + 1)).apply ((yearClause .startsWith).withRaw "-0009223372036854775808") =
      .ok (.keep { yearClause .startsWith with value := .number (-9223372036854775807) }) ∧
    (¬∃ number : Int64, Denotes "+9223372036854775808".toList number.toInt) ∧
    Formula.compile (fun _ => some .number) .empty
        ⟨[[(yearClause .atLeast).withRaw "+9223372036854775808"]]⟩ =
      .error (.badConversion "year" "+9223372036854775808" .raw .number) := by
  have least : Denotes "-0009223372036854775808".toList Int64.minValue.toInt :=
    int64?_eq_some_iff.mp (by decide +kernel)
  have tooLarge : ¬∃ number : Int64, Denotes "+9223372036854775808".toList number.toInt := by
    rintro ⟨number, denotes⟩
    have read := int64?_eq_some_iff.mpr denotes
    have unread : int64? "+9223372036854775808" = none := by decide +kernel
    cases unread.symm.trans read
  obtain ⟨compiles, mapped, _⟩ := compile_integers "-0009223372036854775808"
  obtain ⟨_, bound, _⟩ :=
    compiles _ _ _ (yearClause_comparesNumbers .startsWith (by decide))
  obtain ⟨comparator, found, compiled⟩ := bound Int64.minValue least
  obtain ⟨refuses, _⟩ := compile_integers "+9223372036854775808"
  obtain ⟨_, _, refused, _⟩ :=
    refuses _ _ _ (yearClause_comparesNumbers .atLeast (by decide))
  cases found
  exact ⟨least, compiled, ((mapped _ _ fun _ => ("", 0)).1 _ least).1, tooLarge, refused tooLarge⟩

end Criteria
