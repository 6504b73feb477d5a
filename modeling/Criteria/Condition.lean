import Criteria.Clause
import Criteria.Schema

/-! # Conditions

A condition compares a column with one argument, or is a query taken over verbatim. Boolean columns
hold one-byte integers, on which a search for a pattern can only mean equality.
-/

namespace Criteria

/-- A comparison in SQL. -/
inductive Comparator where
  | equal
  | notEqual
  | like
  | notLike
  | greater
  | less
  | atLeast
  | atMost
deriving DecidableEq

/-- How SQL writes a comparison. -/
def Comparator.text : Comparator → String
  | equal => "="
  | notEqual => "<>"
  | like => "LIKE"
  | notLike => "NOT LIKE"
  | greater => ">"
  | less => "<"
  | atLeast => ">="
  | atMost => "<="

/-- The comparison by the operator with the value. A search for a pattern in a truth value can only
mean equality, and regular expressions cannot be searched for. -/
def Operator.comparator (operator : Operator) (value : Value) : Except Error Comparator :=
  match value, operator.isLike with
  | .boolean _, true => .ok (if operator = .excludes then .notEqual else .equal)
  | _, _ =>
    match operator with
    | equal => .ok .equal
    | notEqual => .ok .notEqual
    | includes | startsWith | endsWith => .ok .like
    | excludes => .ok .notLike
    | greater => .ok .greater
    | less => .ok .less
    | atLeast => .ok .atLeast
    | atMost => .ok .atMost
    | regex | notRegex => .error (.unsupportedOperator operator)

/-- A value as it is bound where no pattern is searched for. -/
def Value.argument : Value → Argument
  | boolean value => .ofBool value
  | number value => .int value
  | raw written => .text written
  | text value => .text value

/-- A text to look for, with the wildcards in it doubled. -/
def literalPattern (text : String) : String :=
  String.ofList (text.toList.flatMap fun char => if char = '%' then ['%', '%'] else [char])

/-- The argument of a comparison by the operator with the value. Truth values are never searched
for. -/
def Operator.bind (operator : Operator) : Value → Argument
  | .boolean value => .ofBool value
  | value =>
    match operator.pattern? with
    | some pattern => .text (pattern (literalPattern value.display))
    | none => value.argument

/-- What a clause demands of a row. -/
inductive Condition where
  | compare (column : String) (comparator : Comparator) (argument : Argument)
  | verbatim (query : Query)
deriving DecidableEq

/-- A condition as SQL. -/
def Condition.query : Condition → Query
  | compare column comparator argument => ⟨column ++ " " ++ comparator.text ++ " ?", [argument]⟩
  | verbatim query => query

/-- The condition of a clause after its mapping. A query in its place is taken as it is; otherwise
the operator has to be one of SQL, the column known, and the value of the column's kind. -/
def Clause.condition (schema : Schema) (clause : Clause) : Except Error Condition :=
  match clause.override with
  | some query => .ok (.verbatim query)
  | none =>
    if clause.operator = .regex ∨ clause.operator = .notRegex then
      .error (.unsupportedOperator clause.operator)
    else
      match schema clause.name with
      | none => .error (.unknownField clause.name)
      | some kind => do
        let typed ← clause.coerce kind
        let comparator ← typed.operator.comparator typed.value
        return .compare typed.name comparator (typed.operator.bind typed.value)

end Criteria
