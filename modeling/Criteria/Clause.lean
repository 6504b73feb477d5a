import Criteria.Error
import Criteria.Query
import Criteria.Text.Escape

/-! # Clauses

A clause compares a named field with a value. Mappings may rename it, give its value a kind, or put
a query of their own in the place of the condition it would become.
-/

namespace Criteria

/-- One comparison of a filter. -/
structure Clause where
  name : String
  operator : Operator
  value : Value
  renamed : Bool
  override : Option Query
deriving DecidableEq

namespace Clause

/-- A clause as a filter states it. -/
def ofRaw (name : String) (operator : Operator) (raw : String) : Clause :=
  ⟨name, operator, .raw raw, false, none⟩

/-- The clause under another name, which is used verbatim as the column. -/
def rename (clause : Clause) (name : String) : Clause :=
  { clause with name, renamed := true }

/-- The clause with a value of the given kind, if its value can be read as one. -/
def coerce (clause : Clause) (target : Kind) : Except Error Clause :=
  match clause.value.coerce? target with
  | some value => .ok { clause with value }
  | none =>
    .error (.badConversion clause.name clause.value.display clause.value.kind target)

/-- A text with a space after a backslash at its end, which would otherwise escape the separator
written next. -/
def guarded (text : List Char) : List Char :=
  if text.getLast? = some '\\' then text ++ [' '] else text

/-- The clause in the filter language. -/
def text (clause : Clause) : String :=
  String.ofList (Text.escape clause.name.toList ++ clause.operator.spelling.toList ++
    guarded (Text.escape clause.value.display.toList))

end Clause

end Criteria
