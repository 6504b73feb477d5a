import Criteria.SyntaxError
import Criteria.Value

/-! # Why a filter cannot be compiled

All errors but one come from the filter text. A field whose table entry is of no known shape is a
mistake in the table, whatever the filter says.
-/

namespace Criteria

/-- What compiling a filter can fail with. -/
inductive Error where
  | malformed (error : SyntaxError)
  | unknownField (field : String)
  | unknownMapping (field : String) (shape : String)
  | enumNotFound (enumeration : String) (item : String)
  | badConversion (field : String) (value : String) (source : ValueKind) (target : Kind)
  | unsupportedOperator (operator : Operator)
deriving DecidableEq

namespace Error

/-- The report of a compilation error. -/
def message : Error → String
  | malformed error => "syntax error: " ++ error.message
  | unknownField field => "unknown field: " ++ field
  | unknownMapping field shape =>
    "unknown mapper prototype for field `" ++ field ++ "`: " ++ shape
  | enumNotFound enumeration item =>
    "enum not found: " ++ enumeration ++ "[\"" ++ item ++ "\"]"
  | badConversion field value source target =>
    "bad conversion: cannot convert value " ++ value ++ " from type " ++ source.name ++
      " to type " ++ (ValueKind.typed target).name ++ " for field " ++ field
  | unsupportedOperator operator => "not supported operator: " ++ operator.spelling

/-- Whether the filter text is to blame, rather than the table of mappings. -/
def isUserInput : Error → Bool
  | unknownMapping _ _ => false
  | _ => true

end Error

end Criteria
