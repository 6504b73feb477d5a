import Criteria.Error
import Criteria.Query

/-! # Why a statement cannot be built

Statements that would touch every row have to be asked for explicitly, and fragments have to carry
as many arguments as placeholders.
-/

namespace Criteria

/-- What building a statement can fail with. -/
inductive StatementError where
  | noTable
  | noFields
  | noWhere
  | invalidOrderBy (part : String)
  | rawNotAllowed
  | filter (error : Error)
  | mismatch (counts : Mismatch)
deriving DecidableEq

/-- The report of an error in a statement. -/
def StatementError.message : StatementError → String
  | noTable => "no table to operate on"
  | noFields => "no fields to update"
  | noWhere => "refusing to touch every row without a where clause"
  | invalidOrderBy part => "invalid order_by: " ++ part
  | rawNotAllowed => "raw statements can only be used for select"
  | filter error => error.message
  | mismatch counts => counts.message

end Criteria
