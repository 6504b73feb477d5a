import Criteria.Statement
import Criteria.Statement.Order

/-! # Building statements

A statement can be turned into a selection, a count, an update and a deletion. All four share the
conditions and limits, and the first two everything but the list of what they select. The fragments
are expanded in the order in which their placeholders stand in the text, so that arguments and
placeholders stay aligned.
-/

namespace Criteria

namespace Query

/-- Expand the lists of a fragment of a statement. -/
def expandFragment (query : Query) : Except StatementError Query :=
  query.expand.mapError .mismatch

end Query

/-- A join as a part of a statement. -/
def Join.query (join : Join) : Except StatementError Query :=
  return .ofText (" " ++ join.kind.keyword ++ " " ++ join.table ++ " ON ") ++
    (← join.on.expandFragment)

/-- An assignment as a part of a statement. A single argument is not expanded, even if it is a
list. -/
def Assignment.query : Assignment → Except StatementError Query
  | value column argument => .ok ⟨column ++ "=?", [argument]⟩
  | expression column query => return .ofText (column ++ "=") ++ (← query.expandFragment)

namespace Statement

/-- The tables, separated by commas. -/
def tableList (statement : Statement) : String :=
  ",".intercalate statement.tables

/-- The joins, one after the other. -/
def joinPart (statement : Statement) : Except StatementError Query :=
  return .join "" (← statement.joins.mapM Join.query)

/-- The conditions, each in parentheses. -/
def wherePart (statement : Statement) : Except StatementError Query := do
  match ← statement.conditions.mapM Query.expandFragment with
  | [] => return .ofText ""
  | conditions => return .ofText " WHERE " ++ .join " AND " (conditions.map Query.parenthesized)

/-- A keyword with its text, unless the text is empty. -/
def optionalPart (keyword text : String) : String :=
  if text = "" then "" else " " ++ keyword ++ " " ++ text

/-- The sort order, if all its terms are valid. -/
def orderPart [Text.WordClass] (statement : Statement) : Except StatementError String :=
  if statement.orderBy = "" then
    .ok ""
  else
    match Order.firstInvalid? statement.orderBy with
    | some part => .error (.invalidOrderBy part)
    | none => .ok (" ORDER BY " ++ statement.orderBy)

/-- A positive limit, and the offset with it unless that is negative. -/
def limitPart (statement : Statement) : String :=
  if 0 < statement.limit then
    " LIMIT " ++ toString statement.limit ++
      if 0 ≤ statement.offset then " OFFSET " ++ toString statement.offset else ""
  else
    ""

/-- A selected field, of the given table unless it names one itself. -/
def qualified (table : String) (field : List Char) : String :=
  if '.' ∈ field then String.ofList field else table ++ "." ++ String.ofList field

/-- What a selection selects. With joins, unqualified fields belong to the first table; a sole star
stands for the fields of all tables. -/
def fieldList (first : String) (statement : Statement) : String :=
  if statement.fields = [] then
    if statement.joins = [] then "*" else first ++ ".*"
  else if statement.joins = [] ∨ statement.fields = ["*"] then
    ",".intercalate statement.fields
  else
    let fields := statement.fields.flatMap fun list => list.toList.splitOn ','
    ",".intercalate (fields.map (qualified first))

/-- What selections and counts share: everything from the tables on. -/
def selectionBody [Text.WordClass] (statement : Statement) : Except StatementError Query := do
  let joins ← statement.joinPart
  let conditions ← statement.wherePart
  let order ← statement.orderPart
  return .ofText statement.tableList ++ joins ++ conditions ++
    .ofText (optionalPart "GROUP BY" statement.groupBy ++ optionalPart "HAVING" statement.having ++
      order ++ statement.limitPart)

/-- Select what a function of the first table names. A verbatim statement is only expanded. -/
def selectList [Text.WordClass] (statement : Statement) (list : String → String) :
    Except StatementError Query :=
  match statement.verbatim with
  | some query => query.expandFragment
  | none =>
    match statement.tables with
    | [] => .error .noTable
    | first :: _ =>
      return .ofText ("SELECT " ++ list first ++ " FROM ") ++ (← statement.selectionBody)

/-- The rows that satisfy the conditions. -/
def select [Text.WordClass] (statement : Statement) : Except StatementError Query :=
  statement.selectList fun first => statement.fieldList first

/-- The number of rows that satisfy the conditions. -/
def count [Text.WordClass] (statement : Statement) : Except StatementError Query :=
  statement.selectList fun _ => "COUNT(1)"

/-- Refuse to write without a table, or to every row unless that is wanted. -/
def checkWritable (statement : Statement) (anyway : Bool) : Except StatementError Unit :=
  if statement.verbatim.isSome then .error .rawNotAllowed
  else if statement.tables = [] then .error .noTable
  else if statement.conditions = [] ∧ ¬anyway then .error .noWhere
  else .ok ()

/-- Change the rows that satisfy the conditions. -/
def update (statement : Statement) (anyway : Bool) : Except StatementError Query := do
  statement.checkWritable anyway
  if statement.assignments = [] then throw .noFields
  let assignments ← statement.assignments.mapM Assignment.query
  let conditions ← statement.wherePart
  return .ofText ("UPDATE " ++ statement.tableList ++ " SET ") ++ .join "," assignments ++
    conditions ++ .ofText statement.limitPart

/-- Delete the rows that satisfy the conditions. -/
def delete (statement : Statement) (anyway : Bool) : Except StatementError Query := do
  statement.checkWritable anyway
  let conditions ← statement.wherePart
  return .ofText ("DELETE FROM " ++ statement.tableList) ++ conditions ++
    .ofText statement.limitPart

end Statement

end Criteria
