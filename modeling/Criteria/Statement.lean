import Criteria.Filter
import Criteria.Statement.Error

/-! # Statements under construction

A statement collects the parts of a query: tables, joins, selected fields, conditions, assignments,
grouping, order and limits. Parts may be added in any order. A compiled filter is one more
condition, unless it compiles to nothing.
-/

namespace Criteria

/-- Which rows of a join are kept without a partner. -/
inductive JoinKind where
  | inner
  | left
  | right
deriving DecidableEq

/-- How SQL writes a join. -/
def JoinKind.keyword : JoinKind → String
  | inner => "INNER JOIN"
  | left => "LEFT JOIN"
  | right => "RIGHT JOIN"

/-- A joined table with its join condition. -/
structure Join where
  kind : JoinKind
  table : String
  on : Query
deriving DecidableEq

/-- The new value of a column: a single argument, or an expression. -/
inductive Assignment where
  | value (column : String) (argument : Argument)
  | expression (column : String) (query : Query)
deriving DecidableEq

/-- The parts of a statement. A verbatim query stands for the whole statement. -/
structure Statement where
  verbatim : Option Query := none
  tables : List String := []
  joins : List Join := []
  fields : List String := []
  conditions : List Query := []
  assignments : List Assignment := []
  groupBy : String := ""
  having : String := ""
  orderBy : String := ""
  limit : Int := 0
  offset : Int := 0
deriving DecidableEq

namespace Statement

/-- The statement without parts. -/
def empty : Statement :=
  {}

/-- A statement that is used verbatim. -/
def ofQuery (query : Query) : Statement :=
  { verbatim := some query }

/-- One more table. -/
def addTable (statement : Statement) (table : String) : Statement :=
  { statement with tables := statement.tables ++ [table] }

/-- More fields to select, separated by commas. -/
def addFields (statement : Statement) (fields : String) : Statement :=
  { statement with fields := statement.fields ++ [fields] }

/-- One more join. -/
def addJoin (statement : Statement) (join : Join) : Statement :=
  { statement with joins := statement.joins ++ [join] }

/-- One more condition, which has to hold besides the others. -/
def addCondition (statement : Statement) (condition : Query) : Statement :=
  { statement with conditions := statement.conditions ++ [condition] }

/-- One more condition if a test succeeds. -/
def addConditionIf (statement : Statement) (test : Bool) (condition : Query) : Statement :=
  if test then statement.addCondition condition else statement

/-- One more assignment. -/
def addAssignment (statement : Statement) (assignment : Assignment) : Statement :=
  { statement with assignments := statement.assignments ++ [assignment] }

/-- The condition that a filter compiles to, unless it compiles to nothing. -/
def addFilter (statement : Statement) (schema : Schema) (mappings : Mappings) (source : String) :
    Except StatementError Statement := do
  let condition ← (compile schema mappings source).mapError .filter
  return statement.addConditionIf (condition.text ≠ "") condition

end Statement

end Criteria
