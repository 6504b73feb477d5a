import Criteria.Condition
import Criteria.Formula.Parser
import Criteria.Mappings

/-! # Compiling filters

A filter becomes the text of a `WHERE` clause with its arguments. Each clause is mapped and turned
into a condition, in reading order, and the first error ends the compilation. Conditions of a group
are joined by `OR` inside parentheses, groups by `AND`; a group all of whose clauses are dropped
leaves nothing behind.
-/

namespace Criteria

/-- The condition of a clause, unless its mapping drops it. -/
def Clause.mappedCondition? (schema : Schema) (mappings : Mappings) (clause : Clause) :
    Except Error (Option Condition) := do
  match ← mappings.apply clause with
  | .keep clause => return some (← clause.condition schema)
  | .skip => return none

namespace Formula

/-- The conditions of a group, without the dropped clauses. -/
def groupConditions (schema : Schema) (mappings : Mappings) (group : List Clause) :
    Except Error (List Condition) :=
  return (← group.mapM (Clause.mappedCondition? schema mappings)).reduceOption

/-- The conditions of all groups. -/
def conditions (schema : Schema) (mappings : Mappings) (formula : Formula) :
    Except Error (List (List Condition)) :=
  formula.groups.mapM (groupConditions schema mappings)

/-- Conditions any of which may hold. -/
def disjunction (group : List Condition) : Query :=
  (Query.join " OR " (group.map (·.query))).parenthesized

/-- Groups of conditions all of which have to hold, leaving out the empty ones. -/
def conjunction (groups : List (List Condition)) : Query :=
  Query.join " AND " ((groups.filter (!·.isEmpty)).map disjunction)

/-- Compile a formula. -/
def compile (schema : Schema) (mappings : Mappings) (formula : Formula) : Except Error Query :=
  return conjunction (← formula.conditions schema mappings)

end Formula

/-- Compile a filter text. -/
def compile (schema : Schema) (mappings : Mappings) (source : String) : Except Error Query := do
  let formula ← (Formula.parse source).mapError .malformed
  formula.compile schema mappings

end Criteria
