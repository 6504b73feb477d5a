import Criteria.Clause

/-! # Filters as formulas

A filter is a conjunction of groups, each a disjunction of clauses. In the filter language groups
are separated by `;` and the clauses of a group by `,`.
-/

namespace Criteria

/-- Groups that all have to match, each by any of its clauses. -/
structure Formula where
  groups : List (List Clause)
deriving DecidableEq

namespace Formula

/-- Whether there is no group at all. -/
def isEmpty (formula : Formula) : Bool :=
  formula.groups.isEmpty

/-- The clauses of one group in the filter language. -/
def groupText (group : List Clause) : String :=
  ",".intercalate (group.map (·.text))

/-- The formula in the filter language. -/
def text (formula : Formula) : String :=
  ";".intercalate (formula.groups.map groupText)

/-- The formula without its empty groups. -/
def compact (formula : Formula) : Formula :=
  ⟨formula.groups.filter (!·.isEmpty)⟩

end Formula

end Criteria
