import Criteria.Value
import Std.Data.TreeMap.Basic

/-! # Columns

A schema tells which columns a filter may ask for and of which kind they are. The simplest one is a
fixed list of columns, in which the last entry of a name counts.
-/

namespace Criteria

/-- The kind of each column that can be filtered on. -/
abbrev Schema := String → Option Kind

/-- A fixed list of columns. -/
structure Columns where
  kinds : Std.TreeMap String Kind

namespace Columns

/-- No columns. -/
def empty : Columns :=
  ⟨∅⟩

/-- One more column, in the place of an earlier one of the same name. -/
def insert (columns : Columns) (name : String) (kind : Kind) : Columns :=
  ⟨columns.kinds.insert name kind⟩

/-- The columns of a list. -/
def ofList (entries : List (String × Kind)) : Columns :=
  entries.foldl (fun columns (name, kind) => columns.insert name kind) empty

/-- The kind of a column. -/
def kind? (columns : Columns) : Schema :=
  fun name => columns.kinds[name]?

end Columns

end Criteria
