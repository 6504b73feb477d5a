import Criteria.Number.Shortest
import Criteria.Query

/-! # Arguments as literals

For logs and tests a query can be shown with its arguments in the place of the placeholders. Text
literals stand in single quotes; the two dialects differ in how a text with quotes and backslashes
is written.
-/

namespace Criteria

/-- A way to write text literals. -/
inductive Dialect where
  | mysql
  | standard
deriving DecidableEq

namespace Dialect

instance : Inhabited Dialect :=
  ⟨mysql⟩

/-- A character inside a text literal. MySQL puts a backslash before quotes and backslashes, the
standard doubles quotes. -/
def quotedChar (dialect : Dialect) (char : Char) : List Char :=
  match dialect with
  | mysql => if char = '\'' ∨ char = '\\' then ['\\', char] else [char]
  | standard => if char = '\'' then ['\'', '\''] else [char]

/-- A text literal. -/
def quoted (dialect : Dialect) (text : String) : String :=
  "'" ++ String.ofList (text.toList.flatMap dialect.quotedChar) ++ "'"

end Dialect

variable [TimestampFormat]

namespace Argument

/-- A byte as two upper-case hexadecimal digits. -/
def hexByte (byte : UInt8) : List Char :=
  ((Nat.toDigits 16 byte.toNat).leftpad 2 '0').map Char.toUpper

mutual

/-- An argument as a literal; the items of a list are separated by commas. -/
def literal (dialect : Dialect) : Argument → String
  | int value => toString value.toInt
  | float value => Number.floatText value
  | text value => dialect.quoted value
  | bytes value => "X'" ++ String.ofList (value.toList.flatMap hexByte) ++ "'"
  | timestamp value => "'" ++ value.text ++ "'"
  | null => "NULL"
  | list items => ",".intercalate (literals dialect items)

/-- The literals of several arguments. -/
def literals (dialect : Dialect) : List Argument → List String
  | [] => []
  | argument :: rest => literal dialect argument :: literals dialect rest

end

theorem literals_eq_map (dialect : Dialect) (arguments : List Argument) :
    literals dialect arguments = arguments.map (literal dialect) := by
  induction arguments with
  | nil => rfl
  | cons argument rest ih => rw [literals, ih, List.map_cons]

end Argument

namespace Query

/-- The query with literals for its arguments. -/
def render (dialect : Dialect) (query : Query) : String :=
  String.ofList (fill query.text.toList (query.arguments.map fun argument =>
    (argument.literal dialect).toList))

end Query

end Criteria
