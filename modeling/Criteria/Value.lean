import Criteria.Text.Integer

/-! # Clause values and their kinds

A value starts out as the raw text of the filter. Mappings and the kind of the column turn it into a
truth value, a number or a text; a value that has one of these kinds is never turned into another.
-/

namespace Criteria

/-- The declared kind of a column. -/
inductive Kind where
  | boolean
  | number
  | text
deriving DecidableEq

/-- The kind of a clause value, which may still be raw. -/
inductive ValueKind where
  | raw
  | typed (kind : Kind)
deriving DecidableEq

/-- The name of a kind in messages. -/
def ValueKind.name : ValueKind → String
  | .raw => "raw"
  | .typed .boolean => "bool"
  | .typed .number => "number"
  | .typed .text => "string"

/-- The right-hand side of a clause. -/
inductive Value where
  | raw (written : String)
  | boolean (value : Bool)
  | number (value : Int64)
  | text (value : String)
deriving DecidableEq

namespace Value

/-- The kind of a value. -/
def kind : Value → ValueKind
  | raw _ => .raw
  | boolean _ => .typed .boolean
  | number _ => .typed .number
  | text _ => .typed .text

/-- A value as a filter writes it, before escaping. -/
def display : Value → String
  | raw written => written
  | boolean true => "true"
  | boolean false => "false"
  | number value => toString value.toInt
  | text value => value

/-- The truth value that a raw text denotes. -/
def truth? (written : String) : Option Bool :=
  if written = "1" ∨ written = "true" then some true
  else if written = "0" ∨ written = "false" then some false
  else none

/-- A raw text read as a value of a kind; every text is a text. -/
def ofRaw? (written : String) : Kind → Option Value
  | .boolean => (truth? written).map boolean
  | .number => (Text.int64? written).map number
  | .text => some (text written)

/-- The value as one of the given kind: raw values are read, typed ones have to fit already. -/
def coerce? (value : Value) (target : Kind) : Option Value :=
  match value with
  | raw written => ofRaw? written target
  | typed => if typed.kind = .typed target then some typed else none

theorem kind_of_ofRaw? {written : String} {target : Kind} {value : Value}
    (read : ofRaw? written target = some value) : value.kind = .typed target := by
  cases target <;> simp only [ofRaw?, Option.map_eq_some_iff, Option.some.injEq] at read
  · obtain ⟨_, _, rfl⟩ := read
    rfl
  · obtain ⟨_, _, rfl⟩ := read
    rfl
  · subst read
    rfl

/-- Coercion to a kind gives values of that kind only. -/
theorem kind_of_coerce? {value result : Value} {target : Kind}
    (coerced : value.coerce? target = some result) : result.kind = .typed target := by
  cases value with
  | raw written => exact kind_of_ofRaw? coerced
  | boolean _ | number _ | text _ =>
    simp only [coerce?, Option.ite_none_right_eq_some, Option.some.injEq] at coerced
    exact coerced.2 ▸ coerced.1

end Value

end Criteria
