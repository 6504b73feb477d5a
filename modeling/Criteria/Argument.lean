import Criteria.Timestamp

/-! # Arguments bound to placeholders

An argument is a value that a database driver binds to a `?`. There are no Boolean arguments:
Boolean columns hold one-byte integers, so truth values bind as 1 and 0. A list stands for several
values at once; byte strings are single values.
-/

namespace Criteria

/-- A value bound to a placeholder. -/
inductive Argument where
  | int (value : Int64)
  | float (value : Float)
  | text (value : String)
  | bytes (value : ByteArray)
  | timestamp (value : Timestamp)
  | null
  | list (items : List Argument)

namespace Argument

mutual

/-- Equality of arguments, with floats compared by their bits. -/
def decideEq : (first second : Argument) → Decidable (first = second)
  | int first, int second => decidable_of_iff (first = second) (by simp)
  | float first, float second => decidable_of_iff (first = second) (by simp)
  | text first, text second => decidable_of_iff (first = second) (by simp)
  | bytes first, bytes second => decidable_of_iff (first = second) (by simp)
  | timestamp first, timestamp second => decidable_of_iff (first = second) (by simp)
  | null, null => isTrue rfl
  | list first, list second =>
    have := decideEqItems first second
    decidable_of_iff (first = second) (by simp)
  | int _, float _ | int _, text _ | int _, bytes _ | int _, timestamp _ | int _, null
  | int _, list _ | float _, int _ | float _, text _ | float _, bytes _ | float _, timestamp _
  | float _, null | float _, list _ | text _, int _ | text _, float _ | text _, bytes _
  | text _, timestamp _ | text _, null | text _, list _ | bytes _, int _ | bytes _, float _
  | bytes _, text _ | bytes _, timestamp _ | bytes _, null | bytes _, list _ | timestamp _, int _
  | timestamp _, float _ | timestamp _, text _ | timestamp _, bytes _ | timestamp _, null
  | timestamp _, list _ | null, int _ | null, float _ | null, text _ | null, bytes _
  | null, timestamp _ | null, list _ | list _, int _ | list _, float _ | list _, text _
  | list _, bytes _ | list _, timestamp _ | list _, null => isFalse (by simp)

/-- Equality of lists of arguments, item by item. -/
def decideEqItems : (first second : List Argument) → Decidable (first = second)
  | [], [] => isTrue rfl
  | [], _ :: _ | _ :: _, [] => isFalse (by simp)
  | first :: firsts, second :: seconds =>
    have := decideEq first second
    have := decideEqItems firsts seconds
    decidable_of_iff (first = second ∧ firsts = seconds) (by simp)

end

instance : DecidableEq Argument :=
  decideEq

/-- Truth values bind as the integers of a Boolean column. -/
def ofBool (value : Bool) : Argument :=
  int (if value then 1 else 0)

end Argument

end Criteria
