/-! # Dates with a time of day

A timestamp counts nanoseconds from 0 to 1 999 999 999; from 1 000 000 000 on they belong to a leap
second, which is written as second 60. Years of four digits stand alone, all others carry a sign.

Literals quote a timestamp without looking at how it is written. All they need is that it holds
neither quotes nor backslashes, so the way to write timestamps is a parameter.
-/

namespace Criteria

/-- A calendar date and a time of day, without a time zone. -/
structure Timestamp where
  year : Int
  month : Nat
  day : Nat
  hour : Nat
  minute : Nat
  second : Nat
  nanosecond : Nat
deriving DecidableEq

/-- A way to write timestamps that can stand between quotes as it is. -/
class TimestampFormat where
  write : Timestamp → String
  quote_not_mem (timestamp : Timestamp) : '\'' ∉ (write timestamp).toList
  backslash_not_mem (timestamp : Timestamp) : '\\' ∉ (write timestamp).toList

namespace Timestamp

/-- A number in decimal, filled up with zeros to a width. -/
def padded (width number : Nat) : String :=
  String.ofList ((Nat.toDigits 10 number).leftpad width '0')

/-- The year, with a sign unless it lies between 0 and 9999. -/
def yearText (timestamp : Timestamp) : String :=
  if timestamp.year < 0 then
    "-" ++ padded 4 timestamp.year.natAbs
  else if timestamp.year ≤ 9999 then
    padded 4 timestamp.year.natAbs
  else
    "+" ++ padded 4 timestamp.year.natAbs

/-- The seconds as written, counting a leap second as second 60. -/
def wholeSecond (timestamp : Timestamp) : Nat :=
  timestamp.second + timestamp.nanosecond / 1000000000

/-- Date and time as `YYYY-MM-DD HH:MM:SS`. -/
def isoText (timestamp : Timestamp) : String :=
  "-".intercalate [timestamp.yearText, padded 2 timestamp.month, padded 2 timestamp.day] ++ " " ++
    ":".intercalate
      [padded 2 timestamp.hour, padded 2 timestamp.minute, padded 2 timestamp.wholeSecond]

theorem not_mem_padded {char : Char} (noDigit : char.isDigit = false) (width number : Nat) :
    char ∉ (padded width number).toList := by
  intro member
  rw [padded, String.toList_ofList, List.leftpad, List.mem_append] at member
  rcases member with filling | digit
  · rw [(List.mem_replicate.mp filling).2] at noDigit
    contradiction
  · rw [Nat.isDigit_of_mem_toDigits (by decide) (by decide) digit] at noDigit
    contradiction

/-- A date is written with digits, signs, colons and a space. -/
theorem not_mem_isoText {char : Char} (noDigit : char.isDigit = false)
    (apart : char ∉ ['-', '+', ':', ' ']) (timestamp : Timestamp) :
    char ∉ timestamp.isoText.toList := by
  simp only [List.mem_cons, List.not_mem_nil, or_false, not_or] at apart
  obtain ⟨dash, plus, colon, space⟩ := apart
  have year : char ∉ timestamp.yearText.toList := by
    unfold yearText
    split
    · simp [dash, not_mem_padded noDigit]
    · split <;> simp [plus, not_mem_padded noDigit]
  simp [isoText, String.intercalate_cons_cons, dash, colon, space, year, not_mem_padded noDigit]

instance : TimestampFormat where
  write := isoText
  quote_not_mem := not_mem_isoText (by decide) (by decide)
  backslash_not_mem := not_mem_isoText (by decide) (by decide)

/-- How a timestamp is written. -/
def text [TimestampFormat] (timestamp : Timestamp) : String :=
  TimestampFormat.write timestamp

end Timestamp

end Criteria
