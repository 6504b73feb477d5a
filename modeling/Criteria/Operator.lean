/-! # Comparison operators of the filter language

A clause compares a field with a value by one of twelve operators, each spelled by one or two
characters. `ofPair?` and `ofChar?` recognize exactly the spellings. Four operators search for a
pattern and two name regular expressions, which no condition can be made of.
-/

namespace Criteria

/-- A comparison between a field and a value. -/
inductive Operator where
  | equal
  | notEqual
  | includes
  | excludes
  | startsWith
  | endsWith
  | regex
  | notRegex
  | greater
  | less
  | atLeast
  | atMost
deriving DecidableEq

namespace Operator

/-- How a filter writes the operator. -/
def spelling : Operator → String
  | equal => "=="
  | notEqual => "!="
  | includes => "=@"
  | excludes => "!@"
  | startsWith => "^="
  | endsWith => "$="
  | regex => "=~"
  | notRegex => "!~"
  | greater => ">"
  | less => "<"
  | atLeast => ">="
  | atMost => "<="

/-- The operator that two adjacent characters spell. -/
def ofPair? : Char → Char → Option Operator
  | '=', '=' => some equal
  | '!', '=' => some notEqual
  | '=', '@' => some includes
  | '!', '@' => some excludes
  | '^', '=' => some startsWith
  | '$', '=' => some endsWith
  | '=', '~' => some regex
  | '!', '~' => some notRegex
  | '>', '=' => some atLeast
  | '<', '=' => some atMost
  | _, _ => none

/-- The operator that a single character spells. -/
def ofChar? : Char → Option Operator
  | '>' => some greater
  | '<' => some less
  | _ => none

theorem ofPair?_eq_some_iff {first second : Char} {operator : Operator} :
    ofPair? first second = some operator ↔ operator.spelling.toList = [first, second] := by
  constructor
  · intro found
    unfold ofPair? at found
    split at found <;> cases found <;> rfl
  · intro spelled
    cases operator <;> cases spelled <;> rfl

theorem ofChar?_eq_some_iff {char : Char} {operator : Operator} :
    ofChar? char = some operator ↔ operator.spelling.toList = [char] := by
  constructor
  · intro found
    unfold ofChar? at found
    split at found <;> cases found <;> rfl
  · intro spelled
    cases operator <;> cases spelled <;> rfl

/-- How an operator that searches for a pattern surrounds the text it looks for with wildcards. -/
def pattern? : Operator → Option (String → String)
  | includes | excludes => some fun text => "%" ++ text ++ "%"
  | startsWith => some fun text => text ++ "%"
  | endsWith => some fun text => "%" ++ text
  | _ => none

/-- The operators that search for a pattern. -/
def isLike (operator : Operator) : Bool :=
  operator.pattern?.isSome

end Operator

end Criteria
