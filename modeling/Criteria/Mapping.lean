import Criteria.Clause
import Std.Data.TreeMap.Basic

/-! # Mappings of a field

A mapping says what becomes of the raw value of a clause: it may give the value a kind, move the
clause to another column, replace the condition by a query, or drop the clause. A value that already
has a kind is left alone.

`effect` is what a mapping does to a raw value, `apply` what becomes of the whole clause.
-/

namespace Criteria

/-- The numbers of named items; the last entry of a name counts. -/
abbrev Enumeration := Std.TreeMap String Int64

/-- What to do with the raw value of a clause. The forms with a name first move the clause to the
column of that name. -/
inductive Mapping where
  | text (value : String → String)
  | namedText (value : String → String × String)
  | number (value : String → Int64)
  | namedNumber (value : String → String × Int64)
  | boolean (value : String → Bool)
  | namedBoolean (value : String → String × Bool)
  | integer (value : Int64 → Int64)
  | namedInteger (value : Int64 → String × Int64)
  | enumeration (table : Enumeration)
  | suppliedEnumeration (table : Unit → Enumeration)
  | namedEnumeration (table : Unit → String × Enumeration)
  | item (value : String → String × Enumeration)
  | namedItem (value : String → String × String × Enumeration)
  | override (query : Operator → String → Query)
  | skip

/-- What a mapping does to a clause. -/
inductive Effect where
  | assign (column : Option String) (value : Value)
  | override (query : Query)
  | skip
deriving DecidableEq

/-- What is left of a clause after its mapping. -/
inductive Outcome where
  | keep (clause : Clause)
  | skip
deriving DecidableEq

/-- Carry out an effect. -/
def Clause.after (clause : Clause) : Effect → Outcome
  | .assign none value => .keep { clause with value }
  | .assign (some column) value => .keep { clause.rename column with value }
  | .override query => .keep { clause with override := some query }
  | .skip => .skip

/-- The number of an item, or the error that names the enumeration. -/
def Enumeration.find (table : Enumeration) (name item : String) : Except Error Value :=
  match table[item]? with
  | some number => .ok (.number number)
  | none => .error (.enumNotFound name item)

namespace Mapping

/-- What a mapping takes and gives, as reports show it. -/
def shape : Mapping → String
  | text _ => "(strval) => (strval)"
  | namedText _ => "(strval) => (key, strval)"
  | number _ => "(strval) => (intval)"
  | namedNumber _ => "(strval) => (key, intval)"
  | boolean _ => "(strval) => (boolval)"
  | namedBoolean _ => "(strval) => (key, boolval)"
  | integer _ => "(intval) => (intval)"
  | namedInteger _ => "(intval) => (key, intval)"
  | enumeration _ => "enum"
  | suppliedEnumeration _ => "() => (enum)"
  | namedEnumeration _ => "() => (key, enum)"
  | item _ => "(enumItem) => (enumItem, enum)"
  | namedItem _ => "(enumItem) => (key, enumItem, enum)"
  | override _ => "(operator, strval) => (query, args)"
  | skip => "(operator, strval) => ()"

/-- The mapping as debugging output shows it. -/
def debugText (mapping : Mapping) : String :=
  "MapperKind(\"" ++ mapping.shape ++ "\")"

/-- The integer that a mapping of integers is given, or the error of a value that is none. -/
def operand (field raw : String) : Except Error Int64 :=
  match Text.int64? raw with
  | some value => .ok value
  | none => .error (.badConversion field raw .raw .number)

/-- What a mapping does to a clause with the given field, operator and raw value. -/
def effect (mapping : Mapping) (field : String) (operator : Operator) (raw : String) :
    Except Error Effect :=
  match mapping with
  | text value => .ok (.assign none (.text (value raw)))
  | namedText value => .ok (.assign (some (value raw).1) (.text (value raw).2))
  | number value => .ok (.assign none (.number (value raw)))
  | namedNumber value => .ok (.assign (some (value raw).1) (.number (value raw).2))
  | boolean value => .ok (.assign none (.boolean (value raw)))
  | namedBoolean value => .ok (.assign (some (value raw).1) (.boolean (value raw).2))
  | integer value => return .assign none (.number (value (← operand field raw)))
  | namedInteger value => do
    let (column, result) := value (← operand field raw)
    return .assign (some column) (.number result)
  | enumeration table => return .assign none (← table.find field raw)
  | suppliedEnumeration table => return .assign none (← (table ()).find field raw)
  | namedEnumeration table => do
    let (column, table) := table ()
    return .assign (some column) (← table.find column raw)
  | item value => do
    let (chosen, table) := value raw
    return .assign none (← table.find field chosen)
  | namedItem value => do
    let (column, chosen, table) := value raw
    return .assign (some column) (← table.find column chosen)
  | override query => .ok (.override (query operator raw))
  | skip => .ok .skip

/-- Apply a mapping to a clause. -/
def apply (mapping : Mapping) (clause : Clause) : Except Error Outcome :=
  match clause.value with
  | .raw raw => return clause.after (← mapping.effect clause.name clause.operator raw)
  | _ => .ok (.keep clause)

end Mapping

end Criteria
