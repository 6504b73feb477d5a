import Criteria.Argument

/-! # Values as arguments

Plain values of many types can be bound directly. Whole numbers of every width become integers,
single-precision floats the equal doubles, missing values nulls, and lists lists of arguments; a
byte string is a single value and no list of numbers.
-/

namespace Criteria

/-- Types whose values can be bound to a placeholder. -/
class ToArgument (α : Type) where
  /-- The argument that a value binds as. -/
  toArgument : α → Argument

export ToArgument (toArgument)

instance : ToArgument Bool := ⟨.ofBool⟩

instance : ToArgument Int8 := ⟨fun value => .int value.toInt64⟩

instance : ToArgument Int16 := ⟨fun value => .int value.toInt64⟩

instance : ToArgument Int32 := ⟨fun value => .int value.toInt64⟩

instance : ToArgument Int64 := ⟨.int⟩

instance : ToArgument UInt16 := ⟨fun value => .int (.ofNat value.toNat)⟩

instance : ToArgument UInt32 := ⟨fun value => .int (.ofNat value.toNat)⟩

instance : ToArgument Float32 := ⟨fun value => .float value.toFloat⟩

instance : ToArgument Float := ⟨.float⟩

instance : ToArgument String := ⟨.text⟩

instance : ToArgument ByteArray := ⟨.bytes⟩

instance : ToArgument Timestamp := ⟨.timestamp⟩

instance {α : Type} [ToArgument α] : ToArgument (Option α) :=
  ⟨fun value => (value.map toArgument).getD .null⟩

instance {α : Type} [ToArgument α] : ToArgument (List α) :=
  ⟨fun values => .list (values.map toArgument)⟩

end Criteria
