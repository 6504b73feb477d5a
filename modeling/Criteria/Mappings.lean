import Criteria.Mapping

/-! # Tables of mappings

A table assigns mappings to fields; a later entry of a field replaces an earlier one. An entry may
also be something that is no mapping at all, which is only reported when a filter uses its field.
-/

namespace Criteria

/-- What a table holds for a field: a mapping, or something of another type. -/
inductive MappingEntry where
  | known (mapping : Mapping)
  | unrecognized (shape : String)

/-- Mappings by field. -/
structure Mappings where
  entries : Std.TreeMap String MappingEntry

namespace Mappings

/-- The table without entries. -/
def empty : Mappings :=
  ⟨∅⟩

/-- One more entry, in the place of an earlier one of the same field. -/
def insert (mappings : Mappings) (field : String) (entry : MappingEntry) : Mappings :=
  ⟨mappings.entries.insert field entry⟩

/-- Whether a field has an entry. -/
def contains (mappings : Mappings) (field : String) : Bool :=
  mappings.entries.contains field

/-- The number of fields with an entry. -/
def size (mappings : Mappings) : Nat :=
  mappings.entries.size

/-- Whether no field has an entry. -/
def isEmpty (mappings : Mappings) : Bool :=
  mappings.entries.isEmpty

/-- Apply the mapping of a clause's field; a clause of a field without entry is kept as it is. -/
def apply (mappings : Mappings) (clause : Clause) : Except Error Outcome :=
  match mappings.entries[clause.name]? with
  | none => .ok (.keep clause)
  | some (.known mapping) => mapping.apply clause
  | some (.unrecognized shape) => .error (.unknownMapping clause.name shape)

end Mappings

end Criteria
