import Criteria.Proofs.Filter.Verdict
import Criteria.Proofs.Formula.Canonical

/-! # Mappings that change nothing

Fields of texts and numbers that have no mapping can be given one that maps each value to itself.
Their values are then typed by the mapping and no longer where the condition is made, that is earlier
in the order in which a clause is looked at. What a filter compiles to, and what it fails with, stays
the same.
-/

namespace Criteria

variable {schema : Schema} {mappings : Mappings}

/-- The mapping that maps each value of a kind to itself, where there is one. -/
def Mapping.identity? : Kind → Option Mapping
  | .boolean => none
  | .number => some (.integer id)
  | .text => some (.text id)

/-- The mapping of a field to itself, if its column is declared to hold numbers or texts. -/
def Schema.identity? (schema : Schema) (field : String) : Option Mapping :=
  (schema field).bind Mapping.identity?

namespace Mappings

/-- The table with one more field that is mapped to itself. -/
def insertIdentity (schema : Schema) (mappings : Mappings) (field : String) : Mappings :=
  match schema.identity? field with
  | some mapping => mappings.insert field (.known mapping)
  | none => mappings

/-- The table with more fields that are mapped to themselves. -/
def withIdentities (schema : Schema) (mappings : Mappings) (fields : List String) : Mappings :=
  fields.foldl (insertIdentity schema) mappings

theorem getElem?_insertIdentity (field name : String) :
    (mappings.insertIdentity schema field).entries[name]? =
      if name = field then ((schema.identity? name).map .known).or mappings.entries[name]?
      else mappings.entries[name]? := by
  unfold insertIdentity
  by_cases same : name = field
  · subst same
    cases schema.identity? name <;> simp [insert]
  · cases schema.identity? field with
    | none => simp [same]
    | some mapping => simp [insert, Std.TreeMap.getElem?_insert, Ne.symm same, same]

/-- Fields without an identity keep their entries, and so do all others. -/
theorem getElem?_withIdentities (fields : List String) (name : String) :
    (mappings.withIdentities schema fields).entries[name]? =
      if name ∈ fields then ((schema.identity? name).map .known).or mappings.entries[name]?
      else mappings.entries[name]? := by
  induction fields generalizing mappings with
  | nil => simp [withIdentities]
  | cons field rest ih =>
    have continued : mappings.withIdentities schema (field :: rest) =
        (mappings.insertIdentity schema field).withIdentities schema rest := rfl
    rw [continued, ih, getElem?_insertIdentity]
    by_cases same : name = field
    · cases schema.identity? name <;> simp [same]
    · simp [same]

end Mappings

/-! ### Clauses -/

namespace Clause

variable {name raw : String} {operator : Operator}

/-- Clauses that are kept with the same condition come to the same. -/
private theorem mappedCondition?_eq_of_condition_eq {other : Mappings} {clause kept : Clause}
    (untouched : mappings.apply clause = .ok (.keep clause))
    (applied : other.apply clause = .ok (.keep kept))
    (same : kept.condition schema = clause.condition schema) :
    clause.mappedCondition? schema other = clause.mappedCondition? schema mappings := by
  rw [mappedCondition?_of_keep untouched, mappedCondition?_of_keep applied, same]

private theorem apply_ofRaw_of_unmapped (unmapped : mappings.entries[name]? = none) :
    mappings.apply (ofRaw name operator raw) = .ok (.keep (ofRaw name operator raw)) := by
  simp only [Mappings.apply, ofRaw, unmapped]

private theorem apply_ofRaw_of_holds {mapping : Mapping} (holds : mappings.Holds name mapping) :
    mappings.apply (ofRaw name operator raw) = mapping.apply (ofRaw name operator raw) := by
  have entry : mappings.entries[name]? = some (.known mapping) := holds
  simp only [Mappings.apply, ofRaw, entry]

/-- A text that is typed before the condition is made gives the same condition. -/
private theorem mappedCondition?_text {other : Mappings} (declared : schema name = some .text)
    (unmapped : mappings.entries[name]? = none) (holds : other.Holds name (.text id)) :
    (ofRaw name operator raw).mappedCondition? schema other =
      (ofRaw name operator raw).mappedCondition? schema mappings := by
  refine mappedCondition?_eq_of_condition_eq (apply_ofRaw_of_unmapped unmapped)
    (apply_ofRaw_of_holds holds) ?_
  rw [condition_eq, condition_eq]
  cases compares : operator.comparator? with
  | none => simp [ofRaw, compares]
  | some comparator =>
    simp [ofRaw, compares, declared, coerce, Value.coerce?, Value.ofRaw?, Value.kind]

/-- A number that is read before the condition is made gives the same condition, and a value that is
none the same error, unless the operator is at fault first. -/
private theorem mappedCondition?_number {other : Mappings} (declared : schema name = some .number)
    (comparable : ¬(operator = .regex ∨ operator = .notRegex))
    (unmapped : mappings.entries[name]? = none) (holds : other.Holds name (.integer id)) :
    (ofRaw name operator raw).mappedCondition? schema other =
      (ofRaw name operator raw).mappedCondition? schema mappings := by
  obtain ⟨comparator, compares⟩ := Operator.exists_comparator comparable
  cases read : Text.int64? raw with
  | none =>
    -- Both fail alike, one in the mapping and one where the value is compared, after the operator.
    have failed : other.apply (ofRaw name operator raw) =
        .error (.badConversion name raw .raw .number) := by
      rw [apply_ofRaw_of_holds holds]
      simp only [Mapping.apply, Mapping.effect, Mapping.operand, ofRaw, read]
      rfl
    rw [mappedCondition?_of_error failed, mappedCondition?_of_keep (apply_ofRaw_of_unmapped unmapped)]
    simp only [condition_eq, ofRaw, compares, declared, coerce, Value.coerce?, Value.ofRaw?, read]
    rfl
  | some number =>
    have applied : other.apply (ofRaw name operator raw) =
        .ok (.keep { ofRaw name operator raw with value := .number number }) := by
      rw [apply_ofRaw_of_holds holds]
      simp only [Mapping.apply, Mapping.effect, Mapping.operand, ofRaw, read]
      rfl
    refine mappedCondition?_eq_of_condition_eq (apply_ofRaw_of_unmapped unmapped) applied ?_
    simp [condition_eq, ofRaw, compares, declared, coerce, Value.coerce?, Value.ofRaw?, Value.kind,
      read]

/-- A clause as a filter states it comes to the same, whether or not fields are mapped to
themselves. -/
theorem mappedCondition?_withIdentities {fields : List String}
    (unmapped : name ∈ fields → mappings.entries[name]? = none)
    (comparable : name ∈ fields → schema name = some .number →
      ¬(operator = .regex ∨ operator = .notRegex)) :
    (ofRaw name operator raw).mappedCondition? schema (mappings.withIdentities schema fields) =
      (ofRaw name operator raw).mappedCondition? schema mappings := by
  have entry : (mappings.withIdentities schema fields).entries[name]? = _ :=
    Mappings.getElem?_withIdentities fields name
  have unchanged
      (same : (mappings.withIdentities schema fields).entries[name]? = mappings.entries[name]?) :
      (ofRaw name operator raw).mappedCondition? schema (mappings.withIdentities schema fields) =
        (ofRaw name operator raw).mappedCondition? schema mappings := by
    rw [mappedCondition?, mappedCondition?, Mappings.apply_congr same]
  by_cases member : name ∈ fields
  · rw [if_pos member] at entry
    cases identity : schema.identity? name with
    | none =>
      rw [identity] at entry
      exact unchanged entry
    | some mapping =>
      rw [identity] at entry
      obtain ⟨kind, declared, identical⟩ := Option.bind_eq_some_iff.mp identity
      cases kind with
      | boolean => cases identical
      | number =>
        obtain rfl := Option.some.inj identical
        exact mappedCondition?_number declared (comparable member declared) (unmapped member) entry
      | text =>
        obtain rfl := Option.some.inj identical
        exact mappedCondition?_text declared (unmapped member) entry
  · rw [if_neg member] at entry
    exact unchanged entry

end Clause

/-! ### Filters -/

/-- Mapping fields to themselves that had no mapping before changes neither what a filter compiles to
nor what it fails with, as long as no field of numbers is compared by a regular expression: there the
error of a value that is no number would come before that of the operator. -/
theorem compile_withIdentities {fields : List String} {source : String}
    (unmapped : ∀ field ∈ fields, mappings.contains field = false)
    (comparable : ∀ formula, Formula.parse source = .ok formula →
      ∀ clause ∈ formula.groups.flatten, clause.name ∈ fields → schema clause.name = some .number →
        ¬(clause.operator = .regex ∨ clause.operator = .notRegex)) :
    compile schema (mappings.withIdentities schema fields) source =
      compile schema mappings source := by
  unfold compile
  cases read : Formula.parse source with
  | error error => rfl
  | ok formula =>
    refine Formula.compile_congr fun clause member => ?_
    obtain ⟨name, operator, raw, rfl, _⟩ := (Formula.isCanonical_of_parse read).legible.clause member
    refine Clause.mappedCondition?_withIdentities ?_ (comparable formula read _ member)
    exact fun among => Std.TreeMap.getElem?_eq_none_of_contains_eq_false (unmapped name among)

/-- Titles are texts, years are numbers, drafts are marked by truth values. -/
def articleSchema : Schema := fun name =>
  if name = "title" then some .text
  else if name = "year" then some .number
  else if name = "draft" then some .boolean
  else none

/-- A search goes to the titles. -/
def articleMappings : Mappings :=
  Mappings.empty.insert "q" (.known (.namedText fun raw => ("title", raw)))

/-- Numbers, texts and truth values compared in several ways, and a value that is no number after a
field that is not declared. -/
theorem compile_withIdentities_articles :
    (∀ field ∈ ["title", "year", "draft"], articleMappings.contains field = false) ∧
    compile articleSchema
      (articleMappings.withIdentities articleSchema ["title", "year", "draft"])
      "year>=+07,title=@a;q==x,draft==1,year$=-3,title==" =
        .ok ⟨"(year >= ? OR title LIKE ?) AND (title = ? OR draft = ? OR year LIKE ? OR title = ?)",
          [.int 7, .text "%a%", .text "x", .int 1, .text "%-3", .text ""]⟩ ∧
    compile articleSchema
      (articleMappings.withIdentities articleSchema ["title", "year", "draft"])
      "title=~x;year==1x" = .error (.unsupportedOperator .regex) := by
  have unmapped : ∀ field ∈ ["title", "year", "draft"], articleMappings.contains field = false := by
    decide +kernel
  have read : Formula.parse "year>=+07,title=@a;q==x,draft==1,year$=-3,title==" =
      .ok ⟨[[.ofRaw "year" .atLeast "+07", .ofRaw "title" .includes "a"],
        [.ofRaw "q" .equal "x", .ofRaw "draft" .equal "1", .ofRaw "year" .endsWith "-3",
          .ofRaw "title" .equal ""]]⟩ := by decide +kernel
  have readOther : Formula.parse "title=~x;year==1x" =
      .ok ⟨[[.ofRaw "title" .regex "x"], [.ofRaw "year" .equal "1x"]]⟩ := by decide +kernel
  refine ⟨unmapped, (compile_withIdentities unmapped ?_).trans ?_,
    (compile_withIdentities unmapped ?_).trans ?_⟩
  · intro formula parsed
    cases read.symm.trans parsed
    decide
  · decide +kernel
  · intro formula parsed
    cases readOther.symm.trans parsed
    decide
  · decide +kernel

end Criteria
