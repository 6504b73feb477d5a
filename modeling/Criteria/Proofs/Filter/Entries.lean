import Criteria.Proofs.Filter.Verdict

/-! # Entries of a table

A table of mappings is filled by insertions. For each field only the latest one counts, and a filter
looks up no fields but those that its clauses name: the columns that mappings move clauses to are not
looked up again. So it does not matter in which order fields get their entries, and an entry is
without effect on a filter that does not name its field.
-/

namespace Criteria

variable {schema : Schema} {mappings : Mappings} {formula : Formula}

/-- What is inserted for a field. -/
structure Insertion where
  field : String
  entry : MappingEntry

/-- The latest entry that is inserted for a field. -/
def latest? (field : String) : List Insertion → Option MappingEntry
  | [] => none
  | insertion :: later =>
    (latest? field later).or (if insertion.field = field then some insertion.entry else none)

theorem latest?_append (field : String) (earlier later : List Insertion) :
    latest? field (earlier ++ later) = (latest? field later).or (latest? field earlier) := by
  induction earlier with
  | nil => exact (Option.or_none).symm
  | cons insertion rest ih => rw [List.cons_append, latest?, ih, latest?, Option.or_assoc]

theorem latest?_eq_none {field : String} {insertions : List Insertion}
    (others : ∀ insertion ∈ insertions, insertion.field ≠ field) : latest? field insertions = none := by
  induction insertions with
  | nil => rfl
  | cons insertion rest ih =>
    obtain ⟨head, tail⟩ := List.forall_mem_cons.mp others
    rw [latest?, ih tail, if_neg head, Option.or_none]

namespace Mappings

/-- The table after insertions, one after the other. -/
def insertAll (mappings : Mappings) (insertions : List Insertion) : Mappings :=
  insertions.foldl (fun table insertion => table.insert insertion.field insertion.entry) mappings

theorem insertAll_cons (mappings : Mappings) (field : String) (entry : MappingEntry)
    (later : List Insertion) :
    mappings.insertAll (⟨field, entry⟩ :: later) = (mappings.insert field entry).insertAll later := rfl

theorem insertAll_append (mappings : Mappings) (earlier later : List Insertion) :
    mappings.insertAll (earlier ++ later) = (mappings.insertAll earlier).insertAll later :=
  List.foldl_append

theorem getElem?_insert (mappings : Mappings) (field name : String) (entry : MappingEntry) :
    (mappings.insert field entry).entries[name]? =
      (if field = name then some entry else none).or mappings.entries[name]? := by
  rw [insert, Std.TreeMap.getElem?_insert]
  by_cases same : field = name <;> simp [same]

/-- A field is looked up among the insertions first, and then in the table as it was. -/
theorem getElem?_insertAll (mappings : Mappings) (insertions : List Insertion) (name : String) :
    (mappings.insertAll insertions).entries[name]? =
      (latest? name insertions).or mappings.entries[name]? := by
  induction insertions generalizing mappings with
  | nil => rfl
  | cons insertion rest ih => rw [insertAll_cons, ih, getElem?_insert, latest?, Option.or_assoc]

end Mappings

namespace Formula

/-- Only the latest entries of the fields that the clauses name count in a filter. -/
theorem compile_insertAll_congr {insertions others : List Insertion}
    (same : ∀ clause ∈ formula.groups.flatten,
      latest? clause.name insertions = latest? clause.name others) :
    formula.compile schema (mappings.insertAll insertions) =
      formula.compile schema (mappings.insertAll others) := by
  refine compile_congr fun clause member => ?_
  have entry : (mappings.insertAll insertions).entries[clause.name]? =
      (mappings.insertAll others).entries[clause.name]? := by
    rw [Mappings.getElem?_insertAll, Mappings.getElem?_insertAll, same clause member]
  rw [Clause.mappedCondition?, Clause.mappedCondition?, Mappings.apply_congr entry]

/-- A clause in error is reported unless a clause before it is in error. -/
theorem compile_of_error? {front back : List Clause} {clause : Clause} {error : Error}
    (divided : formula.groups.flatten = front ++ clause :: back)
    (faulty : clause.error? schema mappings = some error) :
    formula.compile schema mappings =
      (compile schema mappings ⟨[front]⟩ >>= fun _ => .error error) := by
  have alone : ([front] : List (List Clause)).flatten = front := List.flatten_singleton
  rw [compile_eq, compile_eq, divided, alone, List.findSome?_append, List.findSome?_cons, faulty]
  cases front.findSome? (Clause.error? schema mappings) <;> rfl

/-- What an insertion does to a filter, whatever is inserted later. It changes nothing if no clause
names its field, even where clauses are moved to a column of that name. A later one for the same
field makes it irrelevant, and it may change places with one for another field. If it inserts
something else than a mapping, and none is inserted for the field later, the first clause that names
the field is reported, however its value is typed, unless a clause before it is in error. -/
theorem compile_insert (formula : Formula) :
    (∀ field entry later, (∀ clause ∈ formula.groups.flatten, clause.name ≠ field) →
      formula.compile schema ((mappings.insert field entry).insertAll later) =
        formula.compile schema (mappings.insertAll later)) ∧
    (∀ field first second between later,
      formula.compile schema
          ((((mappings.insert field first).insertAll between).insert field second).insertAll later) =
        formula.compile schema
          (((mappings.insertAll between).insert field second).insertAll later)) ∧
    (∀ field other entry otherEntry later, field ≠ other →
      formula.compile schema
          (((mappings.insert field entry).insert other otherEntry).insertAll later) =
        formula.compile schema
          (((mappings.insert other otherEntry).insert field entry).insertAll later)) ∧
    (∀ field shape later, (∀ insertion ∈ later, insertion.field ≠ field) →
      ∀ front clause back, formula.groups.flatten = front ++ clause :: back → clause.name = field →
        formula.compile schema ((mappings.insert field (.unrecognized shape)).insertAll later) =
          (compile schema ((mappings.insert field (.unrecognized shape)).insertAll later) ⟨[front]⟩ >>=
            fun _ => .error (.unknownMapping field shape))) := by
  refine ⟨?_, ?_, ?_, ?_⟩
  · intro field entry later unnamed
    rw [← Mappings.insertAll_cons]
    refine compile_insertAll_congr fun clause member => ?_
    rw [latest?, if_neg (unnamed clause member).symm, Option.or_none]
  · intro field first second between later
    simp only [← Mappings.insertAll_cons, ← Mappings.insertAll_append]
    refine compile_insertAll_congr fun clause member => ?_
    rw [List.cons_append, latest?]
    by_cases named : field = clause.name
    · have again : latest? clause.name (between ++ ⟨field, second⟩ :: later) ≠ none := by
        simp [latest?_append, latest?, named]
      obtain ⟨entry, found⟩ := Option.ne_none_iff_exists'.mp again
      rw [found, Option.some_or]
    · rw [if_neg named, Option.or_none]
  · intro field other entry otherEntry later apart
    simp only [← Mappings.insertAll_cons]
    refine compile_insertAll_congr fun clause member => ?_
    simp only [latest?, Option.or_assoc]
    by_cases named : field = clause.name
    · rw [if_pos named, if_neg (named ▸ apart.symm), Option.none_or, Option.or_none]
    · rw [if_neg named, Option.none_or, Option.or_none]
  · intro field shape later others front clause back divided named
    subst named
    refine compile_of_error? divided (Clause.error?_of_error (Mappings.apply_of_unrecognized ?_))
    rw [← Mappings.insertAll_cons, Mappings.getElem?_insertAll, latest?, latest?_eq_none others,
      if_pos rfl]
    rfl

end Formula

/-- Titles are texts, years are numbers. -/
def bookSchema : Schema := fun name =>
  if name = "title" then some .text
  else if name = "year" then some .number
  else none

/-- A search goes to the titles. -/
def bookMappings : Mappings :=
  Mappings.empty.insert "q" (.known (.namedText fun raw => ("title", raw)))

/-- A search and a year, whose number has been read before. -/
def bookSearch : Formula :=
  ⟨[[.ofRaw "q" .equal "x"], [{ Clause.ofRaw "year" .greater "" with value := .number 7 }]]⟩

/-- An entry for titles would drop clauses, but none that has only been moved there. An entry that is
no mapping is reported also for a number that has been read, until a mapping takes its place. -/
theorem compile_insert_books :
    (∀ clause ∈ bookSearch.groups.flatten, clause.name ≠ "title") ∧
    bookSearch.compile bookSchema (bookMappings.insert "title" (.known .skip)) =
      .ok ⟨"(title = ?) AND (year > ?)", [.text "x", .int 7]⟩ ∧
    "q" ≠ "year" ∧
    bookSearch.compile bookSchema
        ((bookMappings.insert "q" (.known .skip)).insert "year" (.unrecognized "u8")) =
      bookSearch.compile bookSchema
        ((bookMappings.insert "year" (.unrecognized "u8")).insert "q" (.known .skip)) ∧
    bookSearch.compile bookSchema (bookMappings.insert "year" (.unrecognized "u8")) =
      .error (.unknownMapping "year" "u8") ∧
    bookSearch.compile bookSchema
        ((bookMappings.insert "year" (.unrecognized "u8")).insert "year" (.known .skip)) =
      .ok ⟨"(title = ?) AND (year > ?)", [.text "x", .int 7]⟩ := by
  have unnamed : ∀ clause ∈ bookSearch.groups.flatten, clause.name ≠ "title" := by decide
  obtain ⟨without, replaced, exchanged, reported⟩ :=
    @Formula.compile_insert bookSchema bookMappings bookSearch
  refine ⟨unnamed, (without _ _ [] unnamed).trans (by decide +kernel), by decide,
    exchanged _ _ _ _ [] (by decide), ?_, (replaced _ _ _ [] []).trans (by decide +kernel)⟩
  refine (reported _ _ [] (List.forall_mem_nil _) [.ofRaw "q" .equal "x"] _ [] rfl rfl).trans ?_
  decide +kernel

end Criteria
