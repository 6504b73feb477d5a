import Criteria.Proofs.Statement.Edit

/-! # No write without a condition

Unless it is asked for explicitly, an update or a deletion is built only with conditions: those that
have been added since the last restart, each in parentheses. Filters all of whose clauses are
dropped add none, however many there are, and then nothing is written.
-/

namespace Criteria

/-- A filter all of whose clauses are dropped compiles to nothing. -/
theorem text_of_compile_of_drops {schema : Schema} {mappings : Mappings} {source : String}
    {condition : Query} (compiled : compile schema mappings source = .ok condition)
    (drops : ∀ formula, Formula.parse source = .ok formula →
      ∀ clause ∈ formula.groups.flatten, mappings.Holds clause.name .skip) :
    condition.text = "" := by
  obtain ⟨formula, read, compiledFormula⟩ := compile_eq_ok_iff.mp compiled
  obtain ⟨groups, succeeds, rfl⟩ := Formula.compile_eq_ok_iff.mp compiledFormula
  have nothing : mappings.kept formula.groups.flatten = [] := by
    rw [Mappings.kept_eq_nil_iff]
    intro clause member
    obtain ⟨name, operator, raw, rfl, _⟩ :=
      (Formula.isCanonical_of_parse read).legible.clause member
    exact Mappings.apply_eq_ok_skip_iff.mpr ⟨drops formula read _ member, rfl⟩
  have added := Formula.forall₂_kept_flatten_of_conditions succeeds
  rw [nothing, List.forall₂_nil_left_iff] at added
  exact Formula.text_conjunction_eq_empty_iff.mpr added

namespace Statement

open Piece

/-- The edit adds no condition: it is none, its test fails, or it is a filter all of whose clauses
are dropped. -/
def Edit.AddsNothing : Edit → Prop
  | condition _ => False
  | conditionIf test _ => test = false
  | filter _ mappings source =>
    ∀ formula, Formula.parse source = .ok formula →
      ∀ clause ∈ formula.groups.flatten, mappings.Holds clause.name .skip
  | _ => True

theorem Edit.AddsNothing.condition?_eq_none {edit : Edit} (nothing : edit.AddsNothing) :
    edit.condition? = none := by
  cases edit with
  | condition query => exact nothing.elim
  | conditionIf test query => exact if_neg (Bool.eq_false_iff.mp nothing)
  | filter schema mappings source =>
    cases compiled : compile schema mappings source with
    | error error => simp only [condition?, compiled]
    | ok query => simp only [condition?, compiled, if_pos (text_of_compile_of_drops compiled nothing)]
  | _ => rfl

/-- Every condition is a piece of the command. -/
theorem fragment_mem {keyword : String} {condition : Query} {conditions : List Query}
    (member : condition ∈ conditions) : .fragment condition ∈ conditionPieces keyword conditions := by
  induction conditions generalizing keyword with
  | nil => contradiction
  | cons first rest ih =>
    rw [conditionPieces]
    rcases List.mem_cons.mp member with rfl | later
    · simp
    · simp [ih later]

variable {statement : Statement} {command : Command}

/-- A write that may not touch every row needs a table and a condition. -/
theorem writeRefusal?_eq_none_iff :
    statement.writeRefusal? false = none ↔
      statement.verbatim = none ∧ statement.tables ≠ [] ∧ statement.conditions ≠ [] := by
  unfold writeRefusal?
  cases statement.verbatim with
  | some query => simp
  | none => split_ifs <;> simp_all

/-- Without a condition the write is refused, whatever else there is. -/
theorem writeRefusal?_of_no_conditions
    (nothing : statement.verbatim = none → statement.conditions = []) :
    statement.writeRefusal? false =
      some (if statement.verbatim.isSome then .rawNotAllowed
        else if statement.tables = [] then .noTable else .noWhere) := by
  unfold writeRefusal?
  cases verbatim : statement.verbatim with
  | some query => rfl
  | none => split_ifs <;> simp_all

/-- A write that may not touch every row is refused for the reasons that hold for all writes. -/
theorem writeRefusal?_of_unforced (unforced : command = .update false ∨ command = .delete false)
    (permitted : statement.refusal? command = none) : statement.writeRefusal? false = none := by
  rcases unforced with rfl | rfl
  · simp only [refusal?, Option.or_eq_none_iff] at permitted
    exact permitted.1
  · exact permitted

/-- The refusal of a write comes before all other faults. -/
theorem build_of_writeRefusal? [Text.WordClass] {error : StatementError}
    (unforced : command = .update false ∨ command = .delete false)
    (refused : statement.writeRefusal? false = some error) :
    statement.build command = .error error := by
  rw [build_eq_error_iff]
  rcases unforced with rfl | rfl <;> simp [fault?, refusal?, refused]

/-- A write that may not touch every row is built only from a statement that has a table and is not
verbatim, and with conditions: each that has been added since the last restart stands in its text in
parentheses, in order, and no other does. Where nothing has been added, because no condition has
been given, all tests have failed and all clauses of all filters have been dropped, the write is
refused. -/
theorem guarded_build [Text.WordClass] (edits : List Edit)
    (unforced : command = .update false ∨ command = .delete false) :
    (∀ query, (ofEdits edits).build command = .ok query →
      (ofEdits edits).verbatim = none ∧ (ofEdits edits).tables ≠ [] ∧
      ∃ first rest, addedConditions edits = first :: rest ∧
        (∀ condition ∈ addedConditions edits, condition.expand = .ok condition.expanded) ∧
        query.text = (joined ((ofEdits edits).opening command)).text ++
          (" WHERE (" ++ first.expanded.text ++ ")" ++
            .join (rest.map fun condition => " AND (" ++ condition.expanded.text ++ ")")) ++
          (ofEdits edits).limitPart) ∧
    ((∀ edit ∈ sinceRestart edits, edit.AddsNothing) →
      (ofEdits edits).build command =
        .error (if (ofEdits edits).verbatim.isSome then .rawNotAllowed
          else if (ofEdits edits).tables = [] then .noTable else .noWhere)) := by
  constructor
  · intro query succeeds
    obtain ⟨sound, rfl⟩ := build_eq_ok_iff.mp succeeds
    simp only [fault?, Option.or_eq_none_iff] at sound
    obtain ⟨permitted, fragments, _⟩ := sound
    obtain ⟨built, tables, conditions⟩ :=
      writeRefusal?_eq_none_iff.mp (writeRefusal?_of_unforced unforced permitted)
    refine ⟨built, tables, ?_⟩
    have added := conditions_ofEdits built
    obtain ⟨first, rest, split⟩ := List.exists_cons_of_ne_nil conditions
    refine ⟨first, rest, added.symm.trans split, ?_, ?_⟩
    · intro condition member
      rw [← added] at member
      rw [firstFault?_pieces command built, Option.or_eq_none_iff] at fragments
      exact Query.expand_eq_ok
        (firstFault?_eq_none_iff.mp fragments.2 condition (fragment_mem member))
    · have closing : (ofEdits edits).closing command = (ofEdits edits).limitPart := by
        rcases unforced with rfl | rfl <;> rfl
      rw [joined_pieces command built, split, conditionPieces, joined_cons, joined_cons, joined_cons,
        closing]
      simp only [query, Query.ofText, Query.text_append, text_conditionPieces, String.append_assoc]
      rfl
  · intro nothing
    apply build_of_writeRefusal? unforced
    apply writeRefusal?_of_no_conditions
    intro built
    rw [conditions_ofEdits built, addedConditions, List.filterMap_eq_nil_iff]
    exact fun edit member => (nothing edit member).condition?_eq_none

/-- A sort order is no condition. -/
def sortMappings : Mappings :=
  Mappings.empty.insert "sort" (.known .skip)

/-- Nothing but filters that are dropped, and a condition whose test fails. -/
def idleEdits : List Edit :=
  [.condition ⟨"a=?", [.int 1]⟩, .restart, .filter postSchema sortMappings "sort==age,sort==x;;sort==",
    .table "posts", .conditionIf false ⟨"b=?", [.int 2]⟩, .filter postSchema sortMappings " ; ,",
    .assign (.value "hits" (.int 0)), .limit 5]

/-- One more filter, of which one clause is kept, and conditions before and after it. -/
def busyEdits : List Edit :=
  idleEdits ++ [.condition ⟨"id IN (?)", [.list [.int 1, .int 2]]⟩,
    .filter postSchema sortMappings "sort==age;age>1", .conditionIf true ⟨"", []⟩]

theorem guarded_build_posts :
    (∀ edit ∈ sinceRestart idleEdits, edit.AddsNothing) ∧
      (ofEdits idleEdits).build (.delete false) = .error .noWhere ∧
      (ofEdits busyEdits).build (.update false) = .ok
        ⟨"UPDATE posts SET hits=? WHERE (id IN (?,?)) AND ((age > ?)) AND () LIMIT 5 OFFSET 0",
          [.int 0, .int 1, .int 2, .int 1]⟩ ∧
      addedConditions busyEdits =
        [⟨"id IN (?)", [.list [.int 1, .int 2]]⟩, ⟨"(age > ?)", [.int 1]⟩, ⟨"", []⟩] ∧
      ∀ condition ∈ addedConditions busyEdits, condition.expand = .ok condition.expanded := by
  have skips : sortMappings.Holds "sort" .skip := by
    simp [Mappings.Holds, sortMappings, Mappings.insert]
  have sorts : (Edit.filter postSchema sortMappings "sort==age,sort==x;;sort==").AddsNothing := by
    have read : Formula.parse "sort==age,sort==x;;sort==" = .ok
        ⟨[[.ofRaw "sort" .equal "age", .ofRaw "sort" .equal "x"], [.ofRaw "sort" .equal ""]]⟩ := by
      decide +kernel
    intro formula parsed clause member
    cases read.symm.trans parsed
    have named : clause.name = "sort" := by
      simp only [List.flatten_cons, List.flatten_nil, List.cons_append, List.nil_append,
        List.mem_cons, List.not_mem_nil, or_false] at member
      rcases member with rfl | rfl | rfl <;> rfl
    rw [named]
    exact skips
  have blank : (Edit.filter postSchema sortMappings " ; ,").AddsNothing := by
    have read : Formula.parse " ; ," = .ok ⟨[]⟩ := by decide +kernel
    intro formula parsed clause member
    cases read.symm.trans parsed
    contradiction
  have idle : ∀ edit ∈ sinceRestart idleEdits, edit.AddsNothing := by
    have recent : sinceRestart idleEdits = idleEdits.drop 2 := rfl
    rw [recent]
    intro edit member
    simp only [idleEdits, List.drop_succ_cons, List.drop_zero, List.mem_cons, List.not_mem_nil,
      or_false] at member
    rcases member with rfl | rfl | rfl | rfl | rfl | rfl
    · exact sorts
    · trivial
    · rfl
    · exact blank
    · trivial
    · trivial
  have built : (ofEdits busyEdits).build (.update false) = .ok
      ⟨"UPDATE posts SET hits=? WHERE (id IN (?,?)) AND ((age > ?)) AND () LIMIT 5 OFFSET 0",
        [.int 0, .int 1, .int 2, .int 1]⟩ := by decide +kernel
  have refused := (guarded_build idleEdits (.inr rfl)).2 idle
  obtain ⟨_, _, _, _, _, expands, _⟩ := (guarded_build busyEdits (.inl rfl)).1 _ built
  exact ⟨idle, refused.trans (by decide +kernel), built, by decide +kernel, expands⟩

end Statement

end Criteria
