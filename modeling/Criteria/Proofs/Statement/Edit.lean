import Criteria.Proofs.Statement.Filtering
import Mathlib.Data.List.DropRight

/-! # Statements and the edits that led to them

A statement under construction is what a run of edits makes of the empty statement. A filter that
cannot be compiled is reported and leaves the statement as it was. `conditions_ofEdits` says which
conditions a statement has: those that have been added since the last restart, in order.
-/

namespace Criteria.Statement

/-- One edit of a statement under construction. -/
inductive Edit where
  | restart
  | verbatim (query : Query)
  | table (name : String)
  | fields (list : String)
  | join (join : Join)
  | condition (query : Query)
  | conditionIf (test : Bool) (query : Query)
  | filter (schema : Schema) (mappings : Mappings) (source : String)
  | groupBy (columns : String)
  | having (text : String)
  | orderBy (terms : String)
  | limit (count : Int)
  | offset (count : Int)
  | assign (assignment : Assignment)

/-- The statement after an edit. -/
def after (statement : Statement) : Edit → Statement
  | .restart => .empty
  | .verbatim query => .ofQuery query
  | .table name => statement.addTable name
  | .fields list => statement.addFields list
  | .join join => statement.addJoin join
  | .condition query => statement.addCondition query
  | .conditionIf test query => statement.addConditionIf test query
  | .filter schema mappings source =>
    match statement.addFilter schema mappings source with
    | .ok filtered => filtered
    | .error _ => statement
  | .groupBy columns => { statement with groupBy := columns }
  | .having text => { statement with having := text }
  | .orderBy terms => { statement with orderBy := terms }
  | .limit count => { statement with limit := count }
  | .offset count => { statement with offset := count }
  | .assign assignment => statement.addAssignment assignment

/-- The statement that a run of edits leads to. -/
def ofEdits (edits : List Edit) : Statement :=
  edits.foldl after .empty

theorem ofEdits_concat (edits : List Edit) (edit : Edit) :
    ofEdits (edits ++ [edit]) = (ofEdits edits).after edit := by
  rw [ofEdits, List.foldl_append]
  rfl

/-- What every edit keeps holds of every statement that edits lead to. -/
theorem ofEdits_induction (property : Statement → Prop) {edits : List Edit}
    (empty : property .empty)
    (step : ∀ statement, property statement → ∀ edit ∈ edits, property (statement.after edit)) :
    property (ofEdits edits) := by
  induction edits using List.reverseRecOn with
  | nil => exact empty
  | append_singleton before edit ih =>
    rw [ofEdits_concat]
    refine step _ (ih fun statement holds other member => ?_) edit (by simp)
    exact step statement holds other (List.mem_append_left _ member)

/-! ### Conditions -/

/-- The edit begins a new statement. -/
def Edit.isRestart : Edit → Bool
  | restart => true
  | _ => false

theorem Edit.eq_restart {edit : Edit} (restarts : edit.isRestart = true) : edit = restart := by
  cases edit with
  | restart => rfl
  | _ => cases restarts

/-- The condition that an edit adds. A filter adds one if it compiles, and not to nothing. -/
def Edit.condition? : Edit → Option Query
  | condition query => some query
  | conditionIf test query => if test then some query else none
  | filter schema mappings source =>
    match compile schema mappings source with
    | .ok compiled => if compiled.text = "" then none else some compiled
    | .error _ => none
  | _ => none

/-- The edits since the last restart. -/
def sinceRestart (edits : List Edit) : List Edit :=
  edits.rtakeWhile (!·.isRestart)

/-- The conditions that have been added since the last restart, in order. -/
def addedConditions (edits : List Edit) : List Query :=
  (sinceRestart edits).filterMap Edit.condition?

variable {statement : Statement}

/-- A filter that does not add a condition leaves the statement as it is. -/
theorem after_filter (statement : Statement) (schema : Schema) (mappings : Mappings)
    (source : String) :
    statement.after (.filter schema mappings source) =
      ((Edit.filter schema mappings source).condition?.elim statement statement.addCondition) := by
  cases compiled : compile schema mappings source with
  | error error => simp only [after, addFilter_of_error compiled, Edit.condition?, compiled, Option.elim]
  | ok condition =>
    simp only [after, addFilter_of_ok compiled, Edit.condition?, compiled]
    by_cases empty : condition.text = "" <;> simp [empty]

/-- A statement that is not verbatim has been none before, unless it has just begun. -/
theorem verbatim_of_after {edit : Edit} (goesOn : edit.isRestart = false)
    (built : (statement.after edit).verbatim = none) : statement.verbatim = none := by
  cases edit with
  | restart => cases goesOn
  | verbatim query => cases built
  | conditionIf test query => cases test <;> exact built
  | filter schema mappings source =>
    rw [after_filter] at built
    cases added : (Edit.filter schema mappings source).condition? with
    | none => simpa [added] using built
    | some condition => simpa [added, addCondition] using built
  | table | fields | join | condition | groupBy | having | orderBy | limit | offset | assign =>
    exact built

/-- An edit adds its condition after the others. -/
theorem conditions_after {edit : Edit} (goesOn : edit.isRestart = false)
    (built : (statement.after edit).verbatim = none) :
    (statement.after edit).conditions = statement.conditions ++ edit.condition?.toList := by
  cases edit with
  | restart => cases goesOn
  | verbatim query => cases built
  | condition query => rfl
  | conditionIf test query =>
    cases test with
    | true => rfl
    | false => exact (List.append_nil _).symm
  | filter schema mappings source =>
    rw [after_filter]
    cases (Edit.filter schema mappings source).condition? with
    | none => exact (List.append_nil _).symm
    | some condition => rfl
  | table | fields | join | groupBy | having | orderBy | limit | offset | assign =>
    exact (List.append_nil _).symm

/-- A statement that is not verbatim has the conditions that have been added since the last restart,
and no others. -/
theorem conditions_ofEdits {edits : List Edit} (built : (ofEdits edits).verbatim = none) :
    (ofEdits edits).conditions = addedConditions edits := by
  induction edits using List.reverseRecOn with
  | nil => rfl
  | append_singleton before edit ih =>
    rw [ofEdits_concat] at built ⊢
    unfold addedConditions sinceRestart
    cases restarts : edit.isRestart with
    | true =>
      obtain rfl := Edit.eq_restart restarts
      rw [List.rtakeWhile_concat_neg _ _ _ (by simp [restarts])]
      rfl
    | false =>
      have added := ih (verbatim_of_after restarts built)
      rw [addedConditions, sinceRestart] at added
      have single : [edit].filterMap Edit.condition? = edit.condition?.toList := by
        cases last : edit.condition? <;> simp [last]
      rw [List.rtakeWhile_concat_pos _ _ _ (by simp [restarts]), List.filterMap_append, ← added,
        conditions_after restarts built, single]

end Criteria.Statement
