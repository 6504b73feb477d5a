import Criteria.Proofs.Statement.Piece

/-! # Commands and what becomes of them

A statement is turned into one of four commands. `build_eq` says what becomes of it: the first fault
there is, or all its pieces side by side. The faults are looked for in a fixed order: what forbids
the command altogether, fragments that are not balanced, and a sort order that is none.
-/

namespace Criteria

/-- What a statement can be turned into. -/
inductive Command where
  | select
  | count
  | update (anyway : Bool)
  | delete (anyway : Bool)
deriving DecidableEq

/-- The same command, allowed to touch every row. -/
def Command.forced : Command → Command
  | update _ => update true
  | delete _ => delete true
  | select => select
  | count => count

/-- A join in pieces: what is written before its condition, and the condition. -/
def Join.pieces (join : Join) : List Piece :=
  [.text (" " ++ join.kind.keyword ++ " " ++ join.table ++ " ON "), .fragment join.on]

/-- An assignment in pieces: the column, and what is assigned to it. -/
def Assignment.pieces : Assignment → List Piece
  | value column argument => [.text (column ++ "="), .value argument]
  | expression column query => [.text (column ++ "="), .fragment query]

namespace Statement

/-- Turn a statement into a command. -/
def build [Text.WordClass] (statement : Statement) : Command → Except StatementError Query
  | .select => statement.select
  | .count => statement.count
  | .update anyway => statement.update anyway
  | .delete anyway => statement.delete anyway

/-- No command of the statement finds placeholders and arguments that differ in number. -/
def IsSafe [Text.WordClass] (statement : Statement) : Prop :=
  ∀ command counts, statement.build command ≠ .error (.mismatch counts)

/-- The table that unqualified fields belong to. -/
def firstTable (statement : Statement) : String :=
  statement.tables.headD ""

/-- The tables of a selection and its joins. -/
def tablePieces (statement : Statement) : List Piece :=
  .text statement.tableList :: statement.joins.flatMap Join.pieces

/-- What stands before the conditions of a command. -/
def opening (statement : Statement) : Command → List Piece
  | .select =>
    .text ("SELECT " ++ statement.fieldList statement.firstTable ++ " FROM ") ::
      statement.tablePieces
  | .count => .text "SELECT COUNT(1) FROM " :: statement.tablePieces
  | .update _ =>
    .text ("UPDATE " ++ statement.tableList ++ " SET ") ::
      [.text ","].intercalate (statement.assignments.map Assignment.pieces)
  | .delete _ => [.text ("DELETE FROM " ++ statement.tableList)]

/-- Conditions in parentheses, with a keyword before the first and `AND` between them. -/
def conditionPieces (keyword : String) : List Query → List Piece
  | [] => []
  | condition :: rest =>
    .text (keyword ++ "(") :: .fragment condition :: .text ")" :: conditionPieces " AND " rest

/-- What stands after the conditions of a command. -/
def closing (statement : Statement) : Command → String
  | .select | .count =>
    optionalPart "GROUP BY" statement.groupBy ++ optionalPart "HAVING" statement.having ++
      optionalPart "ORDER BY" statement.orderBy ++ statement.limitPart
  | .update _ | .delete _ => statement.limitPart

/-- A command in pieces. A verbatim query is all there is of a command. -/
def pieces (statement : Statement) (command : Command) : List Piece :=
  match statement.verbatim with
  | some query => [.fragment query]
  | none =>
    statement.opening command ++ conditionPieces " WHERE " statement.conditions ++
      [.text (statement.closing command)]

/-- Why nothing may be written. -/
def writeRefusal? (statement : Statement) (anyway : Bool) : Option StatementError :=
  if statement.verbatim.isSome then some .rawNotAllowed
  else if statement.tables = [] then some .noTable
  else if statement.conditions = [] ∧ ¬anyway then some .noWhere
  else none

/-- Why a command is refused before any fragment is looked at. -/
def refusal? (statement : Statement) : Command → Option StatementError
  | .select | .count =>
    if statement.verbatim.isNone ∧ statement.tables = [] then some .noTable else none
  | .update anyway =>
    (statement.writeRefusal? anyway).or
      (if statement.assignments = [] then some .noFields else none)
  | .delete anyway => statement.writeRefusal? anyway

/-- What is wrong with the sort order of a command. -/
def orderFault? [Text.WordClass] (statement : Statement) : Command → Option StatementError
  | .select | .count =>
    if statement.verbatim.isSome ∨ statement.orderBy = "" then none
    else (Order.firstInvalid? statement.orderBy).map .invalidOrderBy
  | .update _ | .delete _ => none

/-- The first fault of a command. -/
def fault? [Text.WordClass] (statement : Statement) (command : Command) : Option StatementError :=
  (statement.refusal? command).or
    ((Piece.firstFault? (statement.pieces command)).or (statement.orderFault? command))

end Statement

/-! ### The parts of a statement -/

open Piece

theorem Join.query_eq (join : Join) : join.query = assemble join.pieces := by
  rw [Join.query, Query.expandFragment_eq, Except.checked_bind_pure, assemble, pieces, joined_cons,
    joined_singleton, firstFault?_cons, firstFault?_cons]
  exact congrArg (Except.checked · _) (Option.or_none).symm

/-- What is written for a single argument is the column and its placeholder. -/
theorem Assignment.append_equals_mark (column : String) : column ++ "=?" = column ++ "=" ++ "?" := by
  rw [String.append_assoc]
  rfl

theorem Assignment.query_eq (assignment : Assignment) :
    assignment.query = assemble assignment.pieces := by
  cases assignment with
  | value column argument =>
    rw [Assignment.query, append_equals_mark, assemble, pieces, joined_cons, joined_singleton]
    rfl
  | expression column query =>
    rw [Assignment.query, Query.expandFragment_eq, Except.checked_bind_pure, assemble, pieces,
      joined_cons, joined_singleton, firstFault?_cons, firstFault?_cons]
    exact congrArg (Except.checked · _) (Option.or_none).symm

namespace Statement

variable {statement : Statement}

theorem joined_conditionPieces (keyword : String) (condition : Query) (rest : List Query) :
    joined (conditionPieces keyword (condition :: rest)) =
      .ofText keyword ++ .join " AND " ((condition :: rest).map (·.expanded.parenthesized)) := by
  induction rest generalizing keyword condition with
  | nil =>
    rw [conditionPieces, conditionPieces, joined_cons, joined_cons, joined_singleton, List.map_cons,
      List.map_nil, Query.join_singleton]
    simp only [query, Query.parenthesized, Query.append_assoc, ← Query.ofText_append_ofText]
  | cons next others ih =>
    rw [conditionPieces, joined_cons, joined_cons, joined_cons, ih, List.map_cons, List.map_cons,
      List.map_cons, Query.join_cons_cons]
    simp only [query, Query.parenthesized, Query.append_assoc, ← Query.ofText_append_ofText]

theorem firstFault?_conditionPieces (keyword : String) (conditions : List Query) :
    firstFault? (conditionPieces keyword conditions) = conditions.findSome? Query.fault? := by
  induction conditions generalizing keyword with
  | nil => rfl
  | cons condition rest ih =>
    rw [conditionPieces, firstFault?_cons, firstFault?_cons, firstFault?_cons, ih,
      List.findSome?_cons]
    simp only [Piece.fault?, Option.none_or]
    cases condition.fault? <;> rfl

/-- What a further condition adds to the text of a command. -/
theorem text_conditionPieces (conditions : List Query) :
    (joined (conditionPieces " AND " conditions)).text =
      .join (conditions.map fun condition => " AND (" ++ condition.expanded.text ++ ")") := by
  induction conditions with
  | nil => rfl
  | cons condition rest ih =>
    rw [conditionPieces, joined_cons, joined_cons, joined_cons, List.map_cons, String.join_cons, ← ih]
    simp only [query, Query.ofText, Query.text_append, String.append_assoc]
    rfl

theorem joinPart_eq (statement : Statement) :
    statement.joinPart = assemble (statement.joins.flatMap Join.pieces) := by
  rw [joinPart, Piece.mapM_eq_checked Join.query_eq, Except.checked_bind_pure, join_map_joined]
  rfl

theorem wherePart_eq (statement : Statement) :
    statement.wherePart = assemble (conditionPieces " WHERE " statement.conditions) := by
  rw [wherePart, List.mapM_eq_checked Query.expandFragment_eq, assemble,
    firstFault?_conditionPieces]
  apply Except.checked_bind_ok
  cases statement.conditions with
  | nil => rfl
  | cons condition rest =>
    rw [joined_conditionPieces]
    simp [pure, Except.pure, Function.comp_def]

theorem checkWritable_eq (statement : Statement) (anyway : Bool) :
    statement.checkWritable anyway = .checked (statement.writeRefusal? anyway) () := by
  unfold checkWritable writeRefusal?
  split_ifs <;> rfl

private theorem refusal?_ne_mismatch (command : Command) (counts : Mismatch) :
    statement.refusal? command ≠ some (.mismatch counts) := by
  have write (anyway : Bool) : statement.writeRefusal? anyway ≠ some (.mismatch counts) := by
    unfold writeRefusal?
    split_ifs <;> simp
  unfold refusal?
  cases command with
  | select | count => split_ifs <;> simp
  | update anyway =>
    simp only [ne_eq, Option.or_eq_some_iff, write, false_or, not_and]
    split_ifs <;> simp
  | delete anyway => exact write anyway

/-! ### Whole commands -/

theorem joined_pieces (command : Command) (built : statement.verbatim = none) :
    joined (statement.pieces command) =
      joined (statement.opening command) ++
        joined (conditionPieces " WHERE " statement.conditions) ++
          .ofText (statement.closing command) := by
  rw [pieces, built, joined_append, joined_append, joined_singleton]
  rfl

theorem firstFault?_pieces (command : Command) (built : statement.verbatim = none) :
    firstFault? (statement.pieces command) =
      (firstFault? (statement.opening command)).or
        (firstFault? (conditionPieces " WHERE " statement.conditions)) := by
  have closed : firstFault? [.text (statement.closing command)] = none := rfl
  rw [pieces, built, firstFault?_append, firstFault?_append, closed, Option.or_none]

variable [Text.WordClass]

theorem orderPart_eq (statement : Statement) (built : statement.verbatim = none) :
    statement.orderPart =
      .checked (statement.orderFault? .select) (optionalPart "ORDER BY" statement.orderBy) := by
  unfold orderPart orderFault? optionalPart
  rw [built]
  by_cases empty : statement.orderBy = ""
  · simp [empty, Except.checked]
  · cases Order.firstInvalid? statement.orderBy <;> simp [empty, Except.checked]

/-- Selections and counts share everything from the tables on. -/
theorem selectionBody_eq (statement : Statement) (built : statement.verbatim = none) :
    statement.selectionBody = .checked
      (((firstFault? statement.tablePieces).or
        (firstFault? (conditionPieces " WHERE " statement.conditions))).or
          (statement.orderFault? .select))
      (joined statement.tablePieces ++ joined (conditionPieces " WHERE " statement.conditions) ++
        .ofText (statement.closing .select)) := by
  rw [selectionBody, joinPart_eq, wherePart_eq, orderPart_eq statement built, tablePieces,
    joined_cons, Option.or_assoc]
  apply Except.checked_bind
  apply Except.checked_bind
  apply Except.checked_bind_ok
  rfl

private theorem selectList_eq (list : String → String) (built : statement.verbatim = none) :
    statement.selectList list = .checked
      ((statement.refusal? .select).or (((firstFault? statement.tablePieces).or
        (firstFault? (conditionPieces " WHERE " statement.conditions))).or
          (statement.orderFault? .select)))
      (joined (.text ("SELECT " ++ list statement.firstTable ++ " FROM ") ::
          statement.tablePieces) ++
        joined (conditionPieces " WHERE " statement.conditions) ++
          .ofText (statement.closing .select)) := by
  rw [selectList, built, refusal?, firstTable, built, selectionBody_eq statement built, joined_cons]
  cases statement.tables with
  | nil => rfl
  | cons first others =>
    simp only [Query.append_assoc]
    exact Except.checked_bind_pure

private theorem update_eq (anyway : Bool) (built : statement.verbatim = none) :
    statement.update anyway = .checked (statement.fault? (.update anyway))
      (joined (statement.pieces (.update anyway))) := by
  have assigned : firstFault? (statement.opening (.update anyway)) =
      firstFault? (statement.assignments.flatMap Assignment.pieces) := by
    rw [opening, firstFault?_cons, firstFault?_intercalate]
    rfl
  rw [update, checkWritable_eq, fault?, refusal?, firstFault?_pieces _ built, assigned, orderFault?,
    Option.or_none, Option.or_assoc]
  apply Except.checked_bind
  by_cases empty : statement.assignments = []
  · simp only [empty, if_true]
    rfl
  · simp only [empty, if_false, Option.none_or]
    rw [Piece.mapM_eq_checked Assignment.query_eq, wherePart_eq]
    apply Except.checked_bind
    apply Except.checked_bind_ok
    rw [joined_pieces _ built, opening, joined_cons, join_map_joined_separated]
    rfl

private theorem delete_eq (anyway : Bool) (built : statement.verbatim = none) :
    statement.delete anyway = .checked (statement.fault? (.delete anyway))
      (joined (statement.pieces (.delete anyway))) := by
  have opened : firstFault? (statement.opening (.delete anyway)) = none := rfl
  rw [delete, checkWritable_eq, wherePart_eq, fault?, refusal?, firstFault?_pieces _ built, opened,
    orderFault?, Option.or_none, Option.none_or, joined_pieces _ built, opening, joined_singleton]
  exact Except.checked_bind (Except.checked_bind_ok rfl)

/-- A verbatim query stands for selections and counts, and is never written. -/
private theorem build_verbatim {query : Query} (command : Command)
    (verbatim : statement.verbatim = some query) :
    statement.build command =
      .checked (statement.fault? command) (joined (statement.pieces command)) := by
  have pieces : statement.pieces command = [.fragment query] := by simp only [pieces, verbatim]
  have refused (anyway : Bool) : statement.writeRefusal? anyway = some .rawNotAllowed := by
    rw [writeRefusal?, verbatim]
    rfl
  cases command with
  | select | count =>
    have expanded (list : String → String) :
        statement.selectList list = .checked query.fault? query.expanded := by
      rw [selectList, verbatim]
      exact query.expandFragment_eq
    simp only [build, select, count, expanded, fault?, pieces, refusal?, orderFault?, verbatim,
      joined_singleton, firstFault?_cons]
    simp [Piece.fault?, Piece.query, firstFault?]
  | update anyway =>
    simp only [build, update, checkWritable_eq, refused, fault?, refusal?]
    rfl
  | delete anyway =>
    simp only [build, delete, checkWritable_eq, refused, fault?, refusal?]
    rfl

/-- What becomes of a statement: its first fault, or its pieces side by side. -/
theorem build_eq (statement : Statement) (command : Command) :
    statement.build command =
      .checked (statement.fault? command) (joined (statement.pieces command)) := by
  cases verbatim : statement.verbatim with
  | some query => exact build_verbatim command verbatim
  | none =>
    cases command with
    | select | count =>
      rw [joined_pieces _ verbatim, fault?, firstFault?_pieces _ verbatim]
      exact selectList_eq _ verbatim
    | update anyway => exact update_eq anyway verbatim
    | delete anyway => exact delete_eq anyway verbatim

theorem build_eq_ok_iff {command : Command} {query : Query} :
    statement.build command = .ok query ↔
      statement.fault? command = none ∧ query = joined (statement.pieces command) := by
  rw [build_eq, Except.checked_eq_ok_iff]

theorem build_eq_error_iff {command : Command} {error : StatementError} :
    statement.build command = .error error ↔ statement.fault? command = some error := by
  rw [build_eq, Except.checked_eq_error_iff]

/-! ### Fragments that are not balanced -/

private theorem orderFault?_ne_mismatch (command : Command) (counts : Mismatch) :
    statement.orderFault? command ≠ some (.mismatch counts) := by
  unfold orderFault?
  cases command with
  | select | count => split_ifs <;> simp
  | update _ | delete _ => simp

/-- Placeholders and arguments are compared only where nothing forbids the command, and only a
fragment that is not balanced makes them differ. -/
theorem exists_build_eq_mismatch_iff {command : Command} :
    (∃ counts, statement.build command = .error (.mismatch counts)) ↔
      statement.refusal? command = none ∧ firstFault? (statement.pieces command) ≠ none := by
  simp only [build_eq_error_iff, fault?]
  constructor
  · rintro ⟨counts, faulty⟩
    simp only [Option.or_eq_some_iff, refusal?_ne_mismatch, orderFault?_ne_mismatch, and_false,
      or_false, false_or] at faulty
    exact ⟨faulty.1, by simp [faulty.2]⟩
  · rintro ⟨permitted, faulty⟩
    obtain ⟨error, found⟩ := Option.ne_none_iff_exists'.mp faulty
    obtain ⟨counts, rfl⟩ := exists_eq_mismatch_of_firstFault? found
    exact ⟨counts, by simp [permitted, found]⟩

end Statement

end Criteria
