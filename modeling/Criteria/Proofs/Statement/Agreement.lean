import Criteria.Proofs.Statement.Command

/-! # What the commands of a statement agree on

Selections and counts are refused alike, and differ in nothing but what they select. All four
commands have the same conditions with the same arguments, between what is their own, and end in the
same limits: the rows that are counted, changed or deleted are those that are selected.
-/

namespace Criteria

theorem Query.ofText_append (text : String) (query : Query) :
    ofText text ++ query = ⟨text ++ query.text, query.arguments⟩ := rfl

/-- A join as SQL writes it, with the lists of its condition expanded. -/
def Join.text (join : Join) : String :=
  " " ++ join.kind.keyword ++ " " ++ join.table ++ " ON " ++ join.on.expanded.text

namespace Assignment

/-- An assignment as SQL writes it. -/
def text : Assignment → String
  | value column _ => column ++ "=?"
  | expression column query => column ++ "=" ++ query.expanded.text

/-- The arguments of an assignment. -/
def arguments : Assignment → List Argument
  | value _ argument => [argument]
  | expression _ query => query.expanded.arguments

end Assignment

namespace Statement

open Piece

/-- The tables of a selection and its joins. -/
def tableText (statement : Statement) : String :=
  statement.tableList ++ .join (statement.joins.map Join.text)

/-- What stands before the conditions of a command. -/
def heading (statement : Statement) : Command → String
  | .select => "SELECT " ++ statement.fieldList statement.firstTable ++ " FROM " ++ statement.tableText
  | .count => "SELECT COUNT(1) FROM " ++ statement.tableText
  | .update _ =>
    "UPDATE " ++ statement.tableList ++ " SET " ++
      ",".intercalate (statement.assignments.map Assignment.text)
  | .delete _ => "DELETE FROM " ++ statement.tableList

/-- The arguments of what stands before the conditions. -/
def headingArguments (statement : Statement) : Command → List Argument
  | .select | .count => statement.joins.flatMap (·.on.expanded.arguments)
  | .update _ => statement.assignments.flatMap Assignment.arguments
  | .delete _ => []

/-- The conditions, from the keyword to the last one. -/
def whereText (statement : Statement) : String :=
  match statement.conditions with
  | [] => ""
  | first :: rest =>
    " WHERE (" ++ first.expanded.text ++ ")" ++
      .join (rest.map fun condition => " AND (" ++ condition.expanded.text ++ ")")

/-- The arguments of the conditions. -/
def whereArguments (statement : Statement) : List Argument :=
  statement.conditions.flatMap (·.expanded.arguments)

/-- What stands between the conditions and the limits. -/
def grouping (statement : Statement) : Command → String
  | .select | .count =>
    optionalPart "GROUP BY" statement.groupBy ++ optionalPart "HAVING" statement.having ++
      optionalPart "ORDER BY" statement.orderBy
  | .update _ | .delete _ => ""

/-- A selection names the list and is the count apart from that, or both are refused alike. -/
def Prints (statement : Statement) (list : String) : Prop :=
  (∃ error, statement.build .select = .error error ∧ statement.build .count = .error error) ∨
    ∃ body arguments,
      statement.build .select = .ok ⟨"SELECT " ++ list ++ " FROM " ++ body, arguments⟩ ∧
        statement.build .count = .ok ⟨"SELECT COUNT(1) FROM " ++ body, arguments⟩

variable {statement : Statement} {command : Command}

/-! ### Texts and arguments of the pieces -/

theorem heading_select (statement : Statement) :
    statement.heading .select =
      "SELECT " ++ statement.fieldList statement.firstTable ++ " FROM " ++ statement.tableText := rfl

theorem heading_count (statement : Statement) :
    statement.heading .count = "SELECT COUNT(1) FROM " ++ statement.tableText := rfl

theorem heading_delete (statement : Statement) (anyway : Bool) :
    statement.heading (.delete anyway) = "DELETE FROM " ++ statement.tableList := rfl

theorem joined_join (join : Join) :
    joined join.pieces = ⟨join.text, join.on.expanded.arguments⟩ := by
  rw [Join.pieces, joined_cons, joined_singleton]
  rfl

theorem joined_assignment (assignment : Assignment) :
    joined assignment.pieces = ⟨assignment.text, assignment.arguments⟩ := by
  cases assignment with
  | value column argument =>
    rw [Assignment.pieces, joined_cons, joined_singleton, Assignment.text,
      Assignment.append_equals_mark]
    rfl
  | expression column query =>
    rw [Assignment.pieces, joined_cons, joined_singleton]
    rfl

theorem joined_joins (joins : List Join) :
    joined (joins.flatMap Join.pieces) =
      ⟨.join (joins.map Join.text), joins.flatMap (·.on.expanded.arguments)⟩ := by
  rw [List.flatMap_def, ← join_map_joined, List.map_map, Query.join, String.intercalate_empty]
  simp only [Function.comp_def, joined_join, List.map_map, List.flatMap_map]

theorem joined_assignments (assignments : List Assignment) :
    joined ([Piece.text ","].intercalate (assignments.map Assignment.pieces)) =
      ⟨",".intercalate (assignments.map Assignment.text),
        assignments.flatMap Assignment.arguments⟩ := by
  rw [← join_map_joined_separated, List.map_map, Query.join]
  simp only [Function.comp_def, joined_assignment, List.map_map, List.flatMap_map]

theorem arguments_conditionPieces (keyword : String) (conditions : List Query) :
    (joined (conditionPieces keyword conditions)).arguments =
      conditions.flatMap (·.expanded.arguments) := by
  induction conditions generalizing keyword with
  | nil => rfl
  | cons condition rest ih =>
    rw [conditionPieces, joined_cons, joined_cons, joined_cons, List.flatMap_cons, ← ih " AND "]
    rfl

theorem joined_conditions (statement : Statement) :
    joined (conditionPieces " WHERE " statement.conditions) =
      ⟨statement.whereText, statement.whereArguments⟩ := by
  have text : (joined (conditionPieces " WHERE " statement.conditions)).text =
      statement.whereText := by
    unfold whereText
    cases statement.conditions with
    | nil => rfl
    | cons condition rest =>
      rw [conditionPieces, joined_cons, joined_cons, joined_cons]
      simp only [query, Query.ofText, Query.text_append, text_conditionPieces, String.append_assoc]
      rfl
  rw [whereArguments, ← text, ← arguments_conditionPieces " WHERE "]

theorem joined_tablePieces (statement : Statement) :
    joined statement.tablePieces =
      ⟨statement.tableText, statement.joins.flatMap (·.on.expanded.arguments)⟩ := by
  rw [tablePieces, joined_cons, joined_joins]
  rfl

theorem joined_opening (statement : Statement) (command : Command) :
    joined (statement.opening command) =
      ⟨statement.heading command, statement.headingArguments command⟩ := by
  cases command with
  | select =>
    rw [opening, joined_cons, joined_tablePieces, query, Query.ofText_append, heading_select]
    rfl
  | count =>
    rw [opening, joined_cons, joined_tablePieces, query, Query.ofText_append, heading_count]
    rfl
  | update anyway =>
    rw [opening, joined_cons, joined_assignments]
    rfl
  | delete anyway =>
    rw [opening, joined_singleton]
    rfl

theorem closing_eq (statement : Statement) (command : Command) :
    statement.closing command = statement.grouping command ++ statement.limitPart := by
  cases command with
  | select | count => rfl
  | update _ | delete _ => exact String.empty_append.symm

/-! ### Whole commands -/

/-- The pieces of a command side by side: its heading, the conditions, and what follows them. -/
theorem joined_pieces_eq (command : Command) (built : statement.verbatim = none) :
    joined (statement.pieces command) =
      ⟨statement.heading command ++ statement.whereText ++ statement.grouping command ++
        statement.limitPart, statement.headingArguments command ++ statement.whereArguments⟩ := by
  rw [joined_pieces command built, joined_opening, joined_conditions, closing_eq]
  change Query.mk _ _ = _
  simp [Query.ofText, String.append_assoc]

theorem fault?_count [Text.WordClass] (built : statement.verbatim = none) :
    statement.fault? .count = statement.fault? .select := by
  rw [fault?, fault?, firstFault?_pieces _ built, firstFault?_pieces _ built]
  rfl

theorem prints_fieldList (built : statement.verbatim = none) :
    statement.Prints (statement.fieldList statement.firstTable) := by
  cases found : statement.fault? .select with
  | some error =>
    exact .inl ⟨error, build_eq_error_iff.mpr found,
      build_eq_error_iff.mpr ((fault?_count built).trans found)⟩
  | none =>
    refine .inr ⟨statement.tableText ++ statement.whereText ++ statement.grouping .select ++
      statement.limitPart, statement.headingArguments .select ++ statement.whereArguments, ?_, ?_⟩
    · refine build_eq_ok_iff.mpr ⟨found, ?_⟩
      simp only [joined_pieces_eq _ built, heading_select, String.append_assoc]
    · refine build_eq_ok_iff.mpr ⟨(fault?_count built).trans found, ?_⟩
      rw [joined_pieces_eq _ built, heading_count]
      simp only [String.append_assoc]
      rfl

/-- Without joins a selection has nothing before its conditions but fields and tables. -/
theorem heading_select_of_joins_eq_nil (single : statement.joins = []) :
    statement.heading .select =
      "SELECT " ++ statement.fieldList statement.firstTable ++ " FROM " ++ statement.tableList := by
  rw [heading_select, tableText, single]
  simp

theorem grouping_select_of_empty (ungrouped : statement.groupBy = "")
    (unfiltered : statement.having = "") (unordered : statement.orderBy = "") :
    statement.grouping .select = "" := by
  rw [grouping, ungrouped, unfiltered, unordered]
  rfl

/-- What the commands of a statement agree on. A verbatim query is selected as it is counted. Other
statements are refused alike as selections and as counts, or give the same from the tables on with
the same arguments. Every command that is built has the same conditions with the same arguments
behind those of its heading, and the same limits at its end. Where a selection has no joins, groups
and order, it ends as the deletion does after the tables. -/
theorem build_agrees [Text.WordClass] (statement : Statement) :
    (∀ query, statement.verbatim = some query →
      statement.build .select = statement.build .count) ∧
    (statement.verbatim = none →
      statement.Prints (statement.fieldList statement.firstTable) ∧
      (∀ command query, statement.build command = .ok query →
        query.text = statement.heading command ++ statement.whereText ++
          statement.grouping command ++ statement.limitPart ∧
        query.arguments = statement.headingArguments command ++ statement.whereArguments) ∧
      (statement.joins = [] → statement.groupBy = "" → statement.having = "" →
        statement.orderBy = "" → ∀ anyway selected deleted,
        statement.build .select = .ok selected → statement.build (.delete anyway) = .ok deleted →
          selected.text = "SELECT " ++ statement.fieldList statement.firstTable ++ " FROM " ++
            statement.tableList ++ (statement.whereText ++ statement.limitPart) ∧
          deleted.text = "DELETE FROM " ++ statement.tableList ++
            (statement.whereText ++ statement.limitPart) ∧
          selected.arguments = deleted.arguments)) := by
  constructor
  · intro query verbatim
    rw [build, build, select, count, selectList, selectList, verbatim]
  · intro built
    refine ⟨prints_fieldList built, ?_, ?_⟩
    · intro command query succeeds
      obtain ⟨-, rfl⟩ := build_eq_ok_iff.mp succeeds
      rw [joined_pieces_eq command built]
      exact ⟨rfl, rfl⟩
    · intro single ungrouped unfiltered unordered anyway selected deleted selects deletes
      obtain ⟨-, rfl⟩ := build_eq_ok_iff.mp selects
      obtain ⟨-, rfl⟩ := build_eq_ok_iff.mp deletes
      have without : statement.headingArguments .select = [] := by rw [headingArguments, single]; rfl
      rw [joined_pieces_eq _ built, joined_pieces_eq _ built, heading_select_of_joins_eq_nil single,
        grouping_select_of_empty ungrouped unfiltered unordered, without]
      refine ⟨?_, ?_, rfl⟩
      · simp only [String.append_empty, String.append_assoc]
      · have ungroupedDelete : statement.grouping (.delete anyway) = "" := rfl
        simp only [heading_delete, ungroupedDelete, String.append_empty, String.append_assoc]

/-- A page of published posts with their authors, which can be written as well. -/
def postPage : Statement where
  tables := ["posts"]
  joins := [⟨.left, "users", ⟨"users.id=posts.author AND users.role IN (?)",
    [.list [.int 1, .int 2]]⟩⟩]
  fields := ["title", "users.name"]
  conditions := [⟨"posts.state=?", [.text "published"]⟩, ⟨"posts.id IN (?)", [.list [.int 7, .int 9]]⟩]
  assignments := [.value "state" (.text "hidden"), .expression "hits" ⟨"hits+?", [.int 1]⟩]
  groupBy := "posts.id"
  orderBy := "title desc"
  limit := 10
  offset := 20

/-- The same page without authors and in no order. -/
def plainPage : Statement :=
  { postPage with joins := [], groupBy := "", orderBy := "" }

theorem build_agrees_postPage :
    (Statement.ofQuery ⟨"SELECT ?", [.int 1]⟩).build .count = .ok ⟨"SELECT ?", [.int 1]⟩ ∧
    postPage.verbatim = none ∧
    postPage.Prints "posts.title,users.name" ∧
    postPage.whereText = " WHERE (posts.state=?) AND (posts.id IN (?,?))" ∧
    postPage.whereArguments = [.text "published", .int 7, .int 9] ∧
    postPage.build .count = .ok
      ⟨"SELECT COUNT(1) FROM posts" ++
        " LEFT JOIN users ON users.id=posts.author AND users.role IN (?,?)" ++ postPage.whereText ++
        " GROUP BY posts.id ORDER BY title desc LIMIT 10 OFFSET 20",
        [.int 1, .int 2] ++ postPage.whereArguments⟩ ∧
    postPage.build (.update false) = .ok
      ⟨"UPDATE posts SET state=?,hits=hits+?" ++ postPage.whereText ++ " LIMIT 10 OFFSET 20",
        [.text "hidden", .int 1] ++ postPage.whereArguments⟩ ∧
    (∀ query, postPage.build (.delete true) = .ok query →
      query.arguments = postPage.whereArguments) ∧
    plainPage.joins = [] ∧ plainPage.groupBy = "" ∧ plainPage.having = "" ∧ plainPage.orderBy = "" ∧
    (∃ selected deleted, plainPage.build .select = .ok selected ∧
      plainPage.build (.delete false) = .ok deleted ∧
      selected.text = "SELECT title,users.name FROM posts" ++
        " WHERE (posts.state=?) AND (posts.id IN (?,?)) LIMIT 10 OFFSET 20" ∧
      selected.arguments = deleted.arguments) := by
  obtain ⟨prints, commands, -⟩ := (build_agrees postPage).2 rfl
  obtain ⟨-, -, ends⟩ := (build_agrees plainPage).2 rfl
  refine ⟨?_, rfl, ?_, by decide +kernel, by decide +kernel, by decide +kernel, by decide +kernel, ?_,
    rfl, rfl, rfl, rfl, ?_⟩
  · rw [← (build_agrees (.ofQuery ⟨"SELECT ?", [.int 1]⟩)).1 _ rfl]
    decide +kernel
  · have list : postPage.fieldList postPage.firstTable = "posts.title,users.name" := by decide +kernel
    exact list ▸ prints
  · intro query succeeds
    exact (commands _ query succeeds).2
  · have selects : plainPage.build .select = .ok ⟨"SELECT title,users.name FROM posts" ++
        " WHERE (posts.state=?) AND (posts.id IN (?,?)) LIMIT 10 OFFSET 20",
        [.text "published", .int 7, .int 9]⟩ := by decide +kernel
    have deletes : plainPage.build (.delete false) = .ok ⟨"DELETE FROM posts" ++
        " WHERE (posts.state=?) AND (posts.id IN (?,?)) LIMIT 10 OFFSET 20",
        [.text "published", .int 7, .int 9]⟩ := by decide +kernel
    exact ⟨_, _, selects, deletes, rfl, (ends rfl rfl rfl rfl false _ _ selects deletes).2.2⟩

end Statement

end Criteria
