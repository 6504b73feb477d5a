import Criteria.Proofs.Statement.Command
import Criteria.Proofs.Statement.Order

/-! # What the pieces of a command are taken from

The fragments of a command are among those that the statement holds, and so are the single arguments
that it assigns. All other pieces are text; where no name in the statement holds a placeholder, none
of them does.
-/

namespace List

/-- A separated list holds nothing but the items and the separator. -/
theorem mem_or_exists_mem_of_mem_intercalate {α : Type} {element : α} {separator : List α}
    {items : List (List α)} (member : element ∈ separator.intercalate items) :
    element ∈ separator ∨ ∃ item ∈ items, element ∈ item := by
  induction items with
  | nil => contradiction
  | cons item rest ih =>
    cases rest with
    | nil => exact .inr ⟨item, mem_singleton_self item, by simpa using member⟩
    | cons next others =>
      rw [intercalate_cons_cons, mem_append, mem_append] at member
      rcases member with (own | separates) | later
      · exact .inr ⟨item, mem_cons_self .., own⟩
      · exact .inl separates
      · exact (ih later).imp id fun ⟨found, among, inside⟩ =>
          ⟨found, mem_cons_of_mem _ among, inside⟩

/-- A separated list holds all that its items hold. -/
theorem mem_intercalate_of_mem {α : Type} {element : α} {separator item : List α}
    {items : List (List α)} (among : item ∈ items) (inside : element ∈ item) :
    element ∈ separator.intercalate items := by
  induction items with
  | nil => contradiction
  | cons first rest ih =>
    cases rest with
    | nil =>
      obtain rfl := mem_singleton.mp among
      simpa using inside
    | cons next others =>
      rw [intercalate_cons_cons, mem_append]
      rcases mem_cons.mp among with rfl | later
      · exact .inl (mem_append_left _ inside)
      · exact .inr (ih later)

end List

namespace Criteria

/-! ### Texts without placeholders -/

theorem not_mem_append {first second : String} (unmarked : '?' ∉ first.toList)
    (otherUnmarked : '?' ∉ second.toList) : '?' ∉ (first ++ second).toList := by
  rw [String.toList_append, List.mem_append, not_or]
  exact ⟨unmarked, otherUnmarked⟩

theorem not_mem_intercalate {texts : List String} (unmarked : ∀ text ∈ texts, '?' ∉ text.toList) :
    '?' ∉ (",".intercalate texts).toList := by
  rw [String.toList_intercalate]
  intro mark
  rcases List.mem_or_exists_mem_of_mem_intercalate mark with separates | ⟨_, among, inside⟩
  · exact absurd separates (by decide)
  · obtain ⟨text, member, rfl⟩ := List.mem_map.mp among
    exact unmarked text member inside

theorem not_mem_toString (number : Int) : '?' ∉ (toString number).toList := fun mark =>
  absurd (isDigit_of_mem_toString mark) (by decide)

/-! ### Statements -/

namespace Assignment

/-- The column that is assigned to. -/
def column : Assignment → String
  | value column _ => column
  | expression column _ => column

/-- The query of an expression. -/
def fragment? : Assignment → Option Query
  | value _ _ => none
  | expression _ query => some query

end Assignment

namespace Statement

open Piece

variable {statement : Statement} {command : Command} {piece : Piece}

/-- The queries that a statement holds. -/
def fragments (statement : Statement) : List Query :=
  statement.verbatim.toList ++ statement.joins.map (·.on) ++ statement.conditions ++
    statement.assignments.filterMap Assignment.fragment?

theorem mem_fragments_iff {query : Query} :
    query ∈ statement.fragments ↔
      statement.verbatim = some query ∨ (∃ join ∈ statement.joins, join.on = query) ∨
        query ∈ statement.conditions ∨ ∃ column, .expression column query ∈ statement.assignments := by
  have expression : (∃ assignment ∈ statement.assignments, assignment.fragment? = some query) ↔
      ∃ column, .expression column query ∈ statement.assignments := by
    constructor
    · rintro ⟨_ | ⟨column, held⟩, member, found⟩
      · cases found
      · obtain rfl := Option.some.inj found
        exact ⟨column, member⟩
    · exact fun ⟨column, member⟩ => ⟨_, member, rfl⟩
  simp only [fragments, List.mem_append, Option.mem_toList, List.mem_map,
    List.mem_filterMap, expression, or_assoc]

/-- No table, field, column or group holds a placeholder. -/
structure IsUnmarked (statement : Statement) : Prop where
  table : ∀ table ∈ statement.tables, '?' ∉ table.toList
  joinTable : ∀ join ∈ statement.joins, '?' ∉ join.table.toList
  field : ∀ field ∈ statement.fields, '?' ∉ field.toList
  column : ∀ assignment ∈ statement.assignments, '?' ∉ assignment.column.toList
  groupBy : '?' ∉ statement.groupBy.toList
  having : '?' ∉ statement.having.toList

/-! ### Names without placeholders -/

theorem not_mem_optionalPart {keyword text : String} (unmarked : '?' ∉ keyword.toList)
    (textUnmarked : '?' ∉ text.toList) : '?' ∉ (optionalPart keyword text).toList := by
  unfold optionalPart
  split_ifs
  · decide
  · exact not_mem_append (not_mem_append (not_mem_append (by decide) unmarked) (by decide))
      textUnmarked

theorem not_mem_limitPart (statement : Statement) : '?' ∉ statement.limitPart.toList := by
  have limited := not_mem_append (show '?' ∉ " LIMIT ".toList by decide)
    (not_mem_toString statement.limit)
  unfold limitPart
  split_ifs
  · exact not_mem_append limited (not_mem_append (by decide) (not_mem_toString _))
  · exact not_mem_append limited (by decide)
  · decide

/-- A valid sort order is made of word characters, dots, spaces and commas. -/
theorem not_mem_orderBy [Text.WordClass] (built : statement.verbatim = none)
    (sound : statement.orderFault? .select = none) : '?' ∉ statement.orderBy.toList := by
  rw [orderFault?, built] at sound
  by_cases empty : statement.orderBy = ""
  · rw [empty]
    decide
  · have valid : Order.firstInvalid? statement.orderBy = none := by simpa [empty] using sound
    intro mark
    rcases Order.mem_of_firstInvalid? valid mark with word | dot | space | comma
    · rw [Text.isWord_of_ascii (by decide)] at word
      exact absurd word (by decide)
    · exact absurd dot (by decide)
    · exact absurd space (by decide)
    · exact absurd comma (by decide)

namespace IsUnmarked

theorem tableList (unmarked : statement.IsUnmarked) : '?' ∉ statement.tableList.toList :=
  not_mem_intercalate unmarked.table

theorem firstTable (unmarked : statement.IsUnmarked) : '?' ∉ statement.firstTable.toList := by
  have names := unmarked.table
  unfold Statement.firstTable
  generalize statement.tables = tables at names
  cases tables with
  | nil => decide
  | cons first others => exact names first (List.mem_cons_self ..)

theorem fieldList (unmarked : statement.IsUnmarked) :
    '?' ∉ (statement.fieldList statement.firstTable).toList := by
  unfold Statement.fieldList
  split_ifs
  · decide
  · exact not_mem_append unmarked.firstTable (by decide)
  · exact not_mem_intercalate unmarked.field
  · apply not_mem_intercalate
    intro text member
    obtain ⟨field, among, rfl⟩ := List.mem_map.mp member
    obtain ⟨list, selected, part⟩ := List.mem_flatMap.mp among
    have plain : '?' ∉ field := by
      intro mark
      have inside : '?' ∈ (list.toList.splitOn ',').flatten := List.mem_flatten.mpr ⟨field, part, mark⟩
      rw [List.flatten_splitOn] at inside
      exact unmarked.field list selected (List.mem_of_mem_filter inside)
    unfold qualified
    split_ifs
    · simpa using plain
    · exact not_mem_append (not_mem_append unmarked.firstTable (by decide)) (by simpa using plain)

/-- A command that does not report its sort order closes without a placeholder. -/
theorem closing [Text.WordClass] (unmarked : statement.IsUnmarked) (built : statement.verbatim = none)
    (sound : statement.orderFault? command = none) : '?' ∉ (statement.closing command).toList := by
  cases command with
  | select | count =>
    have order : '?' ∉ (optionalPart "ORDER BY" statement.orderBy).toList :=
      not_mem_optionalPart (by decide) (not_mem_orderBy built sound)
    exact not_mem_append (not_mem_append
      (not_mem_append (not_mem_optionalPart (by decide) unmarked.groupBy)
        (not_mem_optionalPart (by decide) unmarked.having)) order) statement.not_mem_limitPart
  | update _ | delete _ => exact statement.not_mem_limitPart

end IsUnmarked

/-! ### Pieces -/

/-- What a piece of a command is taken from: a query of the statement, a single argument that an
update assigns, names, or what closes the command. -/
inductive Supplies (statement : Statement) (command : Command) : Piece → Prop
  | fragment {query : Query} (held : query ∈ statement.fragments) :
      Supplies statement command (.fragment query)
  | value {column : String} {argument : Argument} (updates : ∃ anyway, command = .update anyway)
      (assigned : .value column argument ∈ statement.assignments) :
      Supplies statement command (.value argument)
  | text {written : String} (unmarked : statement.IsUnmarked → '?' ∉ written.toList) :
      Supplies statement command (.text written)
  | closing (built : statement.verbatim = none) :
      Supplies statement command (.text (statement.closing command))

theorem supplies_of_mem_tablePieces (member : piece ∈ statement.tablePieces) :
    statement.Supplies command piece := by
  rcases List.mem_cons.mp member with rfl | member
  · exact .text fun unmarked => unmarked.tableList
  · obtain ⟨join, among, part⟩ := List.mem_flatMap.mp member
    simp only [Join.pieces, List.mem_cons, List.not_mem_nil, or_false] at part
    rcases part with rfl | rfl
    · have keyword : '?' ∉ join.kind.keyword.toList := by cases join.kind <;> decide
      exact .text fun unmarked => not_mem_append (not_mem_append (not_mem_append
        (not_mem_append (by decide) keyword) (by decide)) (unmarked.joinTable join among)) (by decide)
    · exact .fragment (mem_fragments_iff.mpr (.inr (.inl ⟨join, among, rfl⟩)))

theorem supplies_of_mem_assignment {assignment : Assignment} {anyway : Bool}
    (assigned : assignment ∈ statement.assignments) (member : piece ∈ assignment.pieces) :
    statement.Supplies (.update anyway) piece := by
  have column := fun unmarked : statement.IsUnmarked =>
    not_mem_append (unmarked.column assignment assigned) (show '?' ∉ "=".toList by decide)
  cases assignment with
  | value name argument =>
    simp only [Assignment.pieces, List.mem_cons, List.not_mem_nil, or_false] at member
    rcases member with rfl | rfl
    · exact .text column
    · exact .value ⟨anyway, rfl⟩ assigned
  | expression name query =>
    simp only [Assignment.pieces, List.mem_cons, List.not_mem_nil, or_false] at member
    rcases member with rfl | rfl
    · exact .text column
    · exact .fragment (mem_fragments_iff.mpr (.inr (.inr (.inr ⟨name, assigned⟩))))

theorem supplies_of_mem_opening (member : piece ∈ statement.opening command) :
    statement.Supplies command piece := by
  cases command with
  | select =>
    rcases List.mem_cons.mp member with rfl | member
    · exact .text fun unmarked => not_mem_append (not_mem_append (by decide) unmarked.fieldList)
        (by decide)
    · exact supplies_of_mem_tablePieces member
  | count =>
    rcases List.mem_cons.mp member with rfl | member
    · exact .text fun _ => by decide
    · exact supplies_of_mem_tablePieces member
  | update anyway =>
    rcases List.mem_cons.mp member with rfl | member
    · exact .text fun unmarked => not_mem_append (not_mem_append (by decide) unmarked.tableList)
        (by decide)
    · rcases List.mem_or_exists_mem_of_mem_intercalate member with separates | ⟨_, among, part⟩
      · rw [List.mem_singleton.mp separates]
        exact .text fun _ => by decide
      · obtain ⟨assignment, assigned, rfl⟩ := List.mem_map.mp among
        exact supplies_of_mem_assignment assigned part
  | delete anyway =>
    rw [List.mem_singleton.mp member]
    exact .text fun unmarked => not_mem_append (by decide) unmarked.tableList

theorem supplies_of_mem_conditionPieces {conditions : List Query} {keyword : String}
    (unmarked : '?' ∉ keyword.toList) (held : ∀ condition ∈ conditions, condition ∈ statement.fragments)
    (member : piece ∈ conditionPieces keyword conditions) : statement.Supplies command piece := by
  induction conditions generalizing keyword with
  | nil => contradiction
  | cons condition rest ih =>
    obtain ⟨head, tail⟩ := List.forall_mem_cons.mp held
    simp only [conditionPieces, List.mem_cons] at member
    rcases member with rfl | rfl | rfl | later
    · exact .text fun _ => not_mem_append unmarked (by decide)
    · exact .fragment head
    · exact .text fun _ => by decide
    · exact ih (by decide) tail later

/-- Nothing gets into a command but what the statement supplies. -/
theorem supplies_of_mem_pieces (member : piece ∈ statement.pieces command) :
    statement.Supplies command piece := by
  unfold pieces at member
  cases verbatim : statement.verbatim with
  | some query =>
    rw [verbatim] at member
    rw [List.mem_singleton.mp member]
    exact .fragment (mem_fragments_iff.mpr (.inl verbatim))
  | none =>
    simp only [verbatim, List.mem_append, List.mem_singleton] at member
    rcases member with (opens | among) | rfl
    · exact supplies_of_mem_opening opens
    · exact supplies_of_mem_conditionPieces (by decide)
        (fun condition held => mem_fragments_iff.mpr (.inr (.inr (.inl held)))) among
    · exact .closing verbatim

/-- In a command without a fault, no text holds a placeholder if no name does. -/
theorem IsUnmarked.of_text_mem_pieces [Text.WordClass] {written : String}
    (unmarked : statement.IsUnmarked) (sound : statement.orderFault? command = none)
    (member : .text written ∈ statement.pieces command) : '?' ∉ written.toList := by
  cases supplies_of_mem_pieces member with
  | text plain => exact plain unmarked
  | closing built => exact unmarked.closing built sound

/-- The fragments of a command are queries of the statement. -/
theorem mem_fragments_of_mem_pieces {query : Query}
    (member : .fragment query ∈ statement.pieces command) : query ∈ statement.fragments := by
  cases supplies_of_mem_pieces member with
  | fragment held => exact held

end Statement

end Criteria
