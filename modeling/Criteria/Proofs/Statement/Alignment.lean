import Criteria.Proofs.Statement.Parts

/-! # Placeholders and arguments of a command

Where no name in a statement holds a placeholder and every fragment is balanced, each piece of a
command is balanced by itself. The command then has as many arguments as placeholders, and shown
with literals it is what its pieces are shown as on their own.
-/

namespace Criteria

/-- The column of the assignment holds no placeholder, and an expression is balanced. -/
def Assignment.IsAligned : Assignment → Prop
  | value column _ => '?' ∉ column.toList
  | expression column query => '?' ∉ column.toList ∧ query.isBalanced

instance : DecidablePred Assignment.IsAligned
  | .value column _ => inferInstanceAs (Decidable ('?' ∉ column.toList))
  | .expression column query => inferInstanceAs (Decidable ('?' ∉ column.toList ∧ query.isBalanced))

/-- No table, field, column or group holds a placeholder, and every fragment is balanced. -/
structure Statement.IsAligned (statement : Statement) : Prop where
  verbatim : ∀ query ∈ statement.verbatim, query.isBalanced
  table : ∀ table ∈ statement.tables, '?' ∉ table.toList
  joinTable : ∀ join ∈ statement.joins, '?' ∉ join.table.toList
  joinCondition : ∀ join ∈ statement.joins, join.on.isBalanced
  field : ∀ field ∈ statement.fields, '?' ∉ field.toList
  condition : ∀ condition ∈ statement.conditions, condition.isBalanced
  assignment : ∀ assignment ∈ statement.assignments, assignment.IsAligned
  groupBy : '?' ∉ statement.groupBy.toList
  having : '?' ∉ statement.having.toList

/-- Text without placeholders, a balanced fragment, or a single argument. -/
def Piece.IsAligned : Piece → Prop
  | text written => '?' ∉ written.toList
  | fragment query => query.isBalanced
  | value _ => True

theorem Piece.IsAligned.isBalanced_query {piece : Piece} (aligned : piece.IsAligned) :
    piece.query.isBalanced := by
  cases piece with
  | text written => exact Query.isBalanced_ofText aligned
  | fragment query => exact Query.isBalanced_expanded aligned
  | value argument => simp [query, Query.isBalanced, Query.placeholders]

namespace Statement

open Piece

variable {statement : Statement} {command : Command} {piece : Piece}

/-- Pieces are aligned if no name holds a placeholder and all fragments are balanced. -/
theorem isAligned_of_mem_pieces [Text.WordClass] (unmarked : statement.IsUnmarked)
    (balanced : ∀ query, .fragment query ∈ statement.pieces command → query.isBalanced)
    (sound : statement.orderFault? command = none) (member : piece ∈ statement.pieces command) :
    piece.IsAligned := by
  cases piece with
  | text written => exact unmarked.of_text_mem_pieces sound member
  | fragment query => exact balanced query member
  | value argument => trivial

namespace IsAligned

theorem isUnmarked (aligned : statement.IsAligned) : statement.IsUnmarked where
  table := aligned.table
  joinTable := aligned.joinTable
  field := aligned.field
  column assignment assigned := by
    have holds := aligned.assignment assignment assigned
    cases assignment with
    | value column argument => exact holds
    | expression column query => exact holds.1
  groupBy := aligned.groupBy
  having := aligned.having

theorem isBalanced_of_mem_fragments (aligned : statement.IsAligned) {query : Query}
    (held : query ∈ statement.fragments) : query.isBalanced := by
  rcases mem_fragments_iff.mp held with verbatim | ⟨join, joined, rfl⟩ | condition | ⟨_, assigned⟩
  · exact aligned.verbatim query verbatim
  · exact aligned.joinCondition join joined
  · exact aligned.condition query condition
  · exact (aligned.assignment _ assigned).2

theorem isBalanced_of_mem_pieces (aligned : statement.IsAligned) {query : Query}
    (member : .fragment query ∈ statement.pieces command) : query.isBalanced :=
  aligned.isBalanced_of_mem_fragments (mem_fragments_of_mem_pieces member)

/-- All pieces of a command with a valid sort order are aligned. -/
theorem of_mem_pieces [Text.WordClass] (aligned : statement.IsAligned)
    (sound : statement.orderFault? command = none)
    (member : piece ∈ statement.pieces command) : piece.IsAligned :=
  isAligned_of_mem_pieces aligned.isUnmarked (fun _ => aligned.isBalanced_of_mem_pieces) sound member

theorem isSafe [Text.WordClass] (aligned : statement.IsAligned) : statement.IsSafe := by
  intro command counts built
  obtain ⟨_, faulty⟩ := exists_build_eq_mismatch_iff.mp ⟨counts, built⟩
  exact faulty (firstFault?_eq_none_iff.mpr fun _ => aligned.isBalanced_of_mem_pieces)

end IsAligned

/-- A command is balanced if no name holds a placeholder: it has been built, so its fragments are
balanced. -/
theorem isBalanced_of_build [Text.WordClass] (unmarked : statement.IsUnmarked) {query : Query}
    (built : statement.build command = .ok query) : query.isBalanced := by
  obtain ⟨sound, rfl⟩ := build_eq_ok_iff.mp built
  simp only [fault?, Option.or_eq_none_iff] at sound
  obtain ⟨_, fragments, order⟩ := sound
  apply Query.isBalanced_join (by decide)
  rw [List.forall_mem_map]
  intro piece member
  have aligned : piece.IsAligned :=
    isAligned_of_mem_pieces unmarked (firstFault?_eq_none_iff.mp fragments) order member
  exact aligned.isBalanced_query

/-- No command of an aligned statement finds placeholders and arguments that differ in number. A
command built from it is all its pieces side by side, with as many arguments as placeholders; shown
with literals it is what its pieces are shown as on their own, so that no argument gets into the
placeholder of another piece. -/
theorem build_aligned [Text.WordClass] [TimestampFormat] (aligned : statement.IsAligned) :
    statement.IsSafe ∧ ∀ command,
      (∀ query, .fragment query ∈ statement.pieces command → query.expand = .ok query.expanded) ∧
      ∀ query, statement.build command = .ok query →
        query = joined (statement.pieces command) ∧
        (∀ piece ∈ statement.pieces command, piece.IsAligned) ∧
        query.isBalanced ∧
        ∀ dialect, query.render dialect =
          .join ((statement.pieces command).map (Piece.rendered dialect)) := by
  refine ⟨aligned.isSafe, fun command => ⟨?_, ?_⟩⟩
  · intro query member
    exact Query.expand_eq_ok (aligned.isBalanced_of_mem_pieces member)
  · intro query built
    obtain ⟨sound, rfl⟩ := build_eq_ok_iff.mp built
    have order : statement.orderFault? command = none := by
      simp only [fault?, Option.or_eq_none_iff] at sound
      exact sound.2.2
    have pieces : ∀ piece ∈ statement.pieces command, piece.IsAligned :=
      fun _ => aligned.of_mem_pieces order
    have balanced : ∀ piece ∈ statement.pieces command, piece.query.isBalanced :=
      fun piece member => (pieces piece member).isBalanced_query
    refine ⟨rfl, pieces, ?_, fun dialect => render_joined dialect balanced⟩
    exact Query.isBalanced_join (by decide) (List.forall_mem_map.mpr balanced)

/-- Posts of a few users, with lists in conditions and in what is assigned. -/
def postDigest : Statement where
  tables := ["users"]
  joins := [⟨.left, "posts", ⟨"posts.kind IN (?) AND posts.age<?",
    [.list [.int 1, .int 2], .int 7]⟩⟩]
  fields := ["id,posts.title"]
  conditions := [⟨"users.id IN (?)", [.list []]⟩, ⟨"users.name=?", [.text "who?"]⟩]
  assignments := [.value "tags" (.list [.null, .text "?"]), .expression "hits" ⟨"hits+?", [.int 1]⟩]
  orderBy := "users.id desc, title"
  limit := 10

theorem build_aligned_postDigest :
    postDigest.IsAligned ∧
      postDigest.build .select = .ok
        ⟨"SELECT users.id,posts.title FROM users" ++
          " LEFT JOIN posts ON posts.kind IN (?,?) AND posts.age<?" ++
          " WHERE (users.id IN (NULL)) AND (users.name=?)" ++
          " ORDER BY users.id desc, title LIMIT 10 OFFSET 0",
          [.int 1, .int 2, .int 7, .text "who?"]⟩ ∧
      postDigest.build (.update false) = .ok
        ⟨"UPDATE users SET tags=?,hits=hits+?" ++
          " WHERE (users.id IN (NULL)) AND (users.name=?) LIMIT 10 OFFSET 0",
          [.list [.null, .text "?"], .int 1, .text "who?"]⟩ ∧
      .join ((postDigest.pieces (.update false)).map (Piece.rendered .mysql)) =
        "UPDATE users SET tags=NULL,'?',hits=hits+1" ++
          " WHERE (users.id IN (NULL)) AND (users.name='who?') LIMIT 10 OFFSET 0" ∧
      (∀ query, postDigest.build (.update false) = .ok query →
        query.render .mysql =
          .join ((postDigest.pieces (.update false)).map (Piece.rendered .mysql))) := by
  have aligned : postDigest.IsAligned := by
    constructor <;> decide +kernel
  obtain ⟨_, commands⟩ := build_aligned aligned
  obtain ⟨_, rendered⟩ := commands (.update false)
  refine ⟨aligned, by decide +kernel, by decide +kernel, by decide +kernel, ?_⟩
  intro query built
  exact (rendered query built).2.2.2 .mysql

end Statement

end Criteria
