import Criteria.Proofs.Except
import Criteria.Proofs.Query.Expansion
import Criteria.Statement.Build

/-! # Pieces of commands

A command is put together from pieces: text that is written as it stands, fragments whose lists are
expanded, and single arguments. Pieces are assembled side by side unless one of them is a fragment
that is not balanced; then the first such fragment is the fault.
-/

namespace Criteria

/-- The fault of a fragment that is not balanced. -/
def Query.fault? (query : Query) : Option StatementError :=
  if query.isBalanced then none else some (.mismatch query.mismatch)

theorem Query.expandFragment_eq (query : Query) :
    query.expandFragment = .checked query.fault? query.expanded := by
  rw [expandFragment, expand_eq, fault?]
  cases query.isBalanced <;> rfl

/-- A piece of a command. -/
inductive Piece where
  | text (written : String)
  | fragment (query : Query)
  | value (argument : Argument)

namespace Piece

/-- What a piece adds to a command. -/
def query : Piece → Query
  | text written => .ofText written
  | fragment query => query.expanded
  | value argument => ⟨"?", [argument]⟩

/-- A piece on its own, with literals for its arguments. -/
def rendered [TimestampFormat] (dialect : Dialect) : Piece → String
  | text written => written
  | fragment query => query.expanded.render dialect
  | value argument => argument.literal dialect

/-- What is wrong with a piece. -/
def fault? : Piece → Option StatementError
  | text _ => none
  | fragment query => query.fault?
  | value _ => none

/-- Pieces side by side. -/
def joined (pieces : List Piece) : Query :=
  .join "" (pieces.map query)

/-- The fault of the first fragment that is not balanced. -/
def firstFault? (pieces : List Piece) : Option StatementError :=
  pieces.findSome? fault?

/-- Pieces side by side, if all fragments are balanced. -/
def assemble (pieces : List Piece) : Except StatementError Query :=
  .checked (firstFault? pieces) (joined pieces)

variable {piece : Piece} {pieces front back : List Piece} {groups : List (List Piece)}

/-! ### Pieces side by side -/

theorem joined_cons (piece : Piece) (rest : List Piece) :
    joined (piece :: rest) = piece.query ++ joined rest :=
  Query.join_cons _ _

theorem joined_singleton (piece : Piece) : joined [piece] = piece.query :=
  Query.join_singleton _ _

theorem joined_append (front back : List Piece) : joined (front ++ back) = joined front ++ joined back := by
  rw [joined, List.map_append, Query.join_append]
  rfl

theorem arguments_joined (pieces : List Piece) :
    (joined pieces).arguments = pieces.flatMap (·.query.arguments) := by
  rw [joined, Query.join, List.flatMap_map]

theorem join_map_joined (groups : List (List Piece)) :
    .join "" (groups.map joined) = joined groups.flatten := by
  induction groups with
  | nil => rfl
  | cons group rest ih => rw [List.map_cons, Query.join_cons, ih, List.flatten_cons, joined_append]

theorem join_map_joined_separated (separator : String) (groups : List (List Piece)) :
    .join separator (groups.map joined) = joined ([text separator].intercalate groups) := by
  induction groups with
  | nil => rfl
  | cons group rest ih =>
    cases rest with
    | nil => simp [Query.join_singleton]
    | cons next others =>
      rw [List.map_cons] at ih
      rw [List.map_cons, List.map_cons, Query.join_cons_cons, ih, List.intercalate_cons_cons,
        joined_append, joined_append, joined_singleton]
      rfl

/-! ### Faults -/

theorem firstFault?_cons (piece : Piece) (rest : List Piece) :
    firstFault? (piece :: rest) = piece.fault?.or (firstFault? rest) := by
  rw [firstFault?, List.findSome?_cons]
  cases piece.fault? <;> rfl

theorem firstFault?_append (front back : List Piece) :
    firstFault? (front ++ back) = (firstFault? front).or (firstFault? back) :=
  List.findSome?_append

theorem findSome?_firstFault? (groups : List (List Piece)) :
    groups.findSome? firstFault? = firstFault? groups.flatten :=
  List.findSome?_findSome? fault? groups

/-- No fault is in a separator. -/
theorem firstFault?_intercalate (separator : String) (groups : List (List Piece)) :
    firstFault? ([text separator].intercalate groups) = firstFault? groups.flatten := by
  induction groups with
  | nil => rfl
  | cons group rest ih =>
    cases rest with
    | nil => simp
    | cons next others =>
      have separate : firstFault? [text separator] = none := rfl
      change _ = firstFault? (group ++ (next :: others).flatten)
      rw [List.intercalate_cons_cons, firstFault?_append, firstFault?_append, ih, separate,
        Option.or_none, firstFault?_append]

theorem firstFault?_eq_none_iff :
    firstFault? pieces = none ↔ ∀ query, fragment query ∈ pieces → query.isBalanced = true := by
  rw [firstFault?, List.findSome?_eq_none_iff]
  constructor
  · intro sound query member
    simpa [fault?, Query.fault?] using sound _ member
  · intro balanced piece member
    cases piece with
    | text _ | value _ => rfl
    | fragment query => simp [fault?, Query.fault?, balanced query member]

/-- A fault is a difference between placeholders and arguments. -/
theorem exists_eq_mismatch_of_firstFault? {error : StatementError}
    (faulty : firstFault? pieces = some error) : ∃ counts, error = .mismatch counts := by
  obtain ⟨piece, _, found⟩ := List.exists_of_findSome?_eq_some faulty
  cases piece with
  | text _ | value _ => contradiction
  | fragment query =>
    change query.fault? = some error at found
    unfold Query.fault? at found
    split_ifs at found
    exact ⟨query.mismatch, (Option.some.inj found).symm⟩

/-! ### Assembling -/

/-- Parts that are assembled from their own pieces are traversed up to the first fault. -/
theorem mapM_eq_checked {α : Type} {part : α → Except StatementError Query} {pieces : α → List Piece}
    (each : ∀ item, part item = assemble (pieces item)) (items : List α) :
    items.mapM part =
      .checked (firstFault? (items.flatMap pieces)) ((items.map pieces).map joined) := by
  rw [List.mapM_eq_checked each, List.map_map, List.flatMap_def, ← findSome?_firstFault?,
    List.findSome?_map]
  rfl

/-! ### Literals -/

/-- What a piece is shown as does not depend on the pieces around it. -/
theorem render_query [TimestampFormat] (dialect : Dialect) (piece : Piece) :
    piece.query.render dialect = piece.rendered dialect := by
  cases piece with
  | text written => exact Query.render_ofText dialect written
  | fragment query => rfl
  | value argument => exact Query.render_placeholder dialect argument

/-- Balanced pieces side by side are shown as they are shown on their own. -/
theorem render_joined [TimestampFormat] (dialect : Dialect)
    (balanced : ∀ piece ∈ pieces, piece.query.isBalanced = true) :
    (joined pieces).render dialect = .join (pieces.map (rendered dialect)) := by
  have shown : pieces.map (Query.render dialect ∘ query) = pieces.map (rendered dialect) :=
    List.map_congr_left fun piece _ => render_query dialect piece
  rw [joined, Query.render_join dialect (by decide) (List.forall_mem_map.mpr balanced),
    List.map_map, shown, String.intercalate_empty]

end Piece

end Criteria
