import Criteria.Proofs.Statement.Edit
import Criteria.Proofs.Statement.Parts

/-! # Lists among the arguments of commands

Fragments are expanded, so if no list is given that holds another list, none is left of those given
in fragments. A single argument that is assigned to a column is taken over as it is, even if it is a
list: `lists_of_build` says that this is the only way for a list into a command, and
`exists_list_of_build` that it is one.
-/

namespace Criteria

/-- No query that the mapping puts in the place of a clause brings a list that holds another. -/
def Mapping.IsFlat (mapping : Mapping) : Prop :=
  ∀ query, mapping = .override query → ∀ operator raw, (query operator raw).IsFlat

/-- What is assigned holds no list that holds another. -/
def Assignment.IsFlat : Assignment → Prop
  | value _ argument => argument.IsFlat
  | expression _ query => query.IsFlat

/-- A filter brings no other lists than queries in the place of clauses do. -/
theorem isFlat_of_compile {schema : Schema} {mappings : Mappings} {source : String}
    {condition : Query} (flat : mappings.All Mapping.IsFlat)
    (compiled : compile schema mappings source = .ok condition) : condition.IsFlat :=
  forall_arguments_of_compile compiled (fun _ => Argument.IsSingle.isFlat)
    fun _ _ clause _ query raw holds _ => flat _ _ holds query rfl clause.operator raw

namespace Statement

open Piece

/-- The queries that an edit brings into a statement. -/
def Edit.fragments (edit : Edit) : List Query :=
  match edit with
  | verbatim query => [query]
  | join joined => [joined.on]
  | assign assignment => assignment.fragment?.toList
  | _ => edit.condition?.toList

/-- Nothing given to the edit is a list that holds another list, and no query that the mappings of a
filter put in the place of clauses brings one. -/
def Edit.IsFlat : Edit → Prop
  | verbatim query => query.IsFlat
  | join joined => joined.on.IsFlat
  | condition query => query.IsFlat
  | conditionIf _ query => query.IsFlat
  | filter _ mappings _ => mappings.All Mapping.IsFlat
  | assign assignment => assignment.IsFlat
  | _ => True

theorem Edit.IsFlat.of_mem_fragments {edit : Edit} (flat : edit.IsFlat) {query : Query}
    (member : query ∈ edit.fragments) : query.IsFlat := by
  cases edit with
  | verbatim given | join given | condition given =>
    obtain rfl := List.mem_singleton.mp member
    exact flat
  | conditionIf test given =>
    cases test with
    | true =>
      obtain rfl := List.mem_singleton.mp member
      exact flat
    | false => contradiction
  | filter schema mappings source =>
    change query ∈ (filter schema mappings source).condition?.toList at member
    rw [condition?, Option.mem_toList] at member
    cases compiled : compile schema mappings source with
    | error error => simp [compiled] at member
    | ok condition =>
      simp only [compiled, Option.ite_none_left_eq_some] at member
      obtain ⟨_, ⟨⟩⟩ := member
      exact isFlat_of_compile flat compiled
  | assign assignment =>
    cases assignment with
    | value column argument => contradiction
    | expression column given =>
      obtain rfl := List.mem_singleton.mp member
      exact flat
  | restart | table | fields | groupBy | having | orderBy | limit | offset => contradiction

variable {statement : Statement} {command : Command}

/-- The queries of a statement after an edit were there before, or the edit has brought them. -/
theorem mem_fragments_after {edit : Edit} {query : Query}
    (member : query ∈ (statement.after edit).fragments) :
    query ∈ statement.fragments ∨ query ∈ edit.fragments := by
  have condition (added : Query) (member : query ∈ (statement.addCondition added).fragments) :
      query ∈ statement.fragments ∨ query ∈ [added] := by
    simp only [fragments, addCondition, List.mem_append] at member ⊢
    tauto
  cases edit with
  | restart => contradiction
  | verbatim given => exact .inr member
  | join joined =>
    simp only [after, addJoin, fragments, Edit.fragments, List.map_append, List.map_cons,
      List.map_nil, List.mem_append] at member ⊢
    tauto
  | condition given => exact condition given member
  | conditionIf test given =>
    cases test with
    | true => exact condition given member
    | false => exact .inl member
  | filter schema mappings source =>
    rw [after_filter] at member
    change _ ∨ query ∈ (Edit.filter schema mappings source).condition?.toList
    cases added : (Edit.filter schema mappings source).condition? with
    | none =>
      rw [added] at member
      exact .inl member
    | some compiled =>
      rw [added] at member
      exact condition compiled member
  | assign assignment =>
    have single : [assignment].filterMap Assignment.fragment? = assignment.fragment?.toList := by
      cases assignment <;> rfl
    simp only [after, addAssignment, fragments, Edit.fragments, List.filterMap_append, single,
      List.mem_append] at member ⊢
    tauto
  | table | fields | groupBy | having | orderBy | limit | offset => exact .inl member

/-- Every query of a statement has been brought by an edit. -/
theorem exists_mem_fragments_of_ofEdits {edits : List Edit} :
    ∀ query ∈ (ofEdits edits).fragments, ∃ edit ∈ edits, query ∈ edit.fragments := by
  refine ofEdits_induction (fun statement =>
    ∀ query ∈ statement.fragments, ∃ edit ∈ edits, query ∈ edit.fragments) (by simp [fragments, empty]) ?_
  intro statement held edit among query member
  rcases mem_fragments_after member with before | brought
  · exact held query before
  · exact ⟨edit, among, brought⟩

/-- Of all that the statement supplies, only an argument that an update assigns can be a list. -/
theorem Supplies.exists_of_list_mem {piece : Piece} (supplied : statement.Supplies command piece)
    (flat : ∀ query ∈ statement.fragments, query.IsFlat) {items : List Argument}
    (member : .list items ∈ piece.query.arguments) :
    (∃ anyway, command = .update anyway) ∧
      ∃ column, .value column (.list items) ∈ statement.assignments := by
  cases supplied with
  | fragment held => exact absurd rfl ((flat _ held).isSingle_of_mem_expanded member items)
  | @value column argument updates assigned =>
    obtain rfl := List.mem_singleton.mp member
    exact ⟨updates, column, assigned⟩
  | text | closing => contradiction

/-- Verbatim statements are never written. -/
theorem verbatim_eq_none_of_writeRefusal? {anyway : Bool}
    (permitted : statement.writeRefusal? anyway = none) : statement.verbatim = none := by
  unfold writeRefusal? at permitted
  cases verbatim : statement.verbatim with
  | none => rfl
  | some query => simp [verbatim] at permitted

/-- In an update, every single argument that is assigned is a piece. -/
theorem value_mem_pieces (built : statement.verbatim = none) {column : String} {argument : Argument}
    (assigned : .value column argument ∈ statement.assignments) (anyway : Bool) :
    .value argument ∈ statement.pieces (.update anyway) := by
  have among : .value argument ∈
      [.text ","].intercalate (statement.assignments.map Assignment.pieces) :=
    List.mem_intercalate_of_mem (List.mem_map_of_mem assigned) (by simp [Assignment.pieces])
  rw [pieces, built]
  exact List.mem_append_left _ (List.mem_append_left _ (List.mem_cons_of_mem _ among))

/-- If no list is given that holds another one, the lists among the arguments of a command are those
that an update assigns as single arguments, and no others. Without them, and with no placeholder in
a name, expanding the command once more changes nothing. -/
theorem lists_of_build [Text.WordClass] {edits : List Edit} (flat : ∀ edit ∈ edits, edit.IsFlat)
    {query : Query} (succeeds : (ofEdits edits).build command = .ok query) :
    (∀ items, .list items ∈ query.arguments ↔
      (∃ anyway, command = .update anyway) ∧
        ∃ column, .value column (.list items) ∈ (ofEdits edits).assignments) ∧
    ((ofEdits edits).IsUnmarked → query.expand = .ok query.expanded ∧
      ((∀ argument ∈ query.arguments, argument.IsSingle) → query.expand = .ok query)) := by
  obtain ⟨sound, rfl⟩ := build_eq_ok_iff.mp succeeds
  constructor
  · intro items
    rw [arguments_joined, List.mem_flatMap]
    constructor
    · rintro ⟨piece, member, list⟩
      refine (supplies_of_mem_pieces member).exists_of_list_mem (fun query held => ?_) list
      obtain ⟨edit, among, brought⟩ := exists_mem_fragments_of_ofEdits query held
      exact (flat edit among).of_mem_fragments brought
    · rintro ⟨⟨anyway, rfl⟩, column, assigned⟩
      simp only [fault?, refusal?, Option.or_eq_none_iff] at sound
      have built := verbatim_eq_none_of_writeRefusal? sound.1.1
      exact ⟨_, value_mem_pieces built assigned anyway, List.mem_singleton_self _⟩
  · intro unmarked
    have expands : (joined ((ofEdits edits).pieces command)).expand =
        .ok (joined ((ofEdits edits).pieces command)).expanded :=
      Query.expand_eq_ok (isBalanced_of_build unmarked succeeds)
    refine ⟨expands, fun single => ?_⟩
    rw [expands, Query.expanded_eq_self single]

/-- A list of tags is given to a fragment and to a column. -/
def tagEdits : List Edit :=
  [.table "posts", .assign (.value "tags" (.list [.int 7])),
    .assign (.expression "hits" ⟨"hits+?", [.int 1]⟩), .condition ⟨"id IN (?)", [.list [.int 3, .int 4]]⟩]

private theorem isFlat_tagEdits : ∀ edit ∈ tagEdits, edit.IsFlat := by
  simp [tagEdits, Edit.IsFlat, Assignment.IsFlat, Query.IsFlat, Argument.IsFlat, Argument.values,
    Argument.IsSingle]

theorem lists_of_build_tags :
    (∀ edit ∈ tagEdits, edit.IsFlat) ∧ (ofEdits tagEdits).IsUnmarked ∧
      (ofEdits tagEdits).build (.delete false) =
        .ok ⟨"DELETE FROM posts WHERE (id IN (?,?))", [.int 3, .int 4]⟩ ∧
      (∀ argument ∈ [Argument.int 3, .int 4], argument.IsSingle) ∧
      Query.expand ⟨"DELETE FROM posts WHERE (id IN (?,?))", [.int 3, .int 4]⟩ =
        .ok ⟨"DELETE FROM posts WHERE (id IN (?,?))", [.int 3, .int 4]⟩ := by
  have unmarked : (ofEdits tagEdits).IsUnmarked := by constructor <;> decide +kernel
  have built : (ofEdits tagEdits).build (.delete false) =
      .ok ⟨"DELETE FROM posts WHERE (id IN (?,?))", [.int 3, .int 4]⟩ := by decide +kernel
  have single : ∀ argument ∈ [Argument.int 3, .int 4], argument.IsSingle := by
    simp [Argument.IsSingle]
  have lists := lists_of_build isFlat_tagEdits built
  exact ⟨isFlat_tagEdits, unmarked, built, single, (lists.2 unmarked).2 single⟩

/-- A list that is assigned as a single argument is bound to one placeholder, and would be expanded
if the command were a fragment itself. -/
theorem exists_list_of_build :
    (∀ edit ∈ tagEdits, edit.IsFlat) ∧ (ofEdits tagEdits).IsUnmarked ∧
      (ofEdits tagEdits).build (.update false) =
        .ok ⟨"UPDATE posts SET tags=?,hits=hits+? WHERE (id IN (?,?))",
          [.list [.int 7], .int 1, .int 3, .int 4]⟩ ∧
      Query.expand ⟨"UPDATE posts SET tags=?,hits=hits+? WHERE (id IN (?,?))",
          [.list [.int 7], .int 1, .int 3, .int 4]⟩ =
        .ok ⟨"UPDATE posts SET tags=?,hits=hits+? WHERE (id IN (?,?))",
          [.int 7, .int 1, .int 3, .int 4]⟩ :=
  ⟨isFlat_tagEdits, by constructor <;> decide +kernel, by decide +kernel, by decide +kernel⟩

end Statement

end Criteria
