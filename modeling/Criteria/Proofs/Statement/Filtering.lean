import Criteria.Proofs.Filter.Expansion
import Criteria.Proofs.Statement.Alignment

/-! # Statements with filters

One more condition that is balanced keeps a statement safe, and shows in its commands as one more
pair of parentheses. What a filter text compiles to is such a condition, whatever the text is.
-/

namespace Criteria.Statement

open Piece

variable {statement : Statement} {condition : Query}

/-- What stands before a further condition of a command. -/
def front (statement : Statement) (command : Command) : Query :=
  joined (statement.opening command ++ conditionPieces " WHERE " statement.conditions)

/-- What stands between the conditions of a statement and a further one. -/
def connective (statement : Statement) : String :=
  if statement.conditions = [] then " WHERE " else " AND "

/-! ### One more condition -/

theorem conditionPieces_concat (keyword : String) (conditions : List Query) (condition : Query) :
    conditionPieces keyword (conditions ++ [condition]) =
      conditionPieces keyword conditions ++
        [.text ((if conditions = [] then keyword else " AND ") ++ "("), .fragment condition,
          .text ")"] := by
  induction conditions generalizing keyword with
  | nil => rfl
  | cons first rest ih =>
    rw [List.cons_append, conditionPieces, ih, conditionPieces, if_neg (List.cons_ne_nil _ _)]
    simp

/-- Permission to touch every row changes nothing in a command. -/
theorem pieces_forced (statement : Statement) (command : Command) :
    statement.pieces command.forced = statement.pieces command := by
  cases command <;> rfl

/-- A further condition stands after the others. -/
theorem pieces_addCondition (command : Command) (built : statement.verbatim = none) :
    (statement.addCondition condition).pieces command =
      statement.opening command ++ conditionPieces " WHERE " statement.conditions ++
        [.text (statement.connective ++ "("), .fragment condition, .text ")"] ++
          [.text (statement.closing command)] := by
  have opening : (statement.addCondition condition).opening command = statement.opening command := by
    cases command <;> rfl
  have closing : (statement.addCondition condition).closing command = statement.closing command := by
    cases command <;> rfl
  have verbatim : (statement.addCondition condition).verbatim = none := built
  have conditions : (statement.addCondition condition).conditions =
      statement.conditions ++ [condition] := rfl
  rw [pieces, verbatim, opening, closing, conditions, conditionPieces_concat]
  simp only [connective, List.append_assoc]

/-- A balanced condition brings no fault with it. -/
theorem firstFault?_pieces_addCondition (balanced : condition.isBalanced) (command : Command) :
    firstFault? ((statement.addCondition condition).pieces command) =
      firstFault? (statement.pieces command.forced) := by
  rw [pieces_forced]
  cases verbatim : statement.verbatim with
  | some query =>
    have same : (statement.addCondition condition).verbatim = some query := verbatim
    rw [pieces, pieces, same, verbatim]
  | none =>
    have added : firstFault? [.text (statement.connective ++ "("), .fragment condition, .text ")"] =
        none := by
      simp [firstFault?, Piece.fault?, Query.fault?, balanced]
    rw [pieces_addCondition _ verbatim, pieces, verbatim, firstFault?_append, firstFault?_append,
      firstFault?_append, added, Option.or_none, firstFault?_append, firstFault?_append]

/-- With a further condition, nothing is refused that would be permitted anyway. -/
theorem refusal?_forced {command : Command}
    (permitted : (statement.addCondition condition).refusal? command = none) :
    statement.refusal? command.forced = none := by
  have write {anyway : Bool}
      (permitted : (statement.addCondition condition).writeRefusal? anyway = none) :
      statement.writeRefusal? true = none := by
    simp only [writeRefusal?, addCondition] at permitted ⊢
    split_ifs at permitted ⊢ with verbatim tables <;> simp_all
  cases command with
  | select | count => exact permitted
  | update anyway =>
    simp only [refusal?, Command.forced, Option.or_eq_none_iff] at permitted ⊢
    exact ⟨write permitted.1, permitted.2⟩
  | delete anyway => exact write permitted

/-- A further condition that is balanced keeps a statement safe. -/
theorem IsSafe.addCondition [Text.WordClass] (safe : statement.IsSafe)
    (balanced : condition.isBalanced) :
    (statement.addCondition condition).IsSafe := by
  intro command counts built
  obtain ⟨permitted, faulty⟩ := exists_build_eq_mismatch_iff.mp ⟨counts, built⟩
  rw [firstFault?_pieces_addCondition balanced] at faulty
  obtain ⟨others, fails⟩ := exists_build_eq_mismatch_iff.mpr ⟨refusal?_forced permitted, faulty⟩
  exact safe _ others fails

/-- In a command, a further condition stands in parentheses after the others, and everything else is
as it would be without it. -/
theorem build_addCondition [Text.WordClass] {command : Command} {query : Query}
    (balanced : condition.isBalanced) (built : statement.verbatim = none)
    (succeeds : (statement.addCondition condition).build command = .ok query) :
    statement.build command.forced =
        .ok (statement.front command ++ .ofText (statement.closing command)) ∧
      query = statement.front command ++ .ofText statement.connective ++
        condition.expanded.parenthesized ++ .ofText (statement.closing command) := by
  obtain ⟨sound, rfl⟩ := build_eq_ok_iff.mp succeeds
  simp only [fault?, Option.or_eq_none_iff] at sound
  obtain ⟨permitted, fragments, order⟩ := sound
  constructor
  · have orderForced : statement.orderFault? command.forced = none := by
      cases command with
      | select | count => exact order
      | update _ | delete _ => rfl
    rw [firstFault?_pieces_addCondition balanced] at fragments
    rw [build_eq_ok_iff, fault?, refusal?_forced permitted, fragments, orderForced, pieces_forced,
      pieces, built]
    refine ⟨rfl, ?_⟩
    simp only [joined_append, joined_singleton, front]
    rfl
  · rw [pieces_addCondition _ built, joined_append, joined_append, joined_singleton, joined_cons,
      joined_cons, joined_singleton]
    simp only [front, query, Query.parenthesized, Query.append_assoc, ← Query.ofText_append_ofText]

/-! ### Filters -/

variable {schema : Schema} {mappings : Mappings} {source : String}

theorem addFilter_of_error {error : Error} (fails : compile schema mappings source = .error error) :
    statement.addFilter schema mappings source = .error (.filter error) := by
  rw [addFilter, fails]
  rfl

theorem addFilter_of_ok (compiled : compile schema mappings source = .ok condition) :
    statement.addFilter schema mappings source =
      .ok (if condition.text = "" then statement else statement.addCondition condition) := by
  rw [addFilter, compiled]
  by_cases empty : condition.text = ""
  · simp [empty, addConditionIf, Except.mapError, bind, Except.bind, pure, Except.pure]
  · simp [empty, addConditionIf, Except.mapError, bind, Except.bind, pure, Except.pure]

/-- No filter text makes a safe statement unsafe. Either the filter does not compile, and its error
is reported; or it compiles to nothing, and the statement stays as it is; or the statement gets one
more condition, which shows in its commands as the expanded filter in parentheses and nothing else.
Expansion changes the filter only if a query in the place of a clause has brought a list. -/
theorem addFilter_safe [Text.WordClass] (aligned : mappings.All Mapping.IsAligned)
    (safe : statement.IsSafe) (schema : Schema) (source : String) :
    (∃ error, compile schema mappings source = .error error ∧
      statement.addFilter schema mappings source = .error (.filter error)) ∨
    ∃ condition expanded filtered, compile schema mappings source = .ok condition ∧
      condition.expand = .ok expanded ∧
      ((∀ formula, Formula.parse source = .ok formula →
        ∀ clause ∈ formula.groups.flatten, mappings.AddsNoList clause) → expanded = condition) ∧
      statement.addFilter schema mappings source = .ok filtered ∧ filtered.IsSafe ∧
      (condition.text = "" → condition.arguments = [] ∧ filtered = statement) ∧
      (condition.text ≠ "" → filtered = statement.addCondition condition ∧
        (statement.verbatim = none → ∀ command query, filtered.build command = .ok query →
          statement.build command.forced =
              .ok (statement.front command ++ .ofText (statement.closing command)) ∧
            query = statement.front command ++ .ofText statement.connective ++
              expanded.parenthesized ++ .ofText (statement.closing command))) := by
  cases compiled : compile schema mappings source with
  | error error => exact .inl ⟨error, rfl, addFilter_of_error compiled⟩
  | ok condition =>
    obtain ⟨balanced, empties, unlisted⟩ := expansion_of_compile aligned compiled
    have expands : condition.expand = .ok condition.expanded := Query.expand_eq_ok balanced
    have added : statement.addFilter schema mappings source = _ := addFilter_of_ok compiled
    right
    by_cases empty : condition.text = ""
    · rw [if_pos empty] at added
      refine ⟨condition, condition.expanded, statement, rfl, expands, unlisted, added, safe, ?_, ?_⟩
      · exact fun _ => ⟨empties empty, rfl⟩
      · exact fun written => absurd empty written
    · rw [if_neg empty] at added
      refine ⟨condition, condition.expanded, statement.addCondition condition, rfl, expands,
        unlisted, added, safe.addCondition balanced, ?_, ?_⟩
      · exact fun nothing => absurd nothing empty
      · exact fun _ => ⟨rfl, fun built _ _ => build_addCondition balanced built⟩

/-- A tag is looked up among several at once. -/
def tagMappings : Mappings :=
  Mappings.empty.insert "tag"
    (.known (.override fun _ raw => ⟨"id IN (?)", [.list [.text raw, .null]]⟩))

theorem addFilter_safe_postDigest :
    tagMappings.All Mapping.IsAligned ∧ postDigest.IsSafe ∧
      compile postSchema tagMappings "tag==a;age>1" =
        .ok ⟨"(id IN (?)) AND (age > ?)", [.list [.text "a", .null], .int 1]⟩ ∧
      ∃ filtered, postDigest.addFilter postSchema tagMappings "tag==a;age>1" = .ok filtered ∧
        filtered.IsSafe ∧
        filtered.build (.delete false) = .ok
          ⟨"DELETE FROM users WHERE (users.id IN (NULL)) AND (users.name=?)" ++
            " AND ((id IN (?,?)) AND (age > ?)) LIMIT 10 OFFSET 0",
            [.text "who?", .text "a", .null, .int 1]⟩ := by
  have replaces : (Mapping.override fun _ raw => ⟨"id IN (?)", [.list [.text raw, .null]]⟩).IsAligned := by
    refine ⟨by rintro _ _ ⟨⟩, ?_⟩
    rintro _ ⟨⟩ operator raw
    have marks : Query.placeholders "id IN (?)".toList = 1 := by decide
    exact decide_eq_true marks
  have aligned : tagMappings.All Mapping.IsAligned := (Mappings.all_empty _).insert replaces "tag"
  have digest : postDigest.IsAligned := by constructor <;> decide +kernel
  have compiled : compile postSchema tagMappings "tag==a;age>1" =
      .ok ⟨"(id IN (?)) AND (age > ?)", [.list [.text "a", .null], .int 1]⟩ := by decide +kernel
  rcases addFilter_safe aligned digest.isSafe postSchema "tag==a;age>1" with
    ⟨_, fails, _⟩ | ⟨condition, _, filtered, succeeds, _, _, added, safe, _, appended⟩
  · cases compiled.symm.trans fails
  · cases compiled.symm.trans succeeds
    obtain ⟨rfl, _⟩ := appended (by decide)
    exact ⟨aligned, digest.isSafe, compiled, _, added, safe, by decide +kernel⟩

end Criteria.Statement
