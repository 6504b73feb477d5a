import Criteria.Proofs.Statement.Command
import Criteria.Proofs.Statement.Order
import Mathlib.Computability.Language

/-! # Selections with a sort order

A sort order is checked part by part against a regular expression whose pieces overlap: a column may
end where a direction begins, with nothing between them. `isTerm_iff_mem_pattern` says that it has
the terms for its language all the same. A selection or count with a sort order then succeeds exactly
if all its parts are terms, and is the one without it but for the sort order.
-/

namespace Criteria

namespace Order

open Computability

/-- The texts of a single character of a class. -/
def single (accepted : Char → Bool) : Language Char :=
  {text | ∃ char, accepted char = true ∧ text = [char]}

variable {text : List Char}

theorem mem_single_kstar_iff {accepted : Char → Bool} :
    text ∈ (single accepted)∗ ↔ ∀ char ∈ text, accepted char = true := by
  rw [Language.mem_kstar]
  constructor
  · rintro ⟨parts, rfl, all⟩ char member
    obtain ⟨part, among, inside⟩ := List.mem_flatten.mp member
    obtain ⟨only, holds, rfl⟩ := all part among
    rwa [List.mem_singleton.mp inside]
  · intro all
    refine ⟨text.map ([·]), by simp [← List.flatMap_def], fun part among => ?_⟩
    obtain ⟨char, member, rfl⟩ := List.mem_map.mp among
    exact ⟨char, all char member, rfl⟩

theorem mem_spaces_iff : text ∈ (single (· = ' '))∗ ↔ AreSpaces text := by
  simp [mem_single_kstar_iff, AreSpaces]

variable [Text.WordClass]

/-- The texts of at least one word character. -/
def words : Language Char :=
  single Text.isWord * (single Text.isWord)∗

/-- Any number of spaces, a column with its table and a dot before it or without, any number of
spaces, a direction or none, and any number of spaces. -/
def pattern : Language Char :=
  (single (· = ' '))∗ * ((1 + words * single (· = '.')) * words) * (single (· = ' '))∗ *
    (1 + words) * (single (· = ' '))∗

theorem mem_words_iff : text ∈ words ↔ IsWord text := by
  rw [words, Language.mem_mul]
  constructor
  · rintro ⟨_, ⟨char, first, rfl⟩, rest, others, rfl⟩
    exact ⟨List.cons_ne_nil _ _, List.forall_mem_cons.mpr ⟨first, mem_single_kstar_iff.mp others⟩⟩
  · rintro ⟨ne_nil, all⟩
    cases text with
    | nil => contradiction
    | cons char rest =>
      obtain ⟨first, others⟩ := List.forall_mem_cons.mp all
      exact ⟨[char], ⟨char, first, rfl⟩, rest, mem_single_kstar_iff.mpr others, rfl⟩

theorem mem_one_add_words_iff :
    text ∈ 1 + words ↔ ∀ char ∈ text, Text.isWord char = true := by
  rw [Language.mem_add, Language.mem_one, mem_words_iff]
  constructor
  · rintro (rfl | word)
    · simp
    · exact word.2
  · intro all
    by_cases nothing : text = []
    · exact .inl nothing
    · exact .inr ⟨nothing, all⟩

theorem mem_column_iff :
    text ∈ (1 + words * single (· = '.')) * words ↔ NamesColumn text := by
  rw [Language.mem_mul]
  constructor
  · rintro ⟨front, optional, column, word, rfl⟩
    rw [mem_words_iff] at word
    rcases (Language.mem_add _ _ _).mp optional with absent | present
    · rw [(Language.mem_one _).mp absent]
      exact .plain word
    · obtain ⟨table, tableWord, _, ⟨dot, isDot, rfl⟩, rfl⟩ := Language.mem_mul.mp present
      obtain rfl : dot = '.' := by simpa using isDot
      rw [List.append_assoc]
      exact .qualified (mem_words_iff.mp tableWord) word
  · intro names
    cases names with
    | plain word =>
      exact ⟨[], (Language.mem_add _ _ _).mpr (.inl ((Language.mem_one _).mpr rfl)), text,
        mem_words_iff.mpr word, rfl⟩
    | @qualified table column tableWord columnWord =>
      have prefixed : table ++ ['.'] ∈ words * single (· = '.') :=
        Language.append_mem_mul (mem_words_iff.mpr tableWord) ⟨'.', by simp, rfl⟩
      exact ⟨table ++ ['.'], (Language.mem_add _ _ _).mpr (.inr prefixed), column,
        mem_words_iff.mpr columnWord, by simp⟩

theorem mem_pattern_iff :
    text ∈ pattern ↔ ∃ before column gap direction after,
      AreSpaces before ∧ NamesColumn column ∧ AreSpaces gap ∧
        (∀ char ∈ direction, Text.isWord char = true) ∧ AreSpaces after ∧
        before ++ (column ++ (gap ++ (direction ++ after))) = text := by
  constructor
  · intro matched
    obtain ⟨_, directed, after, spacesAfter, rfl⟩ := Language.mem_mul.mp matched
    obtain ⟨_, gapped, direction, word, rfl⟩ := Language.mem_mul.mp directed
    obtain ⟨_, named, gap, spaces, rfl⟩ := Language.mem_mul.mp gapped
    obtain ⟨before, spacesBefore, column, names, rfl⟩ := Language.mem_mul.mp named
    exact ⟨before, column, gap, direction, after, mem_spaces_iff.mp spacesBefore,
      mem_column_iff.mp names, mem_spaces_iff.mp spaces, mem_one_add_words_iff.mp word,
      mem_spaces_iff.mp spacesAfter, by simp only [List.append_assoc]⟩
  · rintro ⟨before, column, gap, direction, after, spacesBefore, names, spaces, word, spacesAfter,
      rfl⟩
    simp only [← List.append_assoc]
    exact Language.append_mem_mul (Language.append_mem_mul (Language.append_mem_mul
      (Language.append_mem_mul (mem_spaces_iff.mpr spacesBefore) (mem_column_iff.mpr names))
      (mem_spaces_iff.mpr spaces)) (mem_one_add_words_iff.mpr word))
      (mem_spaces_iff.mpr spacesAfter)

/-- The regular expression accepts the terms and nothing else. -/
theorem isTerm_iff_mem_pattern : IsTerm text ↔ text ∈ pattern := by
  rw [mem_pattern_iff]
  constructor
  · intro term
    cases term with
    | @spaced before column _ after spacesBefore names directs spacesAfter =>
      cases directs with
      | missing => exact ⟨before, column, [], [], after, spacesBefore, names, by simp [AreSpaces],
          by simp, spacesAfter, rfl⟩
      | @given gap direction spaces _ word =>
        exact ⟨before, column, gap, direction, after, spacesBefore, names, spaces, word.2,
          spacesAfter, by simp⟩
  · rintro ⟨before, column, gap, direction, after, spacesBefore, names, spaces, word, spacesAfter,
      rfl⟩
    exact .of_parts spacesBefore names spaces word spacesAfter

end Order

namespace Statement

open Piece

variable {statement : Statement} {command : Command}

/-- The statement with neither a sort order nor limits. -/
def unordered (statement : Statement) : Statement :=
  { statement with orderBy := "", limit := 0 }

/-- The statement has a table, and the fragments of a selection are balanced. Only the sort order may
be wrong. -/
structure IsSelectable (statement : Statement) : Prop where
  built : statement.verbatim = none
  table : statement.tables ≠ []
  join : ∀ join ∈ statement.joins, join.on.isBalanced
  condition : ∀ condition ∈ statement.conditions, condition.isBalanced

namespace IsSelectable

theorem unordered (selectable : statement.IsSelectable) : statement.unordered.IsSelectable :=
  ⟨selectable.built, selectable.table, selectable.join, selectable.condition⟩

theorem firstFault?_eq_none (selectable : statement.IsSelectable)
    (reads : command = .select ∨ command = .count) :
    firstFault? (statement.pieces command) = none := by
  have joins : firstFault? statement.tablePieces = none := by
    rw [tablePieces, firstFault?_cons, Piece.fault?, Option.none_or, firstFault?_eq_none_iff]
    intro query member
    obtain ⟨join, among, part⟩ := List.mem_flatMap.mp member
    simp only [Join.pieces, List.mem_cons, reduceCtorEq, Piece.fragment.injEq, List.not_mem_nil,
      false_or, or_false] at part
    exact part ▸ selectable.join join among
  have conditions : firstFault? (conditionPieces " WHERE " statement.conditions) = none := by
    rw [firstFault?_conditionPieces, List.findSome?_eq_none_iff]
    exact fun condition member => if_pos (selectable.condition condition member)
  rw [firstFault?_pieces command selectable.built, conditions, Option.or_none]
  rcases reads with rfl | rfl <;> exact joins

/-- Nothing else can be wrong with a selection or count. -/
theorem fault?_eq [Text.WordClass] (selectable : statement.IsSelectable)
    (reads : command = .select ∨ command = .count) :
    statement.fault? command = statement.orderFault? command := by
  have permitted : statement.refusal? command = none := by
    rcases reads with rfl | rfl <;> simp [refusal?, selectable.table]
  rw [fault?, permitted, selectable.firstFault?_eq_none reads, Option.none_or, Option.none_or]

theorem fault?_ordered [Text.WordClass] (selectable : statement.IsSelectable)
    (ordered : statement.orderBy ≠ "") (reads : command = .select ∨ command = .count) :
    statement.fault? command = (Order.firstInvalid? statement.orderBy).map .invalidOrderBy := by
  rw [selectable.fault?_eq reads]
  rcases reads with rfl | rfl <;> simp [orderFault?, selectable.built, ordered]

/-- Without a sort order, a selection or count always succeeds. -/
theorem build_unordered [Text.WordClass] (selectable : statement.IsSelectable)
    (reads : command = .select ∨ command = .count) :
    statement.unordered.build command = .ok (joined (statement.unordered.pieces command)) := by
  refine build_eq_ok_iff.mpr ⟨?_, rfl⟩
  rw [selectable.unordered.fault?_eq reads]
  rcases reads with rfl | rfl <;> simp [orderFault?, Statement.unordered]

end IsSelectable

/-- The sort order stands at the end of a selection or count, before the limits. -/
theorem closing_ordered (ordered : statement.orderBy ≠ "")
    (reads : command = .select ∨ command = .count) :
    statement.closing command = statement.unordered.closing command ++
      (" ORDER BY " ++ statement.orderBy ++ statement.limitPart) := by
  have sorted : optionalPart "ORDER BY" statement.orderBy = " ORDER BY " ++ statement.orderBy :=
    if_neg ordered
  have closing : statement.closing command = optionalPart "GROUP BY" statement.groupBy ++
      optionalPart "HAVING" statement.having ++ optionalPart "ORDER BY" statement.orderBy ++
        statement.limitPart := by
    rcases reads with rfl | rfl <;> rfl
  have bare : statement.unordered.closing command = optionalPart "GROUP BY" statement.groupBy ++
      optionalPart "HAVING" statement.having ++ "" ++ "" := by
    rcases reads with rfl | rfl <;> rfl
  simp only [closing, bare, sorted, String.append_empty, String.append_assoc]

theorem joined_pieces_ordered (built : statement.verbatim = none) (ordered : statement.orderBy ≠ "")
    (reads : command = .select ∨ command = .count) :
    joined (statement.pieces command) = joined (statement.unordered.pieces command) ++
      .ofText (" ORDER BY " ++ statement.orderBy ++ statement.limitPart) := by
  have opening : statement.unordered.opening command = statement.opening command := by
    rcases reads with rfl | rfl <;> rfl
  have unorderedBuilt : statement.unordered.verbatim = none := built
  rw [joined_pieces command built, joined_pieces command unorderedBuilt, opening,
    closing_ordered ordered reads, ← Query.ofText_append_ofText, ← Query.append_assoc]
  rfl

/-- A selection or count with a sort order is refused at the first part of it that is no term, and
succeeds if there is none. The sort order is then written as it stands; it holds nothing but word
characters, dots, spaces and commas, and none of its parts is empty. -/
theorem build_ordered [Text.WordClass] (selectable : statement.IsSelectable)
    (ordered : statement.orderBy ≠ "") (reads : command = .select ∨ command = .count) :
    ((∃ query, statement.build command = .ok query) ↔
      ∀ term ∈ Order.terms statement.orderBy, Order.IsTerm term) ∧
    (∀ error, statement.build command = .error error ↔
      ∃ front term back, Order.terms statement.orderBy = front ++ term :: back ∧
        (∀ valid ∈ front, Order.IsTerm valid) ∧ ¬Order.IsTerm term ∧
          error = .invalidOrderBy (String.ofList term)) ∧
    ∀ query, statement.build command = .ok query →
      (∃ bare, statement.unordered.build command = .ok bare ∧
        query = bare ++ .ofText (" ORDER BY " ++ statement.orderBy ++ statement.limitPart)) ∧
      (∀ char ∈ statement.orderBy.toList,
        Text.isWord char = true ∨ char = '.' ∨ char = ' ' ∨ char = ',') ∧
      (∀ char ∈ statement.orderBy.toList, char.toNat < 0x80 →
        char.isAlphanum = true ∨ char ∈ ['_', '.', ' ', ',']) ∧
      ∀ term ∈ Order.terms statement.orderBy, term ≠ [] := by
  have fault := selectable.fault?_ordered ordered reads
  have builds : (∃ query, statement.build command = .ok query) ↔
      ∀ term ∈ Order.terms statement.orderBy, Order.IsTerm term := by
    simp only [build_eq_ok_iff, exists_and_left, exists_eq, and_true, fault,
      Option.map_eq_none_iff, Order.firstInvalid?_eq_none_iff]
  refine ⟨builds, fun error => ?_, fun query built => ?_⟩
  · rw [build_eq_error_iff, fault, Option.map_eq_some_iff]
    constructor
    · rintro ⟨part, invalid, rfl⟩
      obtain ⟨front, term, back, divided, valid, stops, rfl⟩ :=
        Order.firstInvalid?_eq_some_iff.mp invalid
      exact ⟨front, term, back, divided, valid, stops, rfl⟩
    · rintro ⟨front, term, back, divided, valid, stops, rfl⟩
      exact ⟨String.ofList term,
        Order.firstInvalid?_eq_some_iff.mpr ⟨front, term, back, divided, valid, stops, rfl⟩, rfl⟩
  · have valid := builds.mp ⟨query, built⟩
    have plain {char : Char} (member : char ∈ statement.orderBy.toList) :
        Text.isWord char = true ∨ char = '.' ∨ char = ' ' ∨ char = ',' :=
      Order.mem_of_firstInvalid? (Order.firstInvalid?_eq_none_iff.mpr valid) member
    obtain ⟨-, rfl⟩ := build_eq_ok_iff.mp built
    refine ⟨⟨_, selectable.build_unordered reads,
      joined_pieces_ordered selectable.built ordered reads⟩, fun char => plain,
      fun char member ascii => ?_, fun term member => (valid term member).ne_nil⟩
    have known := plain member
    rw [Text.isWord_of_ascii ascii] at known
    simpa [or_assoc] using known

/-- Posts that are read much, with their authors. -/
def rankedPosts : Statement where
  tables := ["users"]
  joins := [⟨.inner, "posts", ⟨"posts.author=users.id AND posts.kind IN (?)",
    [.list [.int 1, .int 2]]⟩⟩]
  conditions := [⟨"posts.hits>?", [.int 100]⟩]
  orderBy := " posts.hits desc,title"
  limit := 10

/-- A sort order of two terms is accepted, and a second one is refused for what stands in it besides
a column and a direction. -/
theorem build_ordered_rankedPosts :
    rankedPosts.IsSelectable ∧
    (∃ query, rankedPosts.build .select = .ok query) ∧
    rankedPosts.build .count = .ok
      ⟨"SELECT COUNT(1) FROM users" ++
        " INNER JOIN posts ON posts.author=users.id AND posts.kind IN (?,?)" ++
        " WHERE (posts.hits>?) ORDER BY  posts.hits desc,title LIMIT 10 OFFSET 0",
        [.int 1, .int 2, .int 100]⟩ ∧
    { rankedPosts with orderBy := "title,id; DROP TABLE users" }.build .select =
      .error (.invalidOrderBy "id; DROP TABLE users") := by
  have selectable : rankedPosts.IsSelectable := by
    constructor <;> decide +kernel
  refine ⟨selectable, ?_, by decide +kernel, ?_⟩
  · refine (build_ordered selectable (by decide) (.inl rfl)).1.mpr ?_
    decide +kernel
  · have injected : { rankedPosts with orderBy := "title,id; DROP TABLE users" }.IsSelectable :=
      ⟨selectable.built, selectable.table, selectable.join, selectable.condition⟩
    refine ((build_ordered injected (by decide) (.inl rfl)).2.1 _).mpr
      ⟨["title".toList], "id; DROP TABLE users".toList, [], ?_⟩
    decide +kernel

end Statement

end Criteria
