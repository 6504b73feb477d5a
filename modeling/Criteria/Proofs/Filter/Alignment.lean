import Criteria.Proofs.Filter.Conditions
import Criteria.Proofs.Filter.Text
import Criteria.Proofs.Formula.Canonical
import Criteria.Proofs.Query.Balance

/-! # Placeholders and arguments of a compiled filter

The text of a compiled filter can be divided at the boundaries of its conditions, and at each of
them as many placeholders have been written as arguments have been given. No placeholder comes from
the filter text: its names cannot contain a question mark, and its values never become text.
-/

namespace Criteria

open Query

/-- The mapping neither moves a clause to a column with a placeholder in its name, nor puts a query
in its place that has another number of arguments than of placeholders. -/
structure Mapping.IsAligned (mapping : Mapping) : Prop where
  column : ∀ raw column, mapping.column? raw = some column → '?' ∉ column.toList
  override : ∀ query, mapping = .override query → ∀ operator raw, (query operator raw).isBalanced

/-- The name of the clause holds no placeholder, and a query in its place is balanced. -/
structure Clause.IsAligned (clause : Clause) : Prop where
  name : '?' ∉ clause.name.toList
  override : ∀ query ∈ clause.override, query.isBalanced

/-! ### Clauses -/

/-- No clause of a filter text has a placeholder in its name. -/
theorem Formula.IsCanonical.clause_isAligned {formula : Formula} (canonical : formula.IsCanonical)
    {clause : Clause} (member : clause ∈ formula.groups.flatten) : clause.IsAligned := by
  obtain ⟨name, operator, raw, rfl, nameCanonical, _⟩ := canonical.legible.clause member
  refine ⟨fun mark => ?_, fun query present => by cases present⟩
  rcases nameCanonical.chars '?' mark with ident | backslash | separator
  · exact absurd ident (by decide)
  · exact absurd backslash (by decide)
  · exact absurd separator (by decide)

theorem Mappings.Keeps.isAligned {mappings : Mappings} {clause kept : Clause}
    (keeps : mappings.Keeps clause kept) (mappingsAligned : mappings.All Mapping.IsAligned)
    (clauseAligned : clause.IsAligned) : kept.IsAligned := by
  cases keeps with
  | untouched => exact clauseAligned
  | @typed mapping raw value holds _ _ _ =>
    have column := (mappingsAligned _ _ holds).column raw
    cases moved : mapping.column? raw with
    | none => exact ⟨clauseAligned.name, clauseAligned.override⟩
    | some name => exact ⟨column name moved, clauseAligned.override⟩
  | overridden holds _ =>
    refine ⟨clauseAligned.name, ?_⟩
    rintro _ ⟨⟩
    exact (mappingsAligned _ _ holds).override _ rfl _ _

/-- A comparison is written with one placeholder unless its column has more. -/
theorem Condition.isBalanced_compare {column : String} (comparator : Comparator)
    (argument : Argument) (unmarked : '?' ∉ column.toList) :
    (Condition.compare column comparator argument).query.isBalanced := by
  have columnMarks : placeholders column.toList = 0 := List.count_eq_zero.mpr unmarked
  have comparatorMarks : placeholders comparator.text.toList = 0 := by cases comparator <;> rfl
  simp only [Condition.query, isBalanced, String.toList_append, placeholders_append, columnMarks,
    comparatorMarks]
  rfl

theorem Clause.IsAligned.condition {schema : Schema} {clause : Clause} {condition : Condition}
    (aligned : clause.IsAligned) (conditioned : clause.condition schema = .ok condition) :
    condition.query.isBalanced := by
  rcases Clause.condition_eq_ok_iff.mp conditioned with ⟨query, present, rfl⟩ | ⟨_, _, _, _, _, _, _, rfl⟩
  · exact aligned.override query present
  · exact Condition.isBalanced_compare _ _ aligned.name

/-- Aligned clauses add balanced conditions. -/
theorem Formula.isBalanced_of_adds {schema : Schema} {mappings : Mappings} {clauses : List Clause}
    {conditions : List Condition} (mappingsAligned : mappings.All Mapping.IsAligned)
    (clausesAligned : ∀ clause ∈ clauses, clause.IsAligned)
    (added : List.Forall₂ (Clause.Adds schema mappings) clauses conditions) :
    ∀ condition ∈ conditions, condition.query.isBalanced := by
  induction added with
  | nil => simp
  | @cons clause condition _ _ adds _ ih =>
    rw [List.forall_mem_cons] at clausesAligned ⊢
    obtain ⟨kept, applied, conditioned⟩ := Clause.mappedCondition?_eq_ok_some_iff.mp adds
    have keptAligned : kept.IsAligned :=
      (Mappings.keeps_of_apply applied).isAligned mappingsAligned clausesAligned.1
    exact ⟨keptAligned.condition conditioned, ih clausesAligned.2⟩

/-! ### Boundaries -/

namespace Query

/-- Each condition with what is written before it. -/
def pieces (before : List String) (conditions : List Condition) : List (List Char) :=
  List.zipWith (fun glue condition => glue.toList ++ condition.query.text.toList) before conditions

/-- A query divided at the boundaries of its conditions: what is written before each of them, and
what is written after the last one. -/
structure Division (query : Query) (conditions : List Condition) where
  before : List String
  after : String
  length_before : before.length = conditions.length
  before_mem : ∀ glue ∈ before, glue ∈ ["(", " OR ", ") AND ("]
  after_mem : after ∈ ["", ")"]
  toList_text : query.text.toList = (pieces before conditions).flatten ++ after.toList

/-- The text up to the end of the first conditions. -/
def Division.head {query : Query} {conditions : List Condition} (division : query.Division conditions)
    (count : Nat) : List Char :=
  ((pieces division.before conditions).take count).flatten

end Query

namespace Formula

/-- An opening and the conditions of a group after it. -/
private theorem exists_before_of_group {group : List Condition} (ne_nil : group ≠ [])
    {opening : String} (glue : opening ∈ ["(", " OR ", ") AND ("]) :
    ∃ before : List String, before.length = group.length ∧
      (∀ glue ∈ before, glue ∈ ["(", " OR ", ") AND ("]) ∧
      opening.toList ++ (groupBody group).toList = (Query.pieces before group).flatten := by
  induction group generalizing opening with
  | nil => exact absurd rfl ne_nil
  | cons condition rest ih =>
    cases rest with
    | nil =>
      refine ⟨[opening], rfl, by simpa using glue, ?_⟩
      simp [groupBody_singleton, Query.pieces]
    | cons next others =>
      have orGlue : " OR " ∈ ["(", " OR ", ") AND ("] := by simp
      obtain ⟨before, length, glues, written⟩ := ih (List.cons_ne_nil _ _) orGlue
      refine ⟨opening :: before, by simp [length], List.forall_mem_cons.mpr ⟨glue, glues⟩, ?_⟩
      simp only [Query.pieces] at written ⊢
      simp [groupBody_cons_cons, ← written]

/-- All groups, after what is written before the parenthesis of the first. -/
private theorem exists_before_of_groups {groups : List (List Condition)} (ne_nil : groups ≠ [])
    (each : ∀ group ∈ groups, group ≠ []) {lead : String}
    (glue : lead ++ "(" ∈ ["(", " OR ", ") AND ("]) :
    ∃ before : List String, before.length = groups.flatten.length ∧
      (∀ glue ∈ before, glue ∈ ["(", " OR ", ") AND ("]) ∧
      lead.toList ++ (conjunction groups).text.toList =
        (Query.pieces before groups.flatten).flatten ++ [')'] := by
  induction groups generalizing lead with
  | nil => exact absurd rfl ne_nil
  | cons group rest ih =>
    have group_ne_nil := each group (List.mem_cons_self ..)
    obtain ⟨before, length, glues, written⟩ := exists_before_of_group group_ne_nil glue
    cases rest with
    | nil =>
      refine ⟨before, by simpa using length, glues, ?_⟩
      rw [List.flatten_singleton, ← written, text_conjunction_singleton group_ne_nil]
      simp
    | cons next others =>
      have andGlue : ") AND " ++ "(" ∈ ["(", " OR ", ") AND ("] := by decide
      obtain ⟨after, lengthAfter, gluesAfter, writtenAfter⟩ := ih (List.cons_ne_nil _ _)
        (fun other member => each other (List.mem_cons_of_mem _ member)) andGlue
      refine ⟨before ++ after, ?_, ?_, ?_⟩
      · simp [length, lengthAfter]
      · exact List.forall_mem_append.mpr ⟨glues, gluesAfter⟩
      · have split : Query.pieces (before ++ after) (group ++ (next :: others).flatten) =
            Query.pieces before group ++ Query.pieces after (next :: others).flatten :=
          List.zipWith_append length
        rw [List.flatten_cons, split, List.flatten_append, List.append_assoc, ← writtenAfter,
          ← written, text_conjunction_cons_cons group_ne_nil (each next (by simp))]
        simp

/-- Joined conditions can be divided again. -/
theorem exists_division (groups : List (List Condition)) :
    Nonempty ((conjunction groups).Division groups.flatten) := by
  have same : (groups.filter (!·.isEmpty)).flatten = groups.flatten :=
    List.flatten_filter_not_isEmpty
  rw [← same, ← conjunction_filter]
  have each := ne_nil_of_mem_filter groups
  generalize groups.filter (!·.isEmpty) = kept at each
  by_cases ne_nil : kept = []
  · subst ne_nil
    exact ⟨⟨[], "", rfl, by simp, by simp, rfl⟩⟩
  · obtain ⟨before, length, glues, written⟩ :=
      exists_before_of_groups ne_nil each (show "" ++ "(" ∈ _ by decide)
    exact ⟨⟨before, ")", length, glues, by simp, written⟩⟩

end Formula

/-! ### Counting -/

namespace Query

/-- Nothing written between conditions is a placeholder. -/
private theorem placeholders_glue {glue : String} (member : glue ∈ ["(", " OR ", ") AND ("]) :
    placeholders glue.toList = 0 := by
  simp only [List.mem_cons, List.not_mem_nil, or_false] at member
  rcases member with rfl | rfl | rfl <;> rfl

/-- The text of balanced conditions has as many placeholders as they have arguments. -/
theorem placeholders_flatMap {conditions : List Condition}
    (balanced : ∀ condition ∈ conditions, condition.query.isBalanced) :
    placeholders (conditions.flatMap (·.query.text.toList)) =
      (conditions.flatMap (·.query.arguments)).length := by
  induction conditions with
  | nil => rfl
  | cons condition rest ih =>
    obtain ⟨head, tail⟩ := List.forall_mem_cons.mp balanced
    rw [List.flatMap_cons, List.flatMap_cons, placeholders_append, List.length_append, ih tail,
      of_decide_eq_true head]

/-- What is written between conditions adds no placeholders. -/
theorem placeholders_pieces {before : List String} {conditions : List Condition}
    (length : before.length = conditions.length)
    (glues : ∀ glue ∈ before, glue ∈ ["(", " OR ", ") AND ("]) (count : Nat) :
    placeholders ((pieces before conditions).take count).flatten =
      placeholders ((conditions.take count).flatMap (·.query.text.toList)) := by
  induction conditions generalizing before count with
  | nil => simp [pieces]
  | cons condition rest ih =>
    cases before with
    | nil => contradiction
    | cons glue before =>
      cases count with
      | zero => rfl
      | succ count =>
        obtain ⟨head, tail⟩ := List.forall_mem_cons.mp glues
        have shorter := ih (Nat.succ.inj length) tail count
        simp only [pieces] at shorter ⊢
        simp only [List.zipWith_cons_cons, List.take_succ_cons, List.flatten_cons, List.flatMap_cons,
          placeholders_append, shorter, placeholders_glue head, Nat.zero_add]

end Query

namespace Query.Division

variable {query : Query} {conditions : List Condition}

/-- At each boundary of balanced conditions there are as many placeholders before it as there are
arguments of the conditions before it. -/
theorem placeholders_head (division : query.Division conditions)
    (balanced : ∀ condition ∈ conditions, condition.query.isBalanced) (count : Nat) :
    placeholders (division.head count) =
      ((conditions.take count).flatMap (·.query.arguments)).length := by
  rw [head, placeholders_pieces division.length_before division.before_mem]
  apply placeholders_flatMap
  intro condition member
  exact balanced condition (List.mem_of_mem_take member)

/-- The last boundary is as good as the end of the text. -/
theorem placeholders_text (division : query.Division conditions) :
    placeholders query.text.toList = placeholders (division.head conditions.length) := by
  have closing : placeholders division.after.toList = 0 := by
    have member := division.after_mem
    simp only [List.mem_cons, List.not_mem_nil, or_false] at member
    rcases member with same | same <;> rw [same] <;> rfl
  have whole : (pieces division.before conditions).take conditions.length =
      pieces division.before conditions :=
    List.take_of_length_le (by rw [pieces, List.length_zipWith]; exact Nat.min_le_right ..)
  rw [division.toList_text, placeholders_append, closing, head, whole, Nat.add_zero]

end Query.Division

/-- A filter compiles to a query that can be divided at the boundaries of the conditions of its kept
clauses. The arguments are those of the conditions in order, and at each boundary there are as many
placeholders before it as there are arguments of the conditions before it. -/
theorem compile_aligned {schema : Schema} {mappings : Mappings} {source : String} {query : Query}
    (aligned : mappings.All Mapping.IsAligned) (compiled : compile schema mappings source = .ok query) :
    ∃ formula conditions, Formula.parse source = .ok formula ∧
      List.Forall₂ (Clause.Adds schema mappings) (mappings.kept formula.groups.flatten) conditions ∧
      query.arguments = conditions.flatMap (·.query.arguments) ∧
      (∃ division : query.Division conditions, ∀ count,
        placeholders (division.head count) =
          ((conditions.take count).flatMap (·.query.arguments)).length) ∧
      (∀ count, placeholders ((conditions.take count).flatMap (·.query.text.toList)) =
        ((conditions.take count).flatMap (·.query.arguments)).length) ∧
      query.isBalanced := by
  obtain ⟨formula, read, compiledFormula⟩ := compile_eq_ok_iff.mp compiled
  obtain ⟨groups, succeeds, rfl⟩ := Formula.compile_eq_ok_iff.mp compiledFormula
  have added := Formula.forall₂_kept_flatten_of_conditions succeeds
  have canonical := Formula.isCanonical_of_parse read
  have balanced : ∀ condition ∈ groups.flatten, condition.query.isBalanced := by
    apply Formula.isBalanced_of_adds aligned ?_ added
    intro clause kept
    exact canonical.clause_isAligned (Mappings.mem_kept_iff.mp kept).1
  obtain ⟨division⟩ := Formula.exists_division groups
  have arguments := Formula.arguments_conjunction groups
  refine ⟨formula, groups.flatten, read, added, arguments, ⟨division, ?_⟩, ?_, ?_⟩
  · exact division.placeholders_head balanced
  · intro count
    apply placeholders_flatMap
    intro condition member
    exact balanced condition (List.mem_of_mem_take member)
  · refine decide_eq_true ?_
    rw [division.placeholders_text, division.placeholders_head balanced, List.take_length, arguments]

/-- The columns of a table of posts. -/
def postSchema : Schema := fun name =>
  if name = "age" then some .number else if name = "title" then some .text else none

/-- A search moves to another column, a tag is looked up in another table, and a sort order is no
condition. -/
def postMappings : Mappings :=
  ((Mappings.empty.insert "q" (.known (.namedText fun raw => ("title", raw)))).insert "tag"
    (.known (.override fun _ raw => ⟨"id IN (?, ?)", [.text raw, .null]⟩))).insert "sort"
    (.known .skip)

theorem compile_aligned_posts :
    postMappings.All Mapping.IsAligned ∧
      compile postSchema postMappings "q=@x\\,,sort==1;tag==a;sort==2;age>1" =
        .ok ⟨"(title LIKE ?) AND (id IN (?, ?)) AND (age > ?)",
          [.text "%x,%", .text "a", .null, .int 1]⟩ ∧
      Query.isBalanced ⟨"(title LIKE ?) AND (id IN (?, ?)) AND (age > ?)",
        [.text "%x,%", .text "a", .null, .int 1]⟩ := by
  have moves : (Mapping.namedText fun raw => ("title", raw)).IsAligned := by
    refine ⟨?_, by rintro _ ⟨⟩⟩
    intro raw column moved
    obtain rfl : "title" = column := Option.some.inj moved
    decide
  have replaces : (Mapping.override fun _ raw => ⟨"id IN (?, ?)", [.text raw, .null]⟩).IsAligned := by
    refine ⟨by rintro _ _ ⟨⟩, ?_⟩
    rintro _ ⟨⟩ operator raw
    have marks : placeholders "id IN (?, ?)".toList = 2 := by decide
    exact decide_eq_true marks
  have drops : Mapping.skip.IsAligned := ⟨by rintro _ _ ⟨⟩, by rintro _ ⟨⟩⟩
  have aligned : postMappings.All Mapping.IsAligned :=
    (((Mappings.all_empty _).insert moves "q").insert replaces "tag").insert drops "sort"
  have compiled : compile postSchema postMappings "q=@x\\,,sort==1;tag==a;sort==2;age>1" =
      .ok ⟨"(title LIKE ?) AND (id IN (?, ?)) AND (age > ?)",
        [.text "%x,%", .text "a", .null, .int 1]⟩ := by decide +kernel
  obtain ⟨_, _, _, _, _, _, _, balanced⟩ := compile_aligned aligned compiled
  exact ⟨aligned, compiled, balanced⟩

end Criteria
