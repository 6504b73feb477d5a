import Criteria.Query.Literal
import Mathlib.Data.List.Basic

/-! # Balanced queries

A query is balanced if it has as many placeholders as arguments. Queries put together from balanced
ones are balanced, and so are the expansions of balanced queries. Shown with literals, a query is
what its balanced pieces are shown as: no argument gets into a placeholder of another piece.
-/

/-- Texts with nothing between neighbours. -/
theorem String.intercalate_empty (texts : List String) : "".intercalate texts = String.join texts := by
  induction texts with
  | nil => rfl
  | cons text rest ih =>
    cases rest with
    | nil => simp
    | cons next others =>
      rw [String.intercalate_cons_cons, String.append_empty, ih]
      exact String.join_cons.symm

namespace Criteria

/-- Numbers are written in digits, with a sign where they are negative. -/
theorem isDigit_of_mem_toString {number : Int} {char : Char}
    (member : char ∈ (toString number).toList) : char.isDigit = true ∨ char = '-' := by
  have digits {count : Nat} (inside : char ∈ count.repr.toList) : char.isDigit = true := by
    rw [Nat.toList_repr] at inside
    exact Nat.isDigit_of_mem_toDigits (by decide) (by decide) inside
  cases number with
  | ofNat count => exact .inl (digits member)
  | negSucc count =>
    change char ∈ ("-" ++ count.succ.repr).toList at member
    rw [String.toList_append, List.mem_append] at member
    rcases member with sign | inside
    · exact .inr (List.mem_singleton.mp sign)
    · exact .inl (digits inside)

namespace Argument

/-- An argument is expanded to as many placeholders as it has values. -/
theorem placeholders_marks (argument : Argument) :
    Query.placeholders argument.marks.toList = argument.values.length := by
  have counted (count : Nat) : Query.placeholders (Query.marks (count + 1)).toList = count + 1 := by
    induction count with
    | zero => rfl
    | succ count ih =>
      rw [Query.marks] at ih ⊢
      rw [List.replicate_succ, List.replicate_succ, String.intercalate_cons_cons,
        ← List.replicate_succ, String.toList_append, Query.placeholders_append, ih, Nat.add_comm]
      rfl
  cases argument with
  | list items =>
    cases items with
    | nil => rfl
    | cons item rest => exact counted rest.length
  | int _ | float _ | text _ | bytes _ | timestamp _ | null => simp [marks, values, Query.placeholders]

end Argument

namespace Query

/-- Whether every placeholder has an argument and every argument a placeholder. -/
def isBalanced (query : Query) : Bool :=
  placeholders query.text.toList = query.arguments.length

/-- The query with what its arguments are expanded to in the place of its placeholders. -/
def expanded (query : Query) : Query where
  text := String.ofList (fill query.text.toList (query.arguments.map fun argument =>
    argument.marks.toList))
  arguments := query.arguments.flatMap (·.values)

variable {query first second : Query} {queries : List Query}

theorem isBalanced_iff :
    query.isBalanced = true ↔ placeholders query.text.toList = query.arguments.length :=
  decide_eq_true_iff

/-! ### Putting queries together -/

theorem append_assoc (first second third : Query) :
    first ++ second ++ third = first ++ (second ++ third) := by
  change Query.mk _ _ = Query.mk _ _
  simp [String.append_assoc]

theorem ofText_empty_append (query : Query) : ofText "" ++ query = query := by
  change Query.mk _ _ = query
  simp [ofText]

theorem append_ofText_empty (query : Query) : query ++ ofText "" = query := by
  change Query.mk _ _ = query
  simp [ofText]

theorem ofText_append_ofText (first second : String) :
    ofText first ++ ofText second = ofText (first ++ second) := rfl

theorem join_singleton (separator : String) (query : Query) : join separator [query] = query := by
  simp [join]

theorem join_cons_cons (separator : String) (query next : Query) (rest : List Query) :
    join separator (query :: next :: rest) =
      query ++ ofText separator ++ join separator (next :: rest) := by
  change Query.mk _ _ = Query.mk _ _
  simp [join, ofText, String.intercalate_cons_cons]

theorem join_cons (query : Query) (rest : List Query) :
    join "" (query :: rest) = query ++ join "" rest := by
  cases rest with
  | nil => exact (join_singleton _ _).trans (append_ofText_empty query).symm
  | cons next others => rw [join_cons_cons, append_ofText_empty]

theorem join_append (front back : List Query) :
    join "" (front ++ back) = join "" front ++ join "" back := by
  induction front with
  | nil => exact (ofText_empty_append _).symm
  | cons query rest ih => rw [List.cons_append, join_cons, ih, join_cons, append_assoc]

/-! ### Balance -/

theorem isBalanced_ofText {text : String} (unmarked : '?' ∉ text.toList) :
    (ofText text).isBalanced = true :=
  isBalanced_iff.mpr (List.count_eq_zero.mpr unmarked)

theorem isBalanced_append (balanced : first.isBalanced = true)
    (otherBalanced : second.isBalanced = true) : (first ++ second).isBalanced = true := by
  rw [isBalanced_iff] at balanced otherBalanced ⊢
  rw [text_append, arguments_append, String.toList_append, placeholders_append, balanced,
    otherBalanced, List.length_append]

theorem isBalanced_parenthesized (balanced : query.isBalanced = true) :
    query.parenthesized.isBalanced = true :=
  isBalanced_append (isBalanced_append (isBalanced_ofText (by decide)) balanced)
    (isBalanced_ofText (by decide))

theorem isBalanced_join {separator : String} (unmarked : '?' ∉ separator.toList)
    (balanced : ∀ query ∈ queries, query.isBalanced = true) :
    (join separator queries).isBalanced = true := by
  induction queries with
  | nil => rfl
  | cons query rest ih =>
    obtain ⟨head, tail⟩ := List.forall_mem_cons.mp balanced
    cases rest with
    | nil => rwa [join_singleton]
    | cons next others =>
      rw [join_cons_cons]
      exact isBalanced_append (isBalanced_append head (isBalanced_ofText unmarked)) (ih tail)

/-- Pieces put into the placeholders of a text bring their own placeholders with them. -/
theorem placeholders_fill {text : List Char} {pieces : List (List Char)}
    (balanced : placeholders text = pieces.length) :
    placeholders (fill text pieces) = placeholders pieces.flatten := by
  induction text generalizing pieces with
  | nil =>
    obtain rfl : pieces = [] := List.length_eq_zero_iff.mp balanced.symm
    rfl
  | cons char rest ih =>
    by_cases mark : char = '?'
    · subst mark
      cases pieces with
      | nil => simp [placeholders] at balanced
      | cons piece pieces =>
        have counted : placeholders rest = pieces.length := by simpa [placeholders] using balanced
        simp [fill, ih counted]
    · have counted : placeholders rest = pieces.length := by
        simpa [placeholders, mark] using balanced
      rw [← ih counted]
      simp [fill, mark, placeholders]

/-- Expansion keeps a query balanced, whatever lists are in it. -/
theorem isBalanced_expanded (balanced : query.isBalanced = true) :
    query.expanded.isBalanced = true := by
  rw [isBalanced_iff] at balanced ⊢
  have marked : placeholders query.text.toList =
      (query.arguments.map fun argument => argument.marks.toList).length := by simpa using balanced
  rw [expanded, String.toList_ofList, placeholders_fill marked, placeholders, List.count_flatten,
    List.length_flatMap, List.map_map]
  exact congrArg List.sum (List.map_congr_left fun argument _ => argument.placeholders_marks)

/-! ### Literals -/

theorem fill_nil (text : List Char) : fill text [] = text := by
  induction text with
  | nil => rfl
  | cons char rest ih => by_cases mark : char = '?' <;> simp [fill, mark, ih]

variable [TimestampFormat] (dialect : Dialect)

theorem render_ofText (text : String) : (ofText text).render dialect = text := by
  simp [render, ofText, fill_nil]

/-- A single placeholder is shown as its argument. -/
theorem render_placeholder (argument : Argument) :
    (Query.mk "?" [argument]).render dialect = argument.literal dialect := by
  simp [render, fill]

/-- After a balanced query, another one is shown as if it stood alone. -/
theorem render_append (balanced : first.isBalanced = true) (second : Query) :
    (first ++ second).render dialect = first.render dialect ++ second.render dialect := by
  have own : placeholders first.text.toList =
      (first.arguments.map fun argument => (argument.literal dialect).toList).length := by
    simpa using isBalanced_iff.mp balanced
  simp only [render, text_append, arguments_append, String.toList_append, List.map_append,
    fill_append _ _ _ _ own, String.ofList_append]

/-- Joined queries are shown one by one. -/
theorem render_join {separator : String} (unmarked : '?' ∉ separator.toList)
    (balanced : ∀ query ∈ queries, query.isBalanced = true) :
    (join separator queries).render dialect =
      separator.intercalate (queries.map (render dialect)) := by
  induction queries with
  | nil => exact render_ofText dialect ""
  | cons query rest ih =>
    obtain ⟨head, tail⟩ := List.forall_mem_cons.mp balanced
    cases rest with
    | nil => rw [join_singleton, List.map_singleton, String.intercalate_singleton]
    | cons next others =>
      have leading := isBalanced_append head (isBalanced_ofText unmarked)
      rw [join_cons_cons, render_append dialect leading, render_append dialect head, render_ofText,
        ih tail]
      exact String.intercalate_cons_cons.symm

end Query

end Criteria
