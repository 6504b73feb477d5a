import Criteria.Filter
import Mathlib.Data.List.Basic

/-! # The text of joined conditions

Conditions are joined to one text, which groups without conditions do not show in. Its arguments
are those of the conditions in reading order.
-/

namespace Criteria.Formula

/-- The conditions of a group as they are joined, without the parentheses around them. -/
def groupBody (group : List Condition) : String :=
  " OR ".intercalate (group.map (·.query.text))

theorem groupBody_singleton (condition : Condition) :
    groupBody [condition] = condition.query.text := String.intercalate_singleton

theorem groupBody_cons_cons (condition next : Condition) (rest : List Condition) :
    groupBody (condition :: next :: rest) =
      condition.query.text ++ (" OR " ++ groupBody (next :: rest)) := by
  simp only [groupBody, List.map_cons, String.intercalate_cons_cons, String.append_assoc]

theorem text_disjunction (group : List Condition) :
    (disjunction group).text = "(" ++ groupBody group ++ ")" := by
  simp only [disjunction, Query.parenthesized, Query.join, Query.ofText, Query.text_append,
    List.map_map, groupBody, Function.comp_def]

theorem arguments_disjunction (group : List Condition) :
    (disjunction group).arguments = group.flatMap (·.query.arguments) := by
  simp [disjunction, Query.parenthesized, Query.join, Query.ofText, List.flatMap_map]

/-- The groups that are joined have conditions. -/
theorem ne_nil_of_mem_filter (groups : List (List Condition)) :
    ∀ group ∈ groups.filter (!·.isEmpty), group ≠ [] := by
  intro group member
  simpa using (List.mem_filter.mp member).2

/-- A group without conditions leaves nothing behind. -/
theorem conjunction_nil_cons (groups : List (List Condition)) :
    conjunction ([] :: groups) = conjunction groups := rfl

theorem conjunction_filter (groups : List (List Condition)) :
    conjunction (groups.filter (!·.isEmpty)) = conjunction groups := by
  simp [conjunction]

/-- Joining sees nothing of the conditions but their texts. -/
theorem text_conjunction_congr {groups others : List (List Condition)}
    (same : groups.map (·.map (·.query.text)) = others.map (·.map (·.query.text))) :
    (conjunction groups).text = (conjunction others).text := by
  have written (groups : List (List Condition)) : (conjunction groups).text =
      " AND ".intercalate (((groups.map (·.map (·.query.text))).filter (!·.isEmpty)).map
        fun texts => "(" ++ " OR ".intercalate texts ++ ")") := by
    simp [conjunction, Query.join, text_disjunction, groupBody, List.filter_map, Function.comp_def]
  rw [written, written, same]

theorem text_conjunction_singleton {group : List Condition} (ne_nil : group ≠ []) :
    (conjunction [group]).text = "(" ++ groupBody group ++ ")" := by
  rw [← text_disjunction]
  simp [conjunction, Query.join, ne_nil]

theorem text_conjunction_cons_cons {group next : List Condition} {rest : List (List Condition)}
    (ne_nil : group ≠ []) (next_ne_nil : next ≠ []) :
    (conjunction (group :: next :: rest)).text =
      "(" ++ groupBody group ++ ")" ++ (" AND " ++ (conjunction (next :: rest)).text) := by
  rw [← text_disjunction]
  simp [conjunction, Query.join, ne_nil, next_ne_nil, String.intercalate_cons_cons,
    String.append_assoc]

/-- Groups are joined to an empty text exactly if there are no conditions in them. -/
theorem text_conjunction_eq_empty_iff {groups : List (List Condition)} :
    (conjunction groups).text = "" ↔ groups.flatten = [] := by
  rw [← conjunction_filter, ← List.flatten_filter_not_isEmpty]
  have each := ne_nil_of_mem_filter groups
  generalize groups.filter (!·.isEmpty) = kept at each
  cases kept with
  | nil => exact iff_of_true rfl rfl
  | cons group rest =>
    have group_ne_nil := each group (List.mem_cons_self ..)
    apply iff_of_false ?_ (by simp [group_ne_nil])
    intro empty
    have opening : (conjunction (group :: rest)).text.toList.head? = some '(' := by
      cases rest with
      | nil => simp [text_conjunction_singleton group_ne_nil]
      | cons next _ => simp [text_conjunction_cons_cons group_ne_nil (each next (by simp))]
    rw [empty] at opening
    contradiction

/-- The arguments of joined groups are those of all their conditions in order. -/
theorem arguments_conjunction (groups : List (List Condition)) :
    (conjunction groups).arguments = groups.flatten.flatMap (·.query.arguments) := by
  induction groups with
  | nil => rfl
  | cons group rest ih =>
    cases group with
    | nil => rw [conjunction_nil_cons, ih, List.flatten_cons, List.nil_append]
    | cons condition others =>
      have split : (conjunction ((condition :: others) :: rest)).arguments =
          (disjunction (condition :: others)).arguments ++ (conjunction rest).arguments := by
        simp [conjunction, Query.join]
      rw [split, ih, arguments_disjunction, List.flatten_cons, List.flatMap_append]

end Criteria.Formula
