import Criteria.Proofs.Filter.Alignment
import Criteria.Proofs.Formula.Join
import Criteria.Proofs.Query.Balance

/-! # Compiling joined filters

Filters joined by a semicolon compile to the conjunction of what they compile to by themselves. The
first error is that of the first filter that has one.
-/

namespace Criteria

open Text

/-- Both of two compiled filters, of which an empty one leaves nothing behind. -/
def Query.both (first second : Query) : Query where
  text :=
    if first.text = "" then second.text
    else if second.text = "" then first.text
    else first.text ++ " AND " ++ second.text
  arguments := first.arguments ++ second.arguments

theorem Query.join_append_of_ne_nil {separator : String} {front back : List Query}
    (ne_nil : front ≠ []) (otherNe_nil : back ≠ []) :
    join separator (front ++ back) = join separator front ++ ofText separator ++ join separator back := by
  change Query.mk _ _ = Query.mk _ _
  rw [List.map_append, String.intercalate_append_of_ne_nil (by simpa) (by simpa),
    List.flatMap_append]
  simp [join, ofText]

namespace Formula

variable {schema : Schema} {mappings : Mappings}

private theorem filter_eq_nil_iff {groups : List (List Condition)} :
    groups.filter (!·.isEmpty) = [] ↔ (conjunction groups).text = "" := by
  rw [text_conjunction_eq_empty_iff, List.filter_eq_nil_iff, List.flatten_eq_nil_iff]
  simp

private theorem conjunction_eq_of_filter_eq_nil {groups : List (List Condition)}
    (nothing : groups.filter (!·.isEmpty) = []) : conjunction groups = .ofText "" := by
  rw [conjunction, nothing]
  rfl

/-- Groups side by side, of which those without conditions leave nothing behind. -/
theorem conjunction_append (groups others : List (List Condition)) :
    conjunction (groups ++ others) = (conjunction groups).both (conjunction others) := by
  have split : conjunction (groups ++ others) =
      .join " AND " ((groups.filter (!·.isEmpty)).map disjunction ++
        (others.filter (!·.isEmpty)).map disjunction) := by
    rw [conjunction, List.filter_append, List.map_append]
  by_cases nothing : groups.filter (!·.isEmpty) = []
  · rw [split, nothing, conjunction_eq_of_filter_eq_nil nothing]
    rfl
  · by_cases nothingElse : others.filter (!·.isEmpty) = []
    · have written : (conjunction groups).text ≠ "" := nothing ∘ filter_eq_nil_iff.mpr
      rw [split, nothingElse, conjunction_eq_of_filter_eq_nil nothingElse, List.map_nil,
        List.append_nil, ← conjunction, Query.both, if_neg written]
      simp [Query.ofText]
    · rw [split, Query.join_append_of_ne_nil (by simpa using nothing) (by simpa using nothingElse),
        ← conjunction, ← conjunction, Query.both, if_neg (nothing ∘ filter_eq_nil_iff.mpr),
        if_neg (nothingElse ∘ filter_eq_nil_iff.mpr)]
      change Query.mk _ _ = Query.mk _ _
      simp [Query.ofText]

theorem compile_append (groups others : List (List Clause)) :
    compile schema mappings ⟨groups ++ others⟩ = (do
      let query ← compile schema mappings ⟨groups⟩
      let other ← compile schema mappings ⟨others⟩
      return query.both other) := by
  simp only [compile, conditions, List.mapM_append, bind_assoc, pure_bind, conjunction_append]

end Formula

/-- A semicolon between two filters means that both have to hold. It has to end the first one: that
may not end with a backslash, which would escape it, nor have a tab among its last blanks or lack
its last value. The second filter is then read as it is alone, and what the two compile to is joined;
the first error counts. -/
theorem compile_join {first second : String} {formula other : Formula}
    (read : Formula.parse first = .ok formula) (readOther : Formula.parse second = .ok other)
    (backslash : first.toList.getLast? ≠ some '\\')
    (tab : '\t' ∉ first.toList.rtakeWhile isBlank)
    (valued : ∀ clause ∈ formula.groups.flatten.getLast?, clause.value ≠ .raw "") :
    Formula.parse (first ++ ";" ++ second) = .ok ⟨formula.groups ++ other.groups⟩ ∧
      ∀ schema mappings, compile schema mappings (first ++ ";" ++ second) = (do
        let query ← compile schema mappings first
        let rest ← compile schema mappings second
        return query.both rest) := by
  have joined := Formula.parse_join read readOther ⟨backslash, tab⟩ valued
  refine ⟨joined, fun schema mappings => ?_⟩
  simp only [compile, joined, read, readOther, Except.mapError]
  exact Formula.compile_append formula.groups other.groups

/-- The first filter ends with a backslash in its last value, the second begins with a separator. -/
theorem compile_join_posts :
    Formula.parse "sort==1;q=@x\\ " = .ok ⟨[[.ofRaw "sort" .equal "1"], [.ofRaw "q" .includes "x\\"]]⟩ ∧
      Formula.parse ",tag==a;sort==2" =
        .ok ⟨[[.ofRaw "tag" .equal "a"], [.ofRaw "sort" .equal "2"]]⟩ ∧
      "sort==1;q=@x\\ ".toList.getLast? ≠ some '\\' ∧
      '\t' ∉ "sort==1;q=@x\\ ".toList.rtakeWhile isBlank ∧
      compile postSchema postMappings ("sort==1;q=@x\\ " ++ ";" ++ ",tag==a;sort==2") =
        .ok ⟨"(title LIKE ?) AND (id IN (?, ?))", [.text "%x\\%", .text "a", .null]⟩ := by
  have read : Formula.parse "sort==1;q=@x\\ " =
      .ok ⟨[[.ofRaw "sort" .equal "1"], [.ofRaw "q" .includes "x\\"]]⟩ := by decide +kernel
  have readOther : Formula.parse ",tag==a;sort==2" =
      .ok ⟨[[.ofRaw "tag" .equal "a"], [.ofRaw "sort" .equal "2"]]⟩ := by decide +kernel
  have backslash : "sort==1;q=@x\\ ".toList.getLast? ≠ some '\\' := by decide
  have tab : '\t' ∉ "sort==1;q=@x\\ ".toList.rtakeWhile isBlank := by decide
  obtain ⟨_, joined⟩ := compile_join read readOther backslash tab (by decide)
  refine ⟨read, readOther, backslash, tab, (joined postSchema postMappings).trans ?_⟩
  decide +kernel

end Criteria
