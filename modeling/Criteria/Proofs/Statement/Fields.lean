import Criteria.Proofs.Statement.Agreement
import Criteria.Proofs.Statement.Order

/-! # Selected fields

Fields are given in lists, separated by commas, and it does not matter which lists they are given
in: dividing the lists side by side at their commas is the same as dividing each of them. With joins,
every field without a dot is prefixed by the first table. Then every field has a dot, so what is
printed is printed once more as it stands.
-/

namespace List

/-- A separated list is divided between its items and within them. -/
theorem splitOn_intercalate_eq_flatMap {separator : Char} {items : List (List Char)}
    (given : items ≠ []) :
    ([separator].intercalate items).splitOn separator =
      items.flatMap fun item => item.splitOn separator := by
  induction items with
  | nil => contradiction
  | cons item rest ih =>
    cases rest with
    | nil => rw [intercalate_singleton, flatMap_singleton]
    | cons next others =>
      rw [flatMap_cons, ← ih (cons_ne_nil _ _), intercalate_cons_cons, append_assoc,
        singleton_append, splitOn_append_cons_self]

theorem not_mem_of_mem_splitOn {separator : Char} {text part : List Char}
    (member : part ∈ text.splitOn separator) : separator ∉ part := by
  intro inside
  have kept := mem_flatten.mpr ⟨part, member, inside⟩
  rw [flatten_splitOn, mem_filter] at kept
  exact of_decide_eq_true kept.2 rfl

end List

namespace Criteria.Statement

variable {statement : Statement} {table : String} {field : List Char}

/-! ### Single fields -/

/-- How a field is printed: as it stands if it names a table, else with the given one. -/
inductive PrintsField (table : String) : List Char → String → Prop
  | kept {field : List Char} (dotted : '.' ∈ field) : PrintsField table field (String.ofList field)
  | prefixed {field : List Char} (plain : '.' ∉ field) :
      PrintsField table field (table ++ "." ++ String.ofList field)

theorem printsField_qualified (table : String) (field : List Char) :
    PrintsField table field (qualified table field) := by
  unfold qualified
  split_ifs with dotted
  · exact .kept dotted
  · exact .prefixed dotted

namespace PrintsField

variable {printed : String}

theorem dot_mem (prints : PrintsField table field printed) : '.' ∈ printed.toList := by
  cases prints with
  | kept dotted => rwa [String.toList_ofList]
  | prefixed plain =>
    rw [String.toList_append, String.toList_append]
    exact List.mem_append_left _ (List.mem_append_right _ (by decide))

theorem comma_not_mem (prints : PrintsField table field printed) (single : ',' ∉ table.toList)
    (apart : ',' ∉ field) : ',' ∉ printed.toList := by
  cases prints with
  | kept dotted => rwa [String.toList_ofList]
  | prefixed plain =>
    simp only [String.toList_append, String.toList_ofList, List.mem_append, not_or]
    exact ⟨⟨single, by decide⟩, apart⟩

end PrintsField

theorem qualified_of_dot_mem (dotted : '.' ∈ field) (table : String) :
    qualified table field = String.ofList field :=
  if_pos dotted

/-! ### Lists of fields -/

/-- The selected fields, one by one. -/
def selected (statement : Statement) : List (List Char) :=
  (",".intercalate statement.fields).toList.splitOn ','

theorem selected_eq (given : statement.fields ≠ []) :
    statement.selected = statement.fields.flatMap fun list => list.toList.splitOn ',' := by
  have separator : ",".toList = [','] := by decide
  rw [selected, String.toList_intercalate, separator,
    List.splitOn_intercalate_eq_flatMap (by simpa using given), List.flatMap_map]

theorem selected_ne_nil (statement : Statement) : statement.selected ≠ [] :=
  List.splitOn_ne_nil _ _

/-- Two lists side by side have a comma between them, so only a sole star makes a star. -/
theorem intercalate_eq_star_iff {fields : List String} (given : fields ≠ []) :
    ",".intercalate fields = "*" ↔ fields = ["*"] := by
  constructor
  · intro star
    match fields with
    | [] => contradiction
    | [list] => rw [← star, String.intercalate_singleton]
    | list :: next :: others =>
      have comma : ',' ∈ (",".intercalate (list :: next :: others)).toList := by
        rw [String.intercalate_cons_cons, String.toList_append, String.toList_append]
        exact List.mem_append_left _ (List.mem_append_right _ (by decide))
      rw [star] at comma
      exact absurd comma (by decide)
  · rintro rfl
    rfl

/-- Once fields are selected, only the lists side by side count. -/
theorem fieldList_eq (given : statement.fields ≠ []) (first : String) :
    statement.fieldList first =
      if statement.joins = [] ∨ ",".intercalate statement.fields = "*" then
        ",".intercalate statement.fields
      else ",".intercalate (statement.selected.map (qualified first)) := by
  rw [fieldList, if_neg given, selected_eq given]
  simp only [intercalate_eq_star_iff given]

/-- A list in which every field names its table is printed as it stands. -/
theorem fieldList_of_dotted {printed : List String} (given : statement.fields ≠ [])
    (list : ",".intercalate statement.fields = ",".intercalate printed) (some : printed ≠ [])
    (dotted : ∀ field ∈ printed, '.' ∈ field.toList) (apart : ∀ field ∈ printed, ',' ∉ field.toList)
    (first : String) : statement.fieldList first = ",".intercalate printed := by
  have separator : ",".toList = [','] := by decide
  have divided : statement.selected = printed.map String.toList := by
    rw [selected, list, String.toList_intercalate, separator]
    exact List.splitOn_intercalate ',' (List.forall_mem_map.mpr apart) (by simpa using some)
  have unchanged : statement.selected.map (qualified first) = printed := by
    rw [divided, List.map_map]
    refine (List.map_congr_left fun field member => ?_).trans (List.map_id _)
    exact (qualified_of_dot_mem (dotted field member) first).trans String.ofList_toList
  rw [fieldList_eq given, unchanged, list, ite_self]

/-! ### Selections -/

theorem foldl_addFields (lists : List String) (statement : Statement) :
    lists.foldl addFields statement =
      { statement with fields := statement.fields ++ lists } := by
  induction lists generalizing statement with
  | nil => rw [List.foldl_nil, List.append_nil]
  | cons list rest ih => rw [List.foldl_cons, ih, addFields, List.append_assoc, List.singleton_append]

/-- A selection depends on its fields only through the list it prints. -/
theorem select_congr [Text.WordClass] {fields others : List String}
    (same : ∀ first, { statement with fields := fields }.fieldList first =
      { statement with fields := others }.fieldList first) :
    { statement with fields := fields }.build .select =
      { statement with fields := others }.build .select := by
  rw [build, build, select, select, funext same]
  rfl

/-- It does not matter which lists the fields of a selection are given in. With joins, and unless
they are a sole star, the fields are printed one by one in their order, as they stand if they name a
table and else with the first one. Where that has no comma in its name, a selection of what is
printed prints the same. -/
theorem select_fields [Text.WordClass] (statement : Statement) :
    (statement.fields = [] → ∀ lists : List String, lists ≠ [] →
      (lists.foldl addFields statement).build .select =
        (statement.addFields (",".intercalate lists)).build .select) ∧
    (statement.verbatim = none → statement.joins ≠ [] → statement.fields ≠ [] →
      statement.fields ≠ ["*"] →
      ∃ printed : List String,
        List.Forall₂ (PrintsField statement.firstTable) statement.selected printed ∧
        statement.Prints (",".intercalate printed) ∧
        (',' ∉ statement.firstTable.toList → ∀ again : Statement, again.verbatim = none →
          again.fields ≠ [] → ",".intercalate again.fields = ",".intercalate printed →
            again.Prints (",".intercalate printed))) := by
  constructor
  · intro unselected lists given
    rw [foldl_addFields, addFields, unselected, List.nil_append, List.nil_append]
    refine select_congr fun first => ?_
    rw [fieldList_eq given, fieldList_eq (List.cons_ne_nil _ _)]
    simp only [selected, String.intercalate_singleton]
  · intro built joined given chosen
    have each : List.Forall₂ (PrintsField statement.firstTable) statement.selected
        (statement.selected.map (qualified statement.firstTable)) :=
      List.forall₂_map_right_iff.mpr (List.forall₂_same.mpr fun field _ => printsField_qualified _ _)
    refine ⟨_, each, ?_, ?_⟩
    · have starless : ¬(statement.joins = [] ∨ ",".intercalate statement.fields = "*") := by
        rw [intercalate_eq_star_iff given]
        exact not_or.mpr ⟨joined, chosen⟩
      have list := (fieldList_eq given statement.firstTable).trans (if_neg starless)
      exact list ▸ prints_fieldList built
    · intro single again builtAgain givenAgain list
      have prints : ∀ field ∈ statement.selected.map (qualified statement.firstTable),
          '.' ∈ field.toList ∧ ',' ∉ field.toList := by
        intro field member
        obtain ⟨part, among, rfl⟩ := List.mem_map.mp member
        have printed := printsField_qualified statement.firstTable part
        exact ⟨printed.dot_mem, printed.comma_not_mem single (List.not_mem_of_mem_splitOn among)⟩
      have repeated := fieldList_of_dotted givenAgain list (by simpa using statement.selected_ne_nil)
        (fun field member => (prints field member).1) (fun field member => (prints field member).2)
        again.firstTable
      exact repeated ▸ prints_fieldList builtAgain

/-- Authors and their posts, with fields of both. -/
def authorPosts : Statement where
  tables := ["users"]
  joins := [⟨.inner, "posts", ⟨"posts.author=users.id", []⟩⟩]
  fields := [",id,posts.title", "", "name"]

theorem select_fields_authorPosts :
    ([",id,posts.title", "", "name"].foldl addFields { authorPosts with fields := [] }).build .select =
      .ok ⟨"SELECT users.,users.id,posts.title,users.,users.name FROM users" ++
        " INNER JOIN posts ON posts.author=users.id", []⟩ ∧
    authorPosts.verbatim = none ∧ authorPosts.joins ≠ [] ∧ authorPosts.fields ≠ [] ∧
    authorPosts.fields ≠ ["*"] ∧ ',' ∉ authorPosts.firstTable.toList ∧
    ∃ printed : List String,
      List.Forall₂ (PrintsField "users") authorPosts.selected printed ∧
      authorPosts.Prints (",".intercalate printed) ∧
      { authorPosts with fields := [",".intercalate printed] }.Prints (",".intercalate printed) := by
  obtain ⟨divided, -⟩ := select_fields { authorPosts with fields := [] }
  obtain ⟨-, joined⟩ := select_fields authorPosts
  obtain ⟨printed, each, prints, again⟩ := joined rfl (by decide) (by decide) (by decide)
  refine ⟨?_, rfl, by decide, by decide, by decide, by decide, printed, each, prints, ?_⟩
  · rw [divided rfl _ (by decide)]
    decide +kernel
  · exact again (by decide) _ rfl (by simp) (String.intercalate_singleton ..)

end Criteria.Statement
