import Criteria.Proofs.Filter.Conditions
import Criteria.Proofs.Filter.Text
import Criteria.Proofs.Query.Grammar

/-! # Reading compiled filters back

The text of a compiled filter says what the filter says: read by the grammar, it gives back the
columns and comparators of the kept clauses in their groups. Groups that are dropped as a whole are
left out, and a text is empty only if nothing is kept.
-/

namespace Criteria

variable {schema : Schema} {mappings : Mappings}

/-- The column that a clause is mapped to, if it is kept. -/
def Clause.column? (mappings : Mappings) (clause : Clause) : Option String :=
  match mappings.apply clause with
  | .ok (.keep kept) => some kept.name
  | _ => none

/-- How a clause is compared: its column, and what its operator becomes on a column of that kind. -/
def Clause.comparison? (schema : Schema) (mappings : Mappings) (clause : Clause) :
    Option Comparison := do
  let column ← clause.column? mappings
  let comparator ← clause.operator.comparator?
  let kind ← schema column
  return ⟨column, comparator kind⟩

/-- The comparisons of the kept clauses, in the groups in which any is kept. -/
def Formula.comparisons (schema : Schema) (mappings : Mappings) (formula : Formula) :
    List (List Comparison) :=
  (formula.groups.map fun group =>
    (mappings.kept group).filterMap (Clause.comparison? schema mappings)).filter (!·.isEmpty)

/-- Every kept clause is mapped to what the grammar takes for a column. -/
def Formula.NamesColumns (mappings : Mappings) (formula : Formula) : Prop :=
  ∀ clause ∈ formula.groups.flatten, ∀ column ∈ clause.column? mappings, IsColumn column

/-- No kept clause has had a query put in its place before. -/
def Formula.IsUnreplaced (mappings : Mappings) (formula : Formula) : Prop :=
  ∀ clause ∈ mappings.kept formula.groups.flatten, clause.override = none

/-- A condition is read as a comparison. -/
def Condition.ReadsAs (condition : Condition) (comparison : Comparison) : Prop :=
  ReadsCondition condition.query.text.toList comparison

/-- A comparison is written as the grammar has it. -/
theorem Condition.readsAs_compare {column : String} (isColumn : IsColumn column)
    (comparator : Comparator) (argument : Argument) :
    (Condition.compare column comparator argument).ReadsAs ⟨column, comparator⟩ := by
  have reads : ReadsCondition _ ⟨column, comparator⟩ := .intro isColumn
  simpa [ReadsAs, Condition.query] using reads

/-- What a clause adds is read as its comparison. -/
theorem Clause.Adds.readsAs {clause : Clause} {condition : Condition}
    (adds : clause.Adds schema mappings condition) (plain : mappings.All Mapping.IsPlain)
    (unreplaced : clause.override = none)
    (columns : ∀ column ∈ clause.column? mappings, IsColumn column) :
    ∃ comparison, clause.comparison? schema mappings = some comparison ∧
      condition.ReadsAs comparison := by
  obtain ⟨kept, applied, conditioned⟩ := Clause.mappedCondition?_eq_ok_some_iff.mp adds
  have keeps := Mappings.keeps_of_apply applied
  have same : kept.override = none := (keeps.override_eq plain).trans unreplaced
  rcases Clause.condition_eq_ok_iff.mp conditioned with
    ⟨query, present, _⟩ | ⟨_, comparator, kind, value, compares, known, _, rfl⟩
  · cases same.symm.trans present
  · rw [keeps.operator_eq] at compares
    have column : clause.column? mappings = some kept.name := by
      rw [Clause.column?, applied]
    refine ⟨⟨kept.name, comparator kind⟩, ?_, Condition.readsAs_compare (columns _ column) _ _⟩
    simp [Clause.comparison?, column, compares, known]

/-- What clauses add is read as their comparisons. -/
theorem Formula.forall₂_readsAs {clauses : List Clause} {conditions : List Condition}
    (plain : mappings.All Mapping.IsPlain) (unreplaced : ∀ clause ∈ clauses, clause.override = none)
    (columns : ∀ clause ∈ clauses, ∀ column ∈ clause.column? mappings, IsColumn column)
    (added : List.Forall₂ (Clause.Adds schema mappings) clauses conditions) :
    List.Forall₂ Condition.ReadsAs conditions
      (clauses.filterMap (Clause.comparison? schema mappings)) := by
  induction added with
  | nil => exact .nil
  | cons adds _ ih =>
    rw [List.forall_mem_cons] at unreplaced columns
    obtain ⟨comparison, found, reads⟩ := adds.readsAs plain unreplaced.1 columns.1
    rw [List.filterMap_cons_some found]
    exact .cons reads (ih unreplaced.2 columns.2)

/-- The conditions of a formula are read as the comparisons of its kept clauses. -/
theorem Formula.forall₂_readsAs_of_conditions {formula : Formula} {groups : List (List Condition)}
    (unreplaced : formula.IsUnreplaced mappings) (plain : mappings.All Mapping.IsPlain)
    (columns : formula.NamesColumns mappings)
    (succeeds : formula.conditions schema mappings = .ok groups) :
    List.Forall₂ (List.Forall₂ Condition.ReadsAs) groups (formula.groups.map fun group =>
      (mappings.kept group).filterMap (Clause.comparison? schema mappings)) := by
  have added := List.forall₂_map_left_iff.mp (forall₂_kept_of_conditions succeeds)
  have members := (List.forall₂_and_left _ _).mpr ⟨fun _ (member : _ ∈ formula.groups) => member, added⟩
  apply List.forall₂_map_right_iff.mpr
  apply List.Forall₂.flip
  apply members.imp
  intro group conditions related
  have inside : ∀ clause ∈ mappings.kept group, clause ∈ mappings.kept formula.groups.flatten := by
    intro clause kept
    obtain ⟨member, undropped⟩ := Mappings.mem_kept_iff.mp kept
    exact Mappings.mem_kept_iff.mpr ⟨List.mem_flatten_of_mem related.1 member, undropped⟩
  exact forall₂_readsAs plain (fun clause kept => unreplaced clause (inside clause kept))
    (fun clause kept => columns clause (Mappings.mem_kept_iff.mp (inside clause kept)).1) related.2

/-! ### Joined conditions -/

namespace Formula

/-- Conditions joined by `OR` are read as a group. -/
theorem readsGroup_groupBody {group : List Condition} {comparisons : List Comparison}
    (ne_nil : group ≠ []) (related : List.Forall₂ Condition.ReadsAs group comparisons) :
    ReadsGroup (groupBody group).toList comparisons := by
  induction related with
  | nil => exact absurd rfl ne_nil
  | cons head tail ih =>
    cases tail with
    | nil => exact .single head
    | cons _ _ =>
      have reads := ReadsGroup.or head (ih (List.cons_ne_nil _ _))
      rw [groupBody_cons_cons, String.toList_append, String.toList_append, ← List.append_assoc]
      exact reads

/-- Groups joined by `AND` are read as groups. -/
theorem readsGroups_conjunction {groups : List (List Condition)} {reading : List (List Comparison)}
    (ne_nil : groups ≠ []) (each : ∀ group ∈ groups, group ≠ [])
    (related : List.Forall₂ (List.Forall₂ Condition.ReadsAs) groups reading) :
    ReadsGroups (conjunction groups).text.toList reading := by
  induction related with
  | nil => exact absurd rfl ne_nil
  | @cons group _ rest _ head tail ih =>
    obtain ⟨group_ne_nil, others⟩ := List.forall_mem_cons.mp each
    have body := readsGroup_groupBody group_ne_nil head
    cases tail with
    | nil =>
      rw [text_conjunction_singleton group_ne_nil]
      simpa using ReadsGroups.single body
    | cons _ _ =>
      have reads := ReadsGroups.and body (ih (List.cons_ne_nil _ _) others)
      rw [text_conjunction_cons_cons group_ne_nil (others _ (List.mem_cons_self ..))]
      simpa using reads

/-- All joined groups are read as the groups that are not empty. -/
theorem readsQuery_conjunction {groups : List (List Condition)} {reading : List (List Comparison)}
    (related : List.Forall₂ (List.Forall₂ Condition.ReadsAs) groups reading) :
    ReadsQuery (conjunction groups).text.toList (reading.filter (!·.isEmpty)) := by
  have emptiness : ∀ ⦃group : List Condition⦄ ⦃comparisons : List Comparison⦄,
      List.Forall₂ Condition.ReadsAs group comparisons →
        ((!group.isEmpty) = true ↔ (!comparisons.isEmpty) = true) := by
    intro group comparisons same
    cases same <;> simp
  have filtered := List.rel_filter emptiness related
  have each := ne_nil_of_mem_filter groups
  rw [← conjunction_filter]
  by_cases ne_nil : groups.filter (!·.isEmpty) = []
  · rw [ne_nil] at filtered ⊢
    rw [List.forall₂_nil_left_iff.mp filtered]
    exact .empty
  · exact .groups (readsGroups_conjunction ne_nil each filtered)

/-- The text of a formula is empty exactly if each of its clauses is dropped. -/
theorem text_eq_empty_iff_of_conditions {formula : Formula} {groups : List (List Condition)}
    (succeeds : formula.conditions schema mappings = .ok groups) :
    (conjunction groups).text = "" ↔
      ∀ clause ∈ formula.groups.flatten, mappings.apply clause = .ok .skip := by
  have added := forall₂_kept_flatten_of_conditions succeeds
  rw [text_conjunction_eq_empty_iff, ← mappings.kept_eq_nil_iff]
  constructor
  · intro nil
    rwa [nil, List.forall₂_nil_right_iff] at added
  · intro nil
    rwa [nil, List.forall₂_nil_left_iff] at added

/-- In a formula that compiles, the dropped clauses are the ones without a comparison. -/
theorem comparison?_eq_none_iff {formula : Formula} {query : Query} {clause : Clause}
    (unreplaced : formula.IsUnreplaced mappings) (plain : mappings.All Mapping.IsPlain)
    (columns : formula.NamesColumns mappings)
    (compiled : formula.compile schema mappings = .ok query)
    (member : clause ∈ formula.groups.flatten) :
    clause.comparison? schema mappings = none ↔ mappings.apply clause = .ok .skip := by
  constructor
  · intro absent
    by_contra undropped
    have kept := Mappings.mem_kept_iff.mpr ⟨member, undropped⟩
    obtain ⟨condition, adds⟩ := exists_adds_of_compile compiled kept
    obtain ⟨_, found, _⟩ := adds.readsAs plain (unreplaced clause kept) (columns clause member)
    cases found.symm.trans absent
  · intro dropped
    simp [Clause.comparison?, Clause.column?, dropped]

end Formula

/-- A compiled filter has exactly one reading: the comparisons of the kept clauses in their groups,
in order. Every kept clause is among them, there are no gaps in the text, and it is empty exactly if
nothing is kept, which leaves no arguments either. -/
theorem Formula.reads_compile {formula : Formula} {query : Query}
    (unreplaced : formula.IsUnreplaced mappings) (plain : mappings.All Mapping.IsPlain)
    (columns : formula.NamesColumns mappings)
    (compiled : formula.compile schema mappings = .ok query) :
    (∀ reading, ReadsQuery query.text.toList reading ↔
      reading = formula.comparisons schema mappings) ∧
    (∀ clause ∈ formula.groups.flatten, clause.comparison? schema mappings = none ↔
      mappings.apply clause = .ok .skip) ∧
    (∀ gap ∈ ["()", "( ", " )", "  "], ¬ gap.toList <:+: query.text.toList) ∧
    ¬ [' '] <+: query.text.toList ∧ ¬ [' '] <:+ query.text.toList ∧
    (query.text = "" ↔ ∀ clause ∈ formula.groups.flatten, mappings.apply clause = .ok .skip) ∧
    (query.text = "" → query.arguments = []) := by
  obtain ⟨groups, succeeds, rfl⟩ := compile_eq_ok_iff.mp compiled
  have related : List.Forall₂ (List.Forall₂ Condition.ReadsAs) groups
      (formula.groups.map fun group =>
        (mappings.kept group).filterMap (Clause.comparison? schema mappings)) :=
    forall₂_readsAs_of_conditions unreplaced plain columns succeeds
  have reads := readsQuery_conjunction related
  obtain ⟨gaps, before, after⟩ := reads.gapless
  refine ⟨?_, ?_, gaps, before, after,
    text_eq_empty_iff_of_conditions succeeds, ?_⟩
  · intro reading
    constructor
    · intro other
      exact other.unique reads
    · rintro rfl
      exact reads
  · intro clause member
    exact comparison?_eq_none_iff unreplaced plain columns compiled member
  · intro empty
    rw [arguments_conjunction, text_conjunction_eq_empty_iff.mp empty, List.flatMap_nil]

/-- Columns whose names are the connectives themselves. -/
def connectives : Formula :=
  ⟨[[.ofRaw "q" .excludes "x", .ofRaw "sort" .equal "1"], [.ofRaw "sort" .equal "2"],
    [.ofRaw "AND" .equal "y", .ofRaw "OR" .atLeast "z"]]⟩

/-- A search goes to the column `OR`, and a sort order is no condition. -/
def connectiveMappings : Mappings :=
  (Mappings.empty.insert "q" (.known (.namedText fun raw => ("OR", raw)))).insert "sort"
    (.known .skip)

theorem reads_compile_connectives :
    (connectives.IsUnreplaced connectiveMappings ∧ connectiveMappings.All Mapping.IsPlain ∧
      connectives.NamesColumns connectiveMappings) ∧
    connectives.compile (fun _ => some .text) connectiveMappings =
      .ok ⟨"(OR NOT LIKE ?) AND (AND = ? OR OR >= ?)", [.text "%x%", .text "y", .text "z"]⟩ ∧
    ∀ reading, ReadsQuery "(OR NOT LIKE ?) AND (AND = ? OR OR >= ?)".toList reading ↔
      reading = [[⟨"OR", .notLike⟩], [⟨"AND", .equal⟩, ⟨"OR", .atLeast⟩]] := by
  have unreplaced : connectives.IsUnreplaced connectiveMappings := by
    unfold Formula.IsUnreplaced
    decide +kernel
  have plain : connectiveMappings.All Mapping.IsPlain :=
    ((Mappings.all_empty _).insert (by rintro _ ⟨⟩) "q").insert (by rintro _ ⟨⟩) "sort"
  have columns : connectives.NamesColumns connectiveMappings := by
    unfold Formula.NamesColumns
    decide +kernel
  have compiled : connectives.compile (fun _ => some .text) connectiveMappings =
      .ok ⟨"(OR NOT LIKE ?) AND (AND = ? OR OR >= ?)", [.text "%x%", .text "y", .text "z"]⟩ := by
    decide +kernel
  have comparisons : connectives.comparisons (fun _ => some .text) connectiveMappings =
      [[⟨"OR", .notLike⟩], [⟨"AND", .equal⟩, ⟨"OR", .atLeast⟩]] := by
    decide +kernel
  refine ⟨⟨unreplaced, plain, columns⟩, compiled, ?_⟩
  intro reading
  rw [← comparisons]
  exact (Formula.reads_compile unreplaced plain columns compiled).1 reading

/-- A clause in whose place a query was put before it is compiled. -/
def replaced : Formula :=
  ⟨[[{ Clause.ofRaw "a" .equal "1" with override := some ⟨"TRUE", []⟩ }]]⟩

/-- A query that was put in the place of a clause before need not have a reading. -/
theorem not_reads_compile_replaced :
    (Mappings.empty.All Mapping.IsPlain ∧ replaced.NamesColumns .empty) ∧
    replaced.compile (fun _ => some .number) .empty = .ok ⟨"(TRUE)", []⟩ ∧
    ∀ reading, ¬ ReadsQuery "(TRUE)".toList reading := by
  have columns : replaced.NamesColumns .empty := by
    unfold Formula.NamesColumns
    decide +kernel
  refine ⟨⟨Mappings.all_empty _, columns⟩, by decide +kernel, ?_⟩
  intro reading reads
  cases reads with
  | groups reads => exact absurd reads.placeholder_mem (by decide)

end Criteria
