import Criteria.Proofs.Filter.Conditions
import Criteria.Proofs.Filter.Text

/-! # Values do not show in the text

Two formulas that differ in nothing but the raw values of their clauses compile to the same text,
as long as mappings neither put queries in the place of clauses nor choose a column by the value.
Only an argument can tell the two apart, and only one that belongs to a clause with another value.
-/

namespace Criteria

variable {schema : Schema} {mappings : Mappings}

/-- The clauses differ at most in their raw values. -/
structure Clause.SameShape (first second : Clause) : Prop where
  name : first.name = second.name
  operator : first.operator = second.operator
  renamed : first.renamed = second.renamed
  override : first.override = second.override
  value : first.value = second.value ∨ (first.value.kind = .raw ∧ second.value.kind = .raw)

/-- The formulas have the same groups of clauses but for their raw values. -/
def Formula.SameShape (first second : Formula) : Prop :=
  List.Forall₂ (List.Forall₂ Clause.SameShape) first.groups second.groups

/-- The number of arguments that a clause has if no mapping replaces it: those of the query in its
place, or the one that its column is compared with. -/
def Clause.arity (clause : Clause) : Nat :=
  clause.override.elim 1 (·.arguments.length)

/-- The kept clauses of a group, each with its counterpart in another one. -/
def Mappings.keptPairs (mappings : Mappings) (clauses others : List Clause) :
    List (Clause × Clause) :=
  (clauses.zip others).filter (!mappings.drops ·.1)

/-- For each argument of the first formula, the clause that it belongs to, with the counterpart of
that clause in the second formula. -/
def Mappings.origins (mappings : Mappings) (first second : Formula) : List (Clause × Clause) :=
  (mappings.keptPairs first.groups.flatten second.groups.flatten).flatMap fun pair =>
    List.replicate pair.1.arity pair

/-! ### Mapped clauses -/

namespace Clause.SameShape

variable {first second kept other : Clause}

theorem symm (same : first.SameShape second) : second.SameShape first where
  name := same.name.symm
  operator := same.operator.symm
  renamed := same.renamed.symm
  override := same.override.symm
  value := same.value.imp Eq.symm And.symm

theorem kind_eq (same : first.SameShape second) : first.value.kind = second.value.kind := by
  rcases same.value with equal | ⟨raw, otherRaw⟩
  · rw [equal]
  · rw [raw, otherRaw]

/-- Of two clauses of the same shape, both are dropped or none. -/
theorem drops_eq (same : first.SameShape second) : mappings.drops first = mappings.drops second := by
  rw [Bool.eq_iff_iff, Mappings.drops_iff, Mappings.drops_iff, Mappings.apply_eq_ok_skip_iff,
    Mappings.apply_eq_ok_skip_iff, same.name, same.kind_eq]

/-- A clause is not typed by a mapping if one of the same shape is left as it is. -/
theorem not_typed (same : first.SameShape second) {mapping : Mapping} {raw : String}
    (plain : mappings.entries[first.name]? = none ∨ first.value.kind ≠ .raw)
    (holds : mappings.Holds second.name mapping) (unread : second.value = .raw raw) : False := by
  rcases plain with absent | typed
  · rw [same.name] at absent
    cases absent.symm.trans holds
  · rw [same.kind_eq, unread] at typed
    exact typed rfl

/-- Clauses of the same shape are moved to the same column. -/
theorem name_eq_of_keeps (same : first.SameShape second) (plain : mappings.All Mapping.IsPlain)
    (fixed : mappings.All Mapping.HasFixedColumn) (keeps : mappings.Keeps first kept)
    (otherKeeps : mappings.Keeps second other) : kept.name = other.name := by
  cases keeps with
  | overridden holds _ => exact absurd rfl (plain _ _ holds _)
  | untouched untouched =>
    cases otherKeeps with
    | untouched _ => exact same.name
    | typed holds unread _ _ => exact (same.not_typed untouched holds unread).elim
    | overridden holds _ => exact absurd rfl (plain _ _ holds _)
  | typed holds unread assigned _ =>
    cases otherKeeps with
    | untouched untouched => exact (same.symm.not_typed untouched holds unread).elim
    | overridden holds _ => exact absurd rfl (plain _ _ holds _)
    | typed otherHolds _ otherAssigned _ =>
      rw [← same.name] at otherHolds
      cases holds.symm.trans otherHolds
      -- One table has one mapping for both names, and its column is the same for both values.
      obtain ⟨column, always⟩ := fixed _ _ holds
      rw [always _ _ _ _ _ assigned, always _ _ _ _ _ otherAssigned]
      cases column with
      | none => exact same.name
      | some _ => rfl

/-- Clauses that differ neither in their shape nor in their values are equal. -/
theorem eq_of_value_eq (same : first.SameShape second) (value : first.value = second.value) :
    first = second := by
  cases first
  cases second
  obtain ⟨rfl, rfl, rfl, rfl, _⟩ := same
  obtain rfl := value
  rfl

end Clause.SameShape

/-- A condition has as many arguments as its clause says. -/
theorem Clause.length_arguments_of_condition {clause : Clause} {condition : Condition}
    (conditioned : clause.condition schema = .ok condition) :
    condition.query.arguments.length = clause.arity := by
  rcases Clause.condition_eq_ok_iff.mp conditioned with
    ⟨query, present, rfl⟩ | ⟨absent, _, _, _, _, _, _, rfl⟩
  · rw [arity, present]
    rfl
  · rw [arity, absent]
    rfl

/-- The text of a condition says nothing of the value of its clause. -/
theorem Clause.text_eq_of_condition {clause other : Clause} {condition counterpart : Condition}
    (name : clause.name = other.name) (operator : clause.operator = other.operator)
    (override : clause.override = other.override)
    (conditioned : clause.condition schema = .ok condition)
    (otherConditioned : other.condition schema = .ok counterpart) :
    condition.query.text = counterpart.query.text := by
  rcases Clause.condition_eq_ok_iff.mp conditioned with
    ⟨query, present, rfl⟩ | ⟨absent, comparator, kind, _, compares, known, _, rfl⟩
  · rcases Clause.condition_eq_ok_iff.mp otherConditioned with
      ⟨otherQuery, otherPresent, rfl⟩ | ⟨otherAbsent, _⟩
    · rw [override, otherPresent] at present
      cases present
      rfl
    · rw [override, otherAbsent] at present
      cases present
  · rcases Clause.condition_eq_ok_iff.mp otherConditioned with
      ⟨_, otherPresent, _⟩ | ⟨_, otherComparator, otherKind, _, otherCompares, otherKnown, _, rfl⟩
    · rw [override, otherPresent] at absent
      cases absent
    · rw [operator, otherCompares] at compares
      rw [name, otherKnown] at known
      cases compares
      cases known
      rw [name]
      rfl

/-- What two clauses of the same shape add: conditions with the same text and as many arguments as
the clauses say, which are equal if the values are. -/
structure AddAlike (pair : Clause × Clause) (condition counterpart : Condition) : Prop where
  text : condition.query.text = counterpart.query.text
  length : condition.query.arguments.length = pair.1.arity
  length_counterpart : counterpart.query.arguments.length = pair.1.arity
  eq : pair.1.value = pair.2.value → condition = counterpart

theorem Clause.SameShape.addAlike {first second : Clause} (same : first.SameShape second)
    (plain : mappings.All Mapping.IsPlain) (fixed : mappings.All Mapping.HasFixedColumn)
    {condition counterpart : Condition} (adds : first.Adds schema mappings condition)
    (otherAdds : second.Adds schema mappings counterpart) :
    AddAlike (first, second) condition counterpart := by
  obtain ⟨kept, applied, conditioned⟩ := Clause.mappedCondition?_eq_ok_some_iff.mp adds
  obtain ⟨other, otherApplied, otherConditioned⟩ :=
    Clause.mappedCondition?_eq_ok_some_iff.mp otherAdds
  have keeps := Mappings.keeps_of_apply applied
  have otherKeeps := Mappings.keeps_of_apply otherApplied
  have operator : kept.operator = other.operator := by
    rw [keeps.operator_eq, otherKeeps.operator_eq, same.operator]
  have override : kept.override = first.override := keeps.override_eq plain
  have otherOverride : other.override = first.override := by
    rw [otherKeeps.override_eq plain, same.override]
  constructor
  · exact Clause.text_eq_of_condition (same.name_eq_of_keeps plain fixed keeps otherKeeps) operator
      (override.trans otherOverride.symm) conditioned otherConditioned
  · rw [Clause.length_arguments_of_condition conditioned, Clause.arity, override, Clause.arity]
  · rw [Clause.length_arguments_of_condition otherConditioned, Clause.arity, otherOverride,
      Clause.arity]
  · intro value
    cases same.eq_of_value_eq value
    cases adds.symm.trans otherAdds
    rfl

/-! ### Kept clauses -/

namespace Mappings

variable {clauses others : List Clause}

/-- The kept clauses of two groups of the same shape are counterparts of each other. -/
theorem map_keptPairs (mappings : Mappings) (same : List.Forall₂ Clause.SameShape clauses others) :
    (mappings.keptPairs clauses others).map Prod.fst = mappings.kept clauses ∧
      (mappings.keptPairs clauses others).map Prod.snd = mappings.kept others := by
  induction same with
  | nil => exact ⟨rfl, rfl⟩
  | @cons clause other _ _ head _ ih =>
    have drops : mappings.drops clause = mappings.drops other := head.drops_eq
    simp only [keptPairs, kept] at ih ⊢
    cases dropped : mappings.drops clause <;> simp [dropped, ← drops, ih]

theorem sameShape_of_mem_keptPairs (same : List.Forall₂ Clause.SameShape clauses others)
    {pair : Clause × Clause} (member : pair ∈ mappings.keptPairs clauses others) :
    pair.1.SameShape pair.2 :=
  List.forall₂_zip same (List.mem_of_mem_filter member)

end Mappings

/-- The conditions that clauses and their counterparts add. -/
inductive AllAddAlike : List (Clause × Clause) → List Condition → List Condition → Prop
  | nil : AllAddAlike [] [] []
  | cons {pair : Clause × Clause} {condition counterpart : Condition} {pairs : List (Clause × Clause)}
      {conditions counterparts : List Condition} (head : AddAlike pair condition counterpart)
      (tail : AllAddAlike pairs conditions counterparts) :
      AllAddAlike (pair :: pairs) (condition :: conditions) (counterpart :: counterparts)

theorem allAddAlike_of_adds {pairs : List (Clause × Clause)} {conditions counterparts : List Condition}
    (plain : mappings.All Mapping.IsPlain) (fixed : mappings.All Mapping.HasFixedColumn)
    (same : ∀ pair ∈ pairs, pair.1.SameShape pair.2)
    (added : List.Forall₂ (Clause.Adds schema mappings) (pairs.map Prod.fst) conditions)
    (otherAdded : List.Forall₂ (Clause.Adds schema mappings) (pairs.map Prod.snd) counterparts) :
    AllAddAlike pairs conditions counterparts := by
  induction pairs generalizing conditions counterparts with
  | nil =>
    cases added
    cases otherAdded
    exact .nil
  | cons pair pairs ih =>
    obtain ⟨head, tail⟩ := List.forall_mem_cons.mp same
    cases added with
    | cons adds added =>
      cases otherAdded with
      | cons otherAdds otherAdded =>
        exact .cons (head.addAlike plain fixed adds otherAdds) (ih tail added otherAdded)

/-- The kept clauses of two groups of the same shape add alike. -/
theorem allAddAlike_of_kept {clauses others : List Clause} {conditions counterparts : List Condition}
    (plain : mappings.All Mapping.IsPlain) (fixed : mappings.All Mapping.HasFixedColumn)
    (same : List.Forall₂ Clause.SameShape clauses others)
    (added : List.Forall₂ (Clause.Adds schema mappings) (mappings.kept clauses) conditions)
    (otherAdded : List.Forall₂ (Clause.Adds schema mappings) (mappings.kept others) counterparts) :
    AllAddAlike (mappings.keptPairs clauses others) conditions counterparts := by
  obtain ⟨left, right⟩ := mappings.map_keptPairs same
  rw [← left] at added
  rw [← right] at otherAdded
  exact allAddAlike_of_adds plain fixed (fun _ => Mappings.sameShape_of_mem_keptPairs same) added
    otherAdded

namespace AllAddAlike

variable {pairs : List (Clause × Clause)} {conditions counterparts : List Condition}

theorem map_text (alike : AllAddAlike pairs conditions counterparts) :
    conditions.map (·.query.text) = counterparts.map (·.query.text) := by
  induction alike with
  | nil => rfl
  | cons head _ ih => rw [List.map_cons, List.map_cons, head.text, ih]

theorem length_arguments (alike : AllAddAlike pairs conditions counterparts) :
    (conditions.flatMap (·.query.arguments)).length =
        (pairs.flatMap fun pair => List.replicate pair.1.arity pair).length ∧
      (counterparts.flatMap (·.query.arguments)).length =
        (pairs.flatMap fun pair => List.replicate pair.1.arity pair).length := by
  induction alike with
  | nil => exact ⟨rfl, rfl⟩
  | cons head _ ih =>
    simp only [List.flatMap_cons, List.length_append, List.length_replicate, head.length,
      head.length_counterpart, ih, and_self]

/-- Arguments in the same position differ only if they belong to clauses with other values. -/
theorem value_ne_of_argument_ne (alike : AllAddAlike pairs conditions counterparts) {index : Nat}
    (differ : (conditions.flatMap (·.query.arguments))[index]? ≠
      (counterparts.flatMap (·.query.arguments))[index]?) :
    ∃ pair, (pairs.flatMap fun pair => List.replicate pair.1.arity pair)[index]? = some pair ∧
      pair.1.value ≠ pair.2.value := by
  induction alike generalizing index with
  | nil => exact absurd rfl differ
  | @cons pair condition counterpart _ _ _ head _ ih =>
    simp only [List.flatMap_cons, List.getElem?_append, head.length, head.length_counterpart,
      List.length_replicate] at differ ⊢
    -- The position belongs to the first clause or to the ones after it.
    by_cases own : index < pair.1.arity
    · simp only [own, if_true] at differ ⊢
      refine ⟨pair, List.getElem?_replicate_of_lt own, fun value => differ ?_⟩
      rw [head.eq value]
    · simp only [own, if_false] at differ ⊢
      exact ih differ

end AllAddAlike

/-- In formulas of the same shape, the conditions of each group have the same texts. -/
theorem Formula.map_text_eq {first second : Formula} {groups others : List (List Condition)}
    (plain : mappings.All Mapping.IsPlain) (fixed : mappings.All Mapping.HasFixedColumn)
    (same : first.SameShape second) (succeeds : first.conditions schema mappings = .ok groups)
    (otherSucceeds : second.conditions schema mappings = .ok others) :
    groups.map (·.map (·.query.text)) = others.map (·.map (·.query.text)) := by
  have added := List.forall₂_map_left_iff.mp (forall₂_kept_of_conditions succeeds)
  have otherAdded := List.forall₂_map_left_iff.mp (forall₂_kept_of_conditions otherSucceeds)
  unfold SameShape at same
  clear succeeds otherSucceeds
  generalize first.groups = clauses, second.groups = counterparts at same added otherAdded
  induction same generalizing groups others with
  | nil =>
    cases added
    cases otherAdded
    rfl
  | cons head _ ih =>
    cases added with
    | cons adds added =>
      cases otherAdded with
      | cons otherAdds otherAdded =>
        have alike := allAddAlike_of_kept plain fixed head adds otherAdds
        rw [List.map_cons, List.map_cons, alike.map_text, ih added otherAdded]

/-- Two formulas that differ in raw values only, under mappings that keep to their columns, compile
to the same text. Their arguments are as many, and differ only in the positions of kept clauses with
other values. -/
theorem Formula.compile_values {first second : Formula} {query other : Query}
    (plain : mappings.All Mapping.IsPlain) (fixed : mappings.All Mapping.HasFixedColumn)
    (same : first.SameShape second) (compiled : first.compile schema mappings = .ok query)
    (otherCompiled : second.compile schema mappings = .ok other) :
    query.text = other.text ∧ query.arguments.length = other.arguments.length ∧
      (mappings.origins first second).length = query.arguments.length ∧
      ∀ index : Nat, query.arguments[index]? ≠ other.arguments[index]? →
        ∃ pair, (mappings.origins first second)[index]? = some pair ∧
          pair.1.value ≠ pair.2.value := by
  obtain ⟨groups, succeeds, rfl⟩ := compile_eq_ok_iff.mp compiled
  obtain ⟨otherGroups, otherSucceeds, rfl⟩ := compile_eq_ok_iff.mp otherCompiled
  have flat : AllAddAlike (mappings.keptPairs first.groups.flatten second.groups.flatten)
      groups.flatten otherGroups.flatten :=
    allAddAlike_of_kept plain fixed (List.rel_flatten same)
      (forall₂_kept_flatten_of_conditions succeeds) (forall₂_kept_flatten_of_conditions otherSucceeds)
  obtain ⟨length, otherLength⟩ := flat.length_arguments
  rw [arguments_conjunction, arguments_conjunction]
  refine ⟨?_, length.trans otherLength.symm, length.symm, ?_⟩
  · apply text_conjunction_congr
    exact map_text_eq plain fixed same succeeds otherSucceeds
  · intro index
    exact flat.value_ne_of_argument_ne

/-- A search for a text among the posts above an age. -/
def searchPosts (text : String) : Formula :=
  ⟨[[.ofRaw "q" .includes text, .ofRaw "sort" .equal "1"], [.ofRaw "age" .greater "18"]]⟩

/-- A search looks at titles, and a sort order is no condition. -/
def searchMappings : Mappings :=
  (Mappings.empty.insert "q" (.known (.namedText fun raw => ("title", raw)))).insert "sort"
    (.known .skip)

theorem compile_values_injection :
    (searchMappings.All Mapping.IsPlain ∧ searchMappings.All Mapping.HasFixedColumn ∧
      (searchPosts "x").SameShape (searchPosts "x') OR (1 = 1")) ∧
    (searchPosts "x").compile (fun _ => some .text) searchMappings =
      .ok ⟨"(title LIKE ?) AND (age > ?)", [.text "%x%", .text "18"]⟩ ∧
    (searchPosts "x') OR (1 = 1").compile (fun _ => some .text) searchMappings =
      .ok ⟨"(title LIKE ?) AND (age > ?)", [.text "%x') OR (1 = 1%", .text "18"]⟩ ∧
    ∃ pair, (searchMappings.origins (searchPosts "x") (searchPosts "x') OR (1 = 1"))[0]? = some pair ∧
      pair.1.value ≠ pair.2.value := by
  have plain : searchMappings.All Mapping.IsPlain :=
    ((Mappings.all_empty _).insert (by rintro _ ⟨⟩) "q").insert (by rintro _ ⟨⟩) "sort"
  have moves : (Mapping.namedText fun raw => ("title", raw)).HasFixedColumn :=
    ⟨some "title", by rintro _ _ _ _ _ ⟨⟩; rfl⟩
  have drops : Mapping.skip.HasFixedColumn := ⟨none, by rintro _ _ _ _ _ ⟨⟩⟩
  have fixed : searchMappings.All Mapping.HasFixedColumn :=
    ((Mappings.all_empty _).insert moves "q").insert drops "sort"
  have same : (searchPosts "x").SameShape (searchPosts "x') OR (1 = 1") :=
    .cons (.cons ⟨rfl, rfl, rfl, rfl, .inr ⟨rfl, rfl⟩⟩ (.cons ⟨rfl, rfl, rfl, rfl, .inl rfl⟩ .nil))
      (.cons (.cons ⟨rfl, rfl, rfl, rfl, .inl rfl⟩ .nil) .nil)
  have compiled : (searchPosts "x").compile (fun _ => some .text) searchMappings =
      .ok ⟨"(title LIKE ?) AND (age > ?)", [.text "%x%", .text "18"]⟩ := by decide +kernel
  have otherCompiled : (searchPosts "x') OR (1 = 1").compile (fun _ => some .text) searchMappings =
      .ok ⟨"(title LIKE ?) AND (age > ?)", [.text "%x') OR (1 = 1%", .text "18"]⟩ := by
    decide +kernel
  obtain ⟨_, _, _, differ⟩ := Formula.compile_values plain fixed same compiled otherCompiled
  exact ⟨⟨plain, fixed, same⟩, compiled, otherCompiled, differ 0 (by decide)⟩

end Criteria
