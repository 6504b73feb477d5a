import Criteria.Proofs.Filter.Conditions
import Criteria.Proofs.Query.Like

/-! # Searches

Four operators look for a text: at the start, at the end, or anywhere. They bind a pattern of `LIKE`
in which only the `%` of the value are doubled. A search therefore finds what it is asked for exactly
if it takes its value literally (`Operator.TakesLiterally`); for other values it finds other texts,
too.
-/

namespace Criteria

variable {schema : Schema} {mappings : Mappings}

/-- What a search for a value demands of a text: to start with it, to end with it, or to contain it. -/
def Operator.Finds (operator : Operator) (value text : List Char) : Prop :=
  match operator with
  | startsWith => value <+: text
  | endsWith => value <:+ text
  | _ => value <:+: text

/-- A value without special characters, or one that is looked for at the end and has no other special
character than a backslash at its own end. -/
def Operator.TakesLiterally (operator : Operator) (value : List Char) : Prop :=
  Like.IsVerbatim value ∨
    operator = endsWith ∧ ∃ front, Like.IsVerbatim front ∧ value = front ++ ['\\']

theorem toList_literalPattern (value : String) :
    (literalPattern value).toList = Like.doubled value.toList := by
  simp [literalPattern, Like.doubled]

/-- The pattern of a search stands for the texts that the search asks for exactly if it takes the
value literally. -/
theorem Operator.matches_iff_finds_iff {operator : Operator} {pattern : String → String}
    (searches : operator.pattern? = some pattern) (value : String) :
    (∀ text, Like.Matches (pattern (literalPattern value)).toList text ↔
        operator.Finds value.toList text) ↔ operator.TakesLiterally value.toList := by
  cases operator with
  | includes | excludes =>
    cases searches
    simp only [String.toList_append, toList_literalPattern, Finds, TakesLiterally]
    exact Like.matches_iff_infix_iff.trans (by simp)
  | startsWith =>
    cases searches
    simp only [String.toList_append, toList_literalPattern, Finds, TakesLiterally]
    exact Like.matches_iff_prefix_iff.trans (by simp)
  | endsWith =>
    cases searches
    simp only [String.toList_append, toList_literalPattern, Finds, TakesLiterally]
    exact Like.matches_iff_suffix_iff.trans (by simp)
  | equal | notEqual | regex | notRegex | greater | less | atLeast | atMost => contradiction

/-- On texts, a search is a comparison by `LIKE`, or by `NOT LIKE` if it excludes what it finds. -/
theorem Operator.exists_comparator_of_isLike (operator : Operator)
    (searches : operator.isLike = true) :
    ∃ comparator, operator.comparator? = some comparator ∧
      comparator .text = if operator = .excludes then .notLike else .like := by
  cases operator with
  | includes | excludes | startsWith | endsWith => exact ⟨_, rfl, rfl⟩
  | equal | notEqual | regex | notRegex | greater | less | atLeast | atMost => contradiction

/-- A clause that searches a column of texts for a value, raw or given by its mapping, binds a pattern
for it. The pattern stands for the texts that the clause asks for exactly if it takes the value
literally. -/
theorem Clause.adds_search {clause kept : Clause} {value : String}
    (applied : mappings.apply clause = .ok (.keep kept)) (fresh : kept.override = none)
    (column : schema kept.name = some .text)
    (held : kept.value = .raw value ∨ kept.value = .text value)
    (searches : clause.operator.isLike = true) :
    ∃ pattern, clause.Adds schema mappings
        (.compare kept.name (if clause.operator = .excludes then .notLike else .like)
          (.text pattern)) ∧
      ((∀ text, Like.Matches pattern.toList text ↔ clause.operator.Finds value.toList text) ↔
        clause.operator.TakesLiterally value.toList) := by
  have same := (Mappings.keeps_of_apply applied).operator_eq
  obtain ⟨pattern, found⟩ := Option.isSome_iff_exists.mp searches
  obtain ⟨comparator, compares, compared⟩ := clause.operator.exists_comparator_of_isLike searches
  have coerced : kept.value.coerce? .text = some (.text value) := by
    rcases held with raw | typed
    · rw [raw]
      rfl
    · rw [typed]
      rfl
  refine ⟨pattern (literalPattern value), ?_, Operator.matches_iff_finds_iff found value⟩
  refine Clause.mappedCondition?_eq_ok_some_iff.mpr ⟨kept, applied, ?_⟩
  refine Clause.condition_eq_ok_iff.mpr (.inr ⟨fresh, comparator, .text, .text value, ?_⟩)
  have bound : clause.operator.bind (.text value) = .text (pattern (literalPattern value)) :=
    Operator.bind_of_pattern? found (by simp [Value.kind])
  rw [same, ← compared, bound]
  exact ⟨compares, column, coerced, rfl⟩

/-- A search among titles. -/
def titleSearch (value : String) : Clause :=
  .ofRaw "q" .includes value

/-- Searches look at titles. -/
def titleMappings : Mappings :=
  Mappings.empty.insert "q" (.known (.namedText fun raw => ("title", raw)))

/-- What the mapping makes of a search. -/
def mappedSearch (value : String) : Clause :=
  ⟨"title", .includes, .text value, true, none⟩

theorem adds_search_titles :
    titleMappings.apply (titleSearch "50 off") = .ok (.keep (mappedSearch "50 off")) ∧
    ∃ pattern, (titleSearch "50 off").Adds (fun _ => some .text) titleMappings
        (.compare "title" .like (.text pattern)) ∧
      ∀ text, Like.Matches pattern.toList text ↔ "50 off".toList <:+: text := by
  have applied :
      titleMappings.apply (titleSearch "50 off") = .ok (.keep (mappedSearch "50 off")) := by
    decide +kernel
  have verbatim : Like.IsVerbatim "50 off".toList := by decide
  have searched : ∃ pattern, (titleSearch "50 off").Adds (fun _ => some .text) titleMappings
      (.compare "title" .like (.text pattern)) ∧ _ :=
    Clause.adds_search applied rfl rfl (.inr rfl) rfl
  obtain ⟨pattern, adds, exact⟩ := searched
  exact ⟨applied, pattern, adds, exact.mpr (.inl verbatim)⟩

/-- Stars of a search stand for any text. -/
def starMappings : Mappings :=
  Mappings.empty.insert "name" (.known (.text fun raw =>
    String.ofList (raw.toList.map fun char => if char = '*' then '%' else char)))

/-- An underscore, a percent sign or a backslash in a value makes a search find texts that do not
have the value in them. -/
theorem finds_more_than_asked :
    (compile (fun _ => some .text) .empty "name=@a_b" = .ok ⟨"(name LIKE ?)", [.text "%a_b%"]⟩ ∧
      Like.Matches "%a_b%".toList "axb".toList ∧ ¬ "a_b".toList <:+: "axb".toList) ∧
    (compile (fun _ => some .text) starMappings "name^=a*b" =
        .ok ⟨"(name LIKE ?)", [.text "a%%b%"]⟩ ∧
      Like.Matches "a%%b%".toList "axb".toList ∧ ¬ "a%b".toList <+: "axb".toList) ∧
    compile (fun _ => some .text) .empty "name$=a\\b" = .ok ⟨"(name LIKE ?)", [.text "%a\\b"]⟩ ∧
      Like.Matches "%a\\b".toList "ab".toList ∧ ¬ "a\\b".toList <:+ "ab".toList := by
  refine ⟨⟨by decide +kernel, ?_, by decide⟩, ⟨by decide +kernel, ?_, by decide⟩,
    by decide +kernel, ?_, by decide⟩
  · have last : Like.Matches ['b', '%'] ['b'] := .verbatim (by decide) (.sequence [] .nil)
    exact .sequence [] (.verbatim (by decide) (.single 'x' last))
  · have last : Like.Matches ['b', '%'] ['b'] := .verbatim (by decide) (.sequence [] .nil)
    exact .verbatim (by decide) (.sequence ['x'] (.sequence [] last))
  · exact .sequence [] (.verbatim (by decide) (.escaped 'b' .nil))

end Criteria
