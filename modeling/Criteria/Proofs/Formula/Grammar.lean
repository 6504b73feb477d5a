import Criteria.Formula.Parser
import Mathlib.Data.List.Chain

/-! # The grammar of filters

A filter is a sequence of phrases: separators, and clauses between which there is at least one
separator. A clause is a name, an operator and a value; the value may be missing where nothing
follows. `IsViable` says which tokens a filter may begin with, so that the first token that does not
fit in can be told.
-/

namespace Criteria

/-- The tokens of a clause. -/
structure WrittenClause where
  name : Token
  comparison : Token
  operator : Operator
  value? : Option Token
  name_kind : name.kind = .ident
  comparison_kind : comparison.kind = .operator operator
  value_kind : ∀ value ∈ value?, value.kind = .ident

/-- The clause that is written; a missing value is empty. -/
def WrittenClause.clause (written : WrittenClause) : Clause :=
  .ofRaw written.name.text written.operator (written.value?.elim "" (·.text))

/-- A separator or a clause. -/
inductive Phrase where
  | separator (token : Token) (separates : token.kind = .and ∨ token.kind = .or)
  | clause (written : WrittenClause)

namespace Phrase

/-- The tokens of a phrase. -/
def tokens : Phrase → List Token
  | separator token _ => [token]
  | clause written => written.name :: written.comparison :: written.value?.toList

/-- The clause that a phrase is, unless it is a separator. -/
def clause? : Phrase → Option Clause
  | separator _ _ => none
  | clause written => some written.clause

/-- Whether a phrase closes a group. -/
def closes : Phrase → Bool
  | separator token _ => token.kind = .and
  | clause _ => false

/-- Whether a phrase lacks nothing. -/
def IsComplete : Phrase → Prop
  | separator _ _ => True
  | clause written => written.value?.isSome

/-- Clauses stand apart from each other, and only the last phrase may lack a value: the phrases are
`separator* (clause (separator+ clause)*)? separator*`. -/
structure AreSentence (phrases : List Phrase) : Prop where
  apart : phrases.IsChain fun first second => first.clause? = none ∨ second.clause? = none
  complete : ∀ phrase ∈ phrases.dropLast, phrase.IsComplete

/-- The clauses of each group, the empty groups included. -/
def groups (phrases : List Phrase) : List (List Clause) :=
  (phrases.splitOnP closes).map (·.filterMap clause?)

end Phrase

/-- The groups between the phrases that close one, without the empty ones. -/
def Formula.ofPhrases (phrases : List Phrase) : Formula :=
  compact ⟨Phrase.groups phrases⟩

/-- The tokens of a filter. -/
def IsSentence (tokens : List Token) : Prop :=
  ∃ phrases, Phrase.AreSentence phrases ∧ phrases.flatMap Phrase.tokens = tokens

/-- The tokens that a filter may begin with. -/
def IsViable (tokens : List Token) : Prop :=
  ∃ more, IsSentence (tokens ++ more)

/-- After these tokens an operator may follow. -/
def OperatorDue (tokens : List Token) : Prop :=
  ∃ comparison operator, comparison.kind = .operator operator ∧ IsViable (tokens ++ [comparison])

/-! ### Phrases -/

namespace Phrase

variable {phrase : Phrase} {rest : List Phrase}

theorem areSentence_nil : AreSentence [] :=
  ⟨.nil, by simp⟩

theorem areSentence_cons_iff : AreSentence (phrase :: rest) ↔
    (∀ next ∈ rest.head?, phrase.clause? = none ∨ next.clause? = none) ∧
      (rest ≠ [] → phrase.IsComplete) ∧ AreSentence rest := by
  constructor
  · rintro ⟨apart, complete⟩
    obtain ⟨head, tail⟩ := List.isChain_cons.mp apart
    cases rest with
    | nil => exact ⟨head, fun more => absurd rfl more, areSentence_nil⟩
    | cons next others =>
      rw [List.dropLast_cons_cons, List.forall_mem_cons] at complete
      exact ⟨head, fun _ => complete.1, tail, complete.2⟩
  · rintro ⟨head, first, apart, complete⟩
    refine ⟨List.isChain_cons.mpr ⟨head, apart⟩, ?_⟩
    cases rest with
    | nil => simp
    | cons next others =>
      rw [List.dropLast_cons_cons, List.forall_mem_cons]
      exact ⟨first (List.cons_ne_nil _ _), complete⟩

theorem areSentence_separator_cons {token : Token} (separates : token.kind = .and ∨ token.kind = .or)
    (sentence : AreSentence rest) : AreSentence (.separator token separates :: rest) :=
  areSentence_cons_iff.mpr ⟨fun _ _ => .inl rfl, fun _ => trivial, sentence⟩

/-- A whole clause may stand before everything that begins with no name. -/
theorem areSentence_clause_cons {written : WrittenClause} (whole : written.value?.isSome)
    (apart : ∀ next ∈ (rest.flatMap tokens).head?, next.kind ≠ .ident) (sentence : AreSentence rest) :
    AreSentence (.clause written :: rest) := by
  refine areSentence_cons_iff.mpr ⟨fun next begins => ?_, fun _ => whole, sentence⟩
  obtain ⟨further, rfl⟩ := List.head?_eq_some_iff.mp begins
  cases next with
  | separator token separates => exact .inr rfl
  | clause other => exact absurd other.name_kind (apart _ rfl)

theorem areSentence_clause_singleton (written : WrittenClause) : AreSentence [.clause written] :=
  areSentence_cons_iff.mpr ⟨by simp, by simp, areSentence_nil⟩

theorem groups_cons (phrase : Phrase) (rest : List Phrase) :
    groups (phrase :: rest) =
      if phrase.closes then [] :: groups rest
      else (groups rest).modifyHead (phrase.clause?.toList ++ ·) := by
  unfold groups
  rw [List.splitOnP_cons_eq_if_modifyHead]
  split_ifs
  · rfl
  · obtain ⟨first, others, split⟩ := List.exists_cons_of_ne_nil (List.splitOnP_ne_nil closes rest)
    rw [split]
    cases phrase <;> rfl

/-- The groups hold all clauses in order. -/
theorem flatten_groups (phrases : List Phrase) :
    (groups phrases).flatten = phrases.filterMap clause? := by
  induction phrases with
  | nil => rfl
  | cons phrase rest ih =>
    rw [groups_cons]
    cases phrase with
    | separator token separates =>
      rw [List.filterMap_cons_none rfl, ← ih]
      split_ifs
      · rfl
      · cases groups rest <;> rfl
    | clause written =>
      have stated : (clause written).clause? = some written.clause := rfl
      rw [List.filterMap_cons_some stated, ← ih]
      obtain ⟨first, others, split⟩ : ∃ first others, groups rest = first :: others :=
        List.exists_cons_of_ne_nil (by simp [groups, List.splitOnP_ne_nil])
      rw [split]
      rfl

end Phrase

theorem Formula.flatten_ofPhrases (phrases : List Phrase) :
    (ofPhrases phrases).groups.flatten = phrases.filterMap Phrase.clause? := by
  rw [← Phrase.flatten_groups, ofPhrases, compact, List.flatten_filter_not_isEmpty]

/-! ### Sentences, token by token -/

variable {token : Token} {tokens before after : List Token}

theorem isSentence_nil : IsSentence [] :=
  ⟨[], Phrase.areSentence_nil, rfl⟩

/-- What stands at the beginning of a sentence. -/
theorem isSentence_cons_iff : IsSentence (token :: tokens) ↔
    ((token.kind = .and ∨ token.kind = .or) ∧ IsSentence tokens) ∨
      (token.kind = .ident ∧ ∃ comparison operator, comparison.kind = .operator operator ∧
        (tokens = [comparison] ∨ ∃ value rest, tokens = comparison :: value :: rest ∧
          value.kind = .ident ∧ (∀ next ∈ rest.head?, next.kind ≠ .ident) ∧ IsSentence rest)) := by
  constructor
  · rintro ⟨phrases, sentence, same⟩
    cases phrases with
    | nil => cases same
    | cons phrase rest =>
      obtain ⟨apart, complete, others⟩ := Phrase.areSentence_cons_iff.mp sentence
      cases phrase with
      | separator own separates =>
        obtain ⟨rfl, rfl⟩ := List.cons.inj same
        exact .inl ⟨separates, rest, others, rfl⟩
      | clause written =>
        obtain ⟨rfl, rfl⟩ := List.cons.inj same
        refine .inr ⟨written.name_kind, written.comparison, written.operator,
          written.comparison_kind, ?_⟩
        cases given : written.value? with
        | none =>
          -- A clause without a value is the last phrase.
          obtain rfl : rest = [] := by
            by_contra more
            simpa [Phrase.IsComplete, given] using complete more
          exact .inl rfl
        | some value =>
          refine .inr ⟨value, rest.flatMap Phrase.tokens, rfl, written.value_kind value given, ?_,
            rest, others, rfl⟩
          intro next begins
          cases rest with
          | nil => contradiction
          | cons following further =>
            cases following with
            | separator own separates =>
              obtain rfl := Option.some.inj begins
              rcases separates with kind | kind <;> simp [kind]
            | clause _ => simpa [Phrase.clause?] using apart _ rfl
  · rintro (⟨separates, phrases, sentence, rfl⟩ | ⟨name, comparison, operator, compares, ends⟩)
    · exact ⟨_, Phrase.areSentence_separator_cons separates sentence, rfl⟩
    · rcases ends with rfl | ⟨value, _, rfl, given, apart, phrases, sentence, rfl⟩
      · exact ⟨[.clause ⟨token, comparison, operator, none, name, compares, by simp⟩],
          Phrase.areSentence_clause_singleton _, rfl⟩
      · exact ⟨.clause ⟨token, comparison, operator, some value, name, compares, by simpa⟩ :: phrases,
          Phrase.areSentence_clause_cons rfl apart sentence, rfl⟩

/-- A sentence goes on after a separator as it could begin. -/
theorem isSentence_separator_cons_iff (separates : token.kind = .and ∨ token.kind = .or) :
    IsSentence (token :: tokens) ↔ IsSentence tokens := by
  rw [isSentence_cons_iff]
  constructor
  · rintro (⟨_, sentence⟩ | ⟨name, _⟩)
    · exact sentence
    · rcases separates with kind | kind <;> rw [kind] at name <;> cases name
  · exact fun sentence => .inl ⟨separates, sentence⟩

/-- After a name comes an operator, and then nothing or a value. -/
theorem isSentence_name_cons_iff (name : token.kind = .ident) :
    IsSentence (token :: tokens) ↔
      ∃ comparison operator, comparison.kind = .operator operator ∧
        (tokens = [comparison] ∨ ∃ value rest, tokens = comparison :: value :: rest ∧
          value.kind = .ident ∧ (∀ next ∈ rest.head?, next.kind ≠ .ident) ∧ IsSentence rest) := by
  rw [isSentence_cons_iff, name]
  simp

theorem isSentence_clause_append_iff {comparison value : Token} {operator : Operator}
    (name : token.kind = .ident) (compares : comparison.kind = .operator operator)
    (given : value.kind = .ident) :
    IsSentence (token :: comparison :: value :: tokens) ↔
      (∀ next ∈ tokens.head?, next.kind ≠ .ident) ∧ IsSentence tokens := by
  rw [isSentence_name_cons_iff name]
  constructor
  · rintro ⟨_, _, _, single | ⟨_, _, same, _, apart, sentence⟩⟩
    · cases single
    · cases same
      exact ⟨apart, sentence⟩
  · rintro ⟨apart, sentence⟩
    exact ⟨comparison, operator, compares, .inr ⟨value, tokens, rfl, given, apart, sentence⟩⟩

/-! ### What a sentence may begin with -/

theorem IsSentence.isViable (sentence : IsSentence tokens) : IsViable tokens :=
  ⟨[], by rwa [List.append_nil]⟩

theorem IsViable.of_append (viable : IsViable (before ++ after)) : IsViable before := by
  obtain ⟨more, sentence⟩ := viable
  exact ⟨after ++ more, by rwa [← List.append_assoc]⟩

theorem isViable_nil : IsViable [] :=
  isSentence_nil.isViable

theorem isViable_separator_cons_iff (separates : token.kind = .and ∨ token.kind = .or) :
    IsViable (token :: tokens) ↔ IsViable tokens :=
  exists_congr fun _ => isSentence_separator_cons_iff separates

theorem isViable_clause_append_iff {comparison value : Token} {operator : Operator}
    (name : token.kind = .ident) (compares : comparison.kind = .operator operator)
    (given : value.kind = .ident) (apart : ∀ next ∈ tokens.head?, next.kind ≠ .ident) :
    IsViable (token :: comparison :: value :: tokens) ↔ IsViable tokens := by
  constructor
  · rintro ⟨more, sentence⟩
    exact ⟨more, ((isSentence_clause_append_iff name compares given).mp sentence).2⟩
  · rintro ⟨more, sentence⟩
    cases tokens with
    | nil => exact ⟨[], (isSentence_clause_append_iff name compares given).mpr ⟨by simp, isSentence_nil⟩⟩
    | cons next rest =>
      exact ⟨more, (isSentence_clause_append_iff name compares given).mpr ⟨apart, sentence⟩⟩

theorem not_isViable_cons (other : ¬(token.kind = .and ∨ token.kind = .or) ∧ token.kind ≠ .ident) :
    ¬IsViable (token :: tokens) := by
  rintro ⟨more, sentence⟩
  rcases isSentence_cons_iff.mp sentence with ⟨separates, _⟩ | ⟨name, _⟩
  · exact other.1 separates
  · exact other.2 name

theorem isViable_name_operator {comparison : Token} {operator : Operator}
    (name : token.kind = .ident) (compares : comparison.kind = .operator operator) :
    IsViable [token, comparison] :=
  IsSentence.isViable ((isSentence_name_cons_iff name).mpr ⟨comparison, operator, compares, .inl rfl⟩)

/-- After a name, an operator is due. -/
theorem operatorDue_name (name : token.kind = .ident) : OperatorDue [token] :=
  ⟨⟨.operator .equal, "", 0⟩, .equal, rfl, isViable_name_operator name rfl⟩

theorem isViable_name (name : token.kind = .ident) : IsViable [token] := by
  obtain ⟨_, _, _, viable⟩ := operatorDue_name name
  exact viable.of_append

theorem not_isViable_name_cons {comparison : Token} (name : token.kind = .ident)
    (other : comparison.kind.operator? = none) : ¬IsViable (token :: comparison :: tokens) := by
  rintro ⟨more, sentence⟩
  obtain ⟨_, operator, compares, single | ⟨_, _, same, _⟩⟩ :=
    (isSentence_name_cons_iff name).mp sentence
  · rw [(List.cons.inj single).1, compares] at other
    cases other
  · rw [(List.cons.inj same).1, compares] at other
    cases other

theorem not_isViable_name_operator_cons {comparison value : Token} (name : token.kind = .ident)
    (other : value.kind ≠ .ident) : ¬IsViable (token :: comparison :: value :: tokens) := by
  rintro ⟨more, sentence⟩
  obtain ⟨_, _, _, single | ⟨_, _, same, given, _⟩⟩ := (isSentence_name_cons_iff name).mp sentence
  · cases single
  · cases same
    exact other given

/-- No operator is due where a name is. -/
theorem not_operatorDue_nil : ¬OperatorDue [] := by
  rintro ⟨comparison, operator, compares, viable⟩
  exact not_isViable_cons (by simp [compares]) viable

/-- No operator is due where a value is. -/
theorem not_operatorDue_name_operator {comparison : Token} (name : token.kind = .ident) :
    ¬OperatorDue [token, comparison] := by
  rintro ⟨second, operator, compares, viable⟩
  exact not_isViable_name_operator_cons name (by simp [compares]) viable

end Criteria
