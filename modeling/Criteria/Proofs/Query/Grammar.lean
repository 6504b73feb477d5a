import Criteria.Condition
import Mathlib.Data.List.Chain

/-! # The grammar of compiled filters

A compiled filter is empty, or groups in parentheses joined by `AND`. A group is conditions joined
by `OR`, a condition a column, a comparator and a placeholder. The grammar is given as relations
between a text and what it says, and no text says two things. A column may even be called `OR` or
`AND`, as long as there is neither a space nor a parenthesis in its name.
-/

namespace Criteria

/-- A character that is neither a space nor a parenthesis. -/
def isPlain (char : Char) : Bool :=
  char != ' ' && char != '(' && char != ')'

/-- A name that the grammar takes for a column. -/
structure IsColumn (name : String) : Prop where
  ne_empty : name ≠ ""
  plain : name.toList.all isPlain = true

instance (name : String) : Decidable (IsColumn name) :=
  decidable_of_iff ((name != "" && name.toList.all isPlain) = true) <| by
    rw [Bool.and_eq_true, bne_iff_ne]
    exact ⟨fun ⟨ne_empty, plain⟩ => ⟨ne_empty, plain⟩, fun ⟨ne_empty, plain⟩ => ⟨ne_empty, plain⟩⟩

theorem isPlain_iff {char : Char} : isPlain char = true ↔ char ≠ ' ' ∧ char ≠ '(' ∧ char ≠ ')' := by
  simp only [isPlain, Bool.and_eq_true, bne_iff_ne, and_assoc]

/-- A column and how it is compared with an argument. -/
structure Comparison where
  column : String
  comparator : Comparator
deriving DecidableEq

/-- `cond := column comparator ?` -/
inductive ReadsCondition : List Char → Comparison → Prop
  | intro {comparison : Comparison} (column : IsColumn comparison.column) :
      ReadsCondition
        (comparison.column.toList ++ ' ' :: (comparison.comparator.text.toList ++ [' ', '?'])) comparison

/-- `conds := cond (OR cond)*` -/
inductive ReadsGroup : List Char → List Comparison → Prop
  | single {text : List Char} {comparison : Comparison} (head : ReadsCondition text comparison) :
      ReadsGroup text [comparison]
  | or {text others : List Char} {comparison : Comparison} {rest : List Comparison}
      (head : ReadsCondition text comparison) (tail : ReadsGroup others rest) :
      ReadsGroup (text ++ " OR ".toList ++ others) (comparison :: rest)

/-- `groups := ( conds ) (AND ( conds ))*` -/
inductive ReadsGroups : List Char → List (List Comparison) → Prop
  | single {text : List Char} {group : List Comparison} (head : ReadsGroup text group) :
      ReadsGroups ('(' :: text ++ [')']) [group]
  | and {text others : List Char} {group : List Comparison} {rest : List (List Comparison)}
      (head : ReadsGroup text group) (tail : ReadsGroups others rest) :
      ReadsGroups ('(' :: text ++ ')' :: (" AND ".toList ++ others)) (group :: rest)

/-- `query := empty | groups` -/
inductive ReadsQuery : List Char → List (List Comparison) → Prop
  | empty : ReadsQuery [] []
  | groups {text : List Char} {groups : List (List Comparison)} (reads : ReadsGroups text groups) :
      ReadsQuery text groups

/-! ### Unique readability

Each relation is unique in what it reads and in what it leaves of a longer text. -/

section Unique

variable {text other rest remainder : List Char}

/-- A text is cut at its first space in one way only. -/
private theorem eq_of_append_space (spaceless : ' ' ∉ text) (otherSpaceless : ' ' ∉ other)
    (same : text ++ ' ' :: rest = other ++ ' ' :: remainder) : text = other ∧ rest = remainder := by
  induction text generalizing other with
  | nil =>
    cases other with
    | nil => exact ⟨rfl, (List.cons.inj same).2⟩
    | cons char other =>
      have first : ' ' = char := (List.cons.inj same).1
      exact absurd (first ▸ List.mem_cons_self) otherSpaceless
  | cons char text ih =>
    cases other with
    | nil =>
      have first : char = ' ' := (List.cons.inj same).1
      exact absurd (first ▸ List.mem_cons_self) spaceless
    | cons next other =>
      obtain ⟨rfl, tails⟩ := List.cons.inj same
      obtain ⟨rfl, rests⟩ := ih (fun member => spaceless (List.mem_cons_of_mem _ member))
        (fun member => otherSpaceless (List.mem_cons_of_mem _ member)) tails
      exact ⟨rfl, rests⟩

/-- No comparator, with the placeholder after it, starts another one. -/
theorem Comparator.eq_of_append {first second : Comparator}
    (same : first.text.toList ++ [' ', '?'] ++ rest = second.text.toList ++ [' ', '?'] ++ remainder) :
    first = second ∧ rest = remainder := by
  by_cases equal : first = second
  · subst equal
    exact ⟨rfl, List.append_cancel_left same⟩
  · cases first <;> cases second <;> simp [Comparator.text] at same equal

theorem IsColumn.space_not_mem {name : String} (column : IsColumn name) : ' ' ∉ name.toList :=
  fun member => absurd (List.all_eq_true.mp column.plain ' ' member) (by decide)

theorem ReadsCondition.unique {first second : Comparison} (reads : ReadsCondition text first)
    (otherReads : ReadsCondition other second) (same : text ++ rest = other ++ remainder) :
    first = second ∧ rest = remainder := by
  obtain ⟨column⟩ := reads
  obtain ⟨otherColumn⟩ := otherReads
  rw [List.append_assoc, List.append_assoc] at same
  obtain ⟨columns, comparators⟩ :=
    eq_of_append_space column.space_not_mem otherColumn.space_not_mem same
  obtain ⟨comparator, rests⟩ := Comparator.eq_of_append comparators
  refine ⟨?_, rests⟩
  obtain ⟨name, _⟩ := first
  obtain ⟨otherName, _⟩ := second
  cases comparator
  cases String.toList_injective columns
  rfl

theorem ReadsGroup.unique {first second : List Comparison} (reads : ReadsGroup text first)
    (otherReads : ReadsGroup other second) (same : text ++ ')' :: rest = other ++ ')' :: remainder) :
    first = second ∧ rest = remainder := by
  induction reads generalizing other second with
  | single head =>
    cases otherReads with
    | single otherHead =>
      obtain ⟨rfl, rests⟩ := head.unique otherHead same
      exact ⟨rfl, (List.cons.inj rests).2⟩
    | or otherHead _ =>
      -- After equal conditions, one text closes its parenthesis and the other goes on.
      rw [List.append_assoc, List.append_assoc] at same
      obtain ⟨_, absurdity⟩ := head.unique otherHead same
      simp at absurdity
  | or head _ ih =>
    rw [List.append_assoc, List.append_assoc] at same
    cases otherReads with
    | single otherHead =>
      obtain ⟨_, absurdity⟩ := head.unique otherHead same
      simp at absurdity
    | or otherHead otherTail =>
      rw [List.append_assoc, List.append_assoc] at same
      obtain ⟨rfl, tails⟩ := head.unique otherHead same
      obtain ⟨rfl, rests⟩ := ih otherTail (List.append_cancel_left tails)
      exact ⟨rfl, rests⟩

theorem ReadsGroups.unique {first second : List (List Comparison)} (reads : ReadsGroups text first)
    (otherReads : ReadsGroups other second) (same : text = other) : first = second := by
  induction reads generalizing other second with
  | single head =>
    cases otherReads with
    | single otherHead =>
      obtain ⟨rfl, _⟩ := head.unique otherHead (List.cons.inj same).2
      rfl
    | and otherHead _ =>
      obtain ⟨_, absurdity⟩ := head.unique otherHead (List.cons.inj same).2
      simp at absurdity
  | and head _ ih =>
    cases otherReads with
    | single otherHead =>
      obtain ⟨_, absurdity⟩ := head.unique otherHead (List.cons.inj same).2
      simp at absurdity
    | and otherHead otherTail =>
      obtain ⟨rfl, tails⟩ := head.unique otherHead (List.cons.inj same).2
      cases ih otherTail (List.append_cancel_left tails)
      rfl

theorem ReadsGroups.ne_nil {groups : List (List Comparison)} (reads : ReadsGroups text groups) :
    text ≠ [] := by
  cases reads <;> exact List.cons_ne_nil _ _

/-- A text has at most one reading. -/
theorem ReadsQuery.unique {first second : List (List Comparison)} (reads : ReadsQuery text first)
    (otherReads : ReadsQuery text second) : first = second := by
  cases reads with
  | empty =>
    cases otherReads with
    | empty => rfl
    | groups otherReads => exact absurd rfl otherReads.ne_nil
  | groups reads =>
    cases otherReads with
    | empty => exact absurd rfl reads.ne_nil
    | groups otherReads => exact reads.unique otherReads rfl

end Unique

/-! ### Gaps

In a text with a reading, every parenthesis and every space has something next to it. What is read
is built of words, by spaces between them and parentheses around them, and neither leaves a gap.
-/

/-- Something is missing between the two characters. -/
def IsGap (before after : Char) : Prop :=
  (before = '(' ∨ before = ' ') ∧ (after = ')' ∨ after = ' ')

/-- A text without gaps that can have others before and after it. -/
structure IsWhole (text : List Char) : Prop where
  ne_nil : text ≠ []
  chain : text.IsChain fun before after => ¬ IsGap before after
  head : ∀ char ∈ text.head?, char ≠ ')' ∧ char ≠ ' '
  last : ∀ char ∈ text.getLast?, char ≠ '(' ∧ char ≠ ' '

namespace IsWhole

variable {text other : List Char}

/-- A text without spaces and parentheses. -/
theorem of_plain (ne_nil : text ≠ []) (plain : text.all isPlain = true) : IsWhole text := by
  have facts : ∀ char ∈ text, char ≠ ' ' ∧ char ≠ '(' ∧ char ≠ ')' := fun char member =>
    isPlain_iff.mp (List.all_eq_true.mp plain char member)
  refine ⟨ne_nil, ?_, ?_, ?_⟩
  · apply List.Pairwise.isChain
    apply List.pairwise_of_forall_mem_list
    rintro before member _ _ ⟨opening | space, _⟩
    · exact (facts before member).2.1 opening
    · exact (facts before member).1 space
  · intro char first
    obtain ⟨space, _, closing⟩ := facts char (List.mem_of_mem_head? first)
    exact ⟨closing, space⟩
  · intro char final
    obtain ⟨space, opening, _⟩ := facts char (List.mem_of_getLast? final)
    exact ⟨opening, space⟩

/-- Two texts with a space between them. -/
theorem spaced (whole : IsWhole text) (otherWhole : IsWhole other) :
    IsWhole (text ++ ' ' :: other) where
  ne_nil := by simp
  chain := by
    refine List.isChain_append.mpr ⟨whole.chain, ?_, ?_⟩
    · refine List.isChain_cons.mpr ⟨?_, otherWhole.chain⟩
      intro after first gap
      obtain ⟨closing, space⟩ := otherWhole.head after first
      exact gap.2.elim closing space
    · rintro before final _ _ gap
      obtain ⟨opening, space⟩ := whole.last before final
      exact gap.1.elim opening space
  head := by
    rw [List.head?_append_of_ne_nil _ whole.ne_nil]
    exact whole.head
  last := by
    rw [List.getLast?_append_of_ne_nil _ (List.cons_ne_nil _ _),
      List.getLast?_cons_of_ne_nil otherWhole.ne_nil]
    exact otherWhole.last

/-- A text in parentheses. -/
theorem parenthesized (whole : IsWhole text) : IsWhole ('(' :: text ++ [')']) where
  ne_nil := List.cons_ne_nil _ _
  chain := by
    refine List.isChain_append.mpr ⟨?_, List.isChain_singleton _, ?_⟩
    · refine List.isChain_cons.mpr ⟨?_, whole.chain⟩
      intro after first gap
      obtain ⟨closing, space⟩ := whole.head after first
      exact gap.2.elim closing space
    · rintro before final _ _ gap
      rw [List.getLast?_cons_of_ne_nil whole.ne_nil] at final
      obtain ⟨opening, space⟩ := whole.last before final
      exact gap.1.elim opening space
  head := by simp
  last := by
    rw [List.getLast?_concat]
    simp

end IsWhole

theorem Comparator.isWhole_text (comparator : Comparator) : IsWhole comparator.text.toList := by
  cases comparator with
  | notLike =>
    have negation : IsWhole "NOT".toList := .of_plain (by decide) (by decide)
    exact negation.spaced (.of_plain (by decide) (by decide))
  | equal | notEqual | like | greater | less | atLeast | atMost =>
    exact .of_plain (by decide) (by decide)

section Gaps

variable {text : List Char}

theorem ReadsCondition.isWhole {comparison : Comparison} (reads : ReadsCondition text comparison) :
    IsWhole text := by
  obtain ⟨column⟩ := reads
  have name : IsWhole comparison.column.toList :=
    .of_plain (fun nil => column.ne_empty (String.toList_eq_nil_iff.mp nil)) column.plain
  have mark : IsWhole ['?'] := .of_plain (by decide) (by decide)
  exact name.spaced (comparison.comparator.isWhole_text.spaced mark)

theorem ReadsGroup.isWhole {group : List Comparison} (reads : ReadsGroup text group) :
    IsWhole text := by
  induction reads with
  | single head => exact head.isWhole
  | or head _ ih =>
    have connective : IsWhole "OR".toList := .of_plain (by decide) (by decide)
    rw [List.append_assoc]
    exact head.isWhole.spaced (connective.spaced ih)

theorem ReadsGroups.isWhole {groups : List (List Comparison)} (reads : ReadsGroups text groups) :
    IsWhole text := by
  induction reads with
  | single head => exact head.isWhole.parenthesized
  | and head _ ih =>
    have connective : IsWhole "AND".toList := .of_plain (by decide) (by decide)
    have whole := head.isWhole.parenthesized.spaced (connective.spaced ih)
    rwa [List.append_assoc] at whole

/-- Whatever is read, there is a placeholder in it. -/
theorem ReadsGroups.placeholder_mem {groups : List (List Comparison)}
    (reads : ReadsGroups text groups) : '?' ∈ text := by
  have condition {text : List Char} {comparison : Comparison}
      (reads : ReadsCondition text comparison) : '?' ∈ text := by
    obtain ⟨_⟩ := reads
    simp
  have group {text : List Char} {group : List Comparison} (reads : ReadsGroup text group) :
      '?' ∈ text := by
    cases reads with
    | single head => exact condition head
    | or head _ =>
      rw [List.append_assoc]
      exact List.mem_append_left _ (condition head)
  cases reads with
  | single head | and head _ =>
    exact List.mem_append_left _ (List.mem_cons_of_mem _ (group head))

/-- In a text with a reading no parentheses are empty, and no connective is without a side. -/
theorem ReadsQuery.gapless {reading : List (List Comparison)} (reads : ReadsQuery text reading) :
    (∀ gap ∈ ["()", "( ", " )", "  "], ¬ gap.toList <:+: text) ∧ ¬ [' '] <+: text ∧
      ¬ [' '] <:+ text := by
  cases reads with
  | empty => decide
  | groups reads =>
    have whole := reads.isWhole
    refine ⟨?_, ?_, ?_⟩
    · intro gap member inside
      have chain := whole.chain.infix inside
      revert chain
      revert gap
      simp [IsGap]
    · rintro ⟨rest, starts⟩
      exact (whole.head ' ' (by simp [← starts])).2 rfl
    · rintro ⟨rest, ends⟩
      exact (whole.last ' ' (by simp [← ends])).2 rfl

end Gaps

end Criteria
