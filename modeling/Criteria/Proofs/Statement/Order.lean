import Criteria.Statement.Order
import Mathlib.Data.List.TakeWhile

/-! # The language of sort orders

A sort order is valid if each of its parts between commas is a column, with its table or without,
possibly followed by a direction, with spaces around. `isTerm_iff` says that exactly these parts are
accepted. A valid sort order has nothing in it but word characters, dots, spaces and commas. It is
emitted verbatim, so nothing else can get into a statement through it.
-/

namespace List

/-- Of a divided text only the separators are missing. -/
theorem flatten_splitOn (separator : Char) (text : List Char) :
    (text.splitOn separator).flatten = text.filter (· ≠ separator) := by
  induction text with
  | nil => simp
  | cons char rest ih =>
    obtain ⟨first, others, split⟩ := exists_cons_of_ne_nil (splitOn_ne_nil separator rest)
    rw [split, flatten_cons] at ih
    by_cases separates : char = separator
    · simpa [splitOn_cons_eq_if_modifyHead, split, separates] using ih
    · simpa [splitOn_cons_eq_if_modifyHead, split, separates] using ih

/-- Nothing is dropped beyond the first item that is to be kept. -/
theorem dropWhile_append_of_head {α : Type} {dropped : α → Bool} {front rest : List α}
    (all : ∀ item ∈ front, dropped item = true)
    (stops : ∀ item ∈ rest.head?, dropped item = false) :
    (front ++ rest).dropWhile dropped = rest := by
  rw [dropWhile_append_of_pos all]
  cases rest with
  | nil => rfl
  | cons item others => exact dropWhile_cons_of_neg (by simp [stops item rfl])

end List

namespace Criteria.Order

variable {text rest : List Char} {char : Char}

/-! ### Spaces -/

/-- Any number of spaces, and nothing else. -/
def AreSpaces (text : List Char) : Prop :=
  ∀ char ∈ text, char = ' '

theorem AreSpaces.append {front back : List Char} (first : AreSpaces front)
    (second : AreSpaces back) : AreSpaces (front ++ back) := by
  intro char member
  exact (List.mem_append.mp member).elim (first char) (second char)

/-- The spaces in front of a text and the text after them. -/
theorem exists_spaces (text : List Char) :
    ∃ spaces, AreSpaces spaces ∧ text = spaces ++ afterSpaces text :=
  ⟨text.takeWhile (· = ' '), fun _ member => by simpa using List.mem_takeWhile_imp member,
    List.takeWhile_append_dropWhile.symm⟩

theorem AreSpaces.eq_space_of_mem_head? {spaces : List Char} (blank : AreSpaces spaces)
    (first : char ∈ spaces.head?) : char = ' ' :=
  blank char (List.mem_of_mem_head? first)

/-! ### Words, columns and terms -/

variable [Text.WordClass]

/-- At least one word character, and nothing else. -/
def IsWord (text : List Char) : Prop :=
  text ≠ [] ∧ ∀ char ∈ text, Text.isWord char = true

/-- A column, with its table and a dot before it or without. -/
inductive NamesColumn : List Char → Prop
  | plain {column : List Char} (word : IsWord column) : NamesColumn column
  | qualified {table column : List Char} (tableWord : IsWord table) (columnWord : IsWord column) :
      NamesColumn (table ++ '.' :: column)

/-- What may follow a column: nothing, or at least one space and a direction. -/
inductive GivesDirection : List Char → Prop
  | missing : GivesDirection []
  | given {gap direction : List Char} (spaces : AreSpaces gap) (apart : gap ≠ [])
      (word : IsWord direction) : GivesDirection (gap ++ direction)

/-- A part of a valid sort order. -/
inductive IsTerm : List Char → Prop
  | spaced {before column direction after : List Char} (spacesBefore : AreSpaces before)
      (names : NamesColumn column) (directs : GivesDirection direction)
      (spacesAfter : AreSpaces after) : IsTerm (before ++ (column ++ (direction ++ after)))

/-! ### Words -/

theorem not_isWord_space : Text.isWord ' ' = false :=
  Text.isWord_of_ascii (by decide)

theorem not_isWord_dot : Text.isWord '.' = false :=
  Text.isWord_of_ascii (by decide)

theorem afterSpaces_append {spaces : List Char} (blank : AreSpaces spaces)
    (stops : ∀ char ∈ rest.head?, Text.isWord char = true) :
    afterSpaces (spaces ++ rest) = rest := by
  refine List.dropWhile_append_of_head (fun char member => decide_eq_true (blank char member)) ?_
  intro char first
  refine decide_eq_false ?_
  rintro rfl
  exact Bool.false_ne_true (not_isWord_space.symm.trans (stops ' ' first))

theorem IsWord.append {front back : List Char} (word : IsWord front)
    (more : ∀ char ∈ back, Text.isWord char = true) : IsWord (front ++ back) := by
  refine ⟨by simp [word.1], fun char member => ?_⟩
  exact (List.mem_append.mp member).elim (word.2 char) (more char)

theorem exists_of_afterWord? (found : afterWord? text = some rest) :
    ∃ word, IsWord word ∧ text = word ++ rest := by
  cases text with
  | nil => contradiction
  | cons first others =>
    simp only [afterWord?, Option.ite_none_right_eq_some, Option.some.injEq] at found
    obtain ⟨isWord, rfl⟩ := found
    refine ⟨first :: others.takeWhile Text.isWord, ⟨List.cons_ne_nil _ _, ?_⟩, ?_⟩
    · exact List.forall_mem_cons.mpr ⟨isWord, fun _ => List.mem_takeWhile_imp⟩
    · rw [List.cons_append, List.takeWhile_append_dropWhile]

theorem afterWord?_append {word : List Char} (isWord : IsWord word)
    (stops : ∀ char ∈ rest.head?, Text.isWord char = false) : afterWord? (word ++ rest) = some rest := by
  obtain ⟨ne_nil, all⟩ := isWord
  cases word with
  | nil => contradiction
  | cons first others =>
    obtain ⟨isFirst, more⟩ := List.forall_mem_cons.mp all
    simp [afterWord?, isFirst, List.dropWhile_append_of_head more stops]

/-! ### Columns -/

/-- A column goes on as long as word characters follow. -/
theorem NamesColumn.append {column more : List Char} (names : NamesColumn column)
    (word : ∀ char ∈ more, Text.isWord char = true) : NamesColumn (column ++ more) := by
  cases names with
  | plain column => exact .plain (column.append word)
  | qualified table column =>
    rw [List.append_assoc]
    exact .qualified table (column.append word)

theorem exists_of_afterColumn? (found : afterColumn? text = some rest) :
    ∃ column, NamesColumn column ∧ text = column ++ rest := by
  unfold afterColumn? at found
  split at found
  · rename_i after isTable
    obtain ⟨table, tableWord, rfl⟩ := exists_of_afterWord? isTable
    obtain ⟨column, columnWord, rfl⟩ := exists_of_afterWord? found
    exact ⟨table ++ '.' :: column, .qualified tableWord columnWord, by simp⟩
  · obtain ⟨column, columnWord, rfl⟩ := exists_of_afterWord? found
    exact ⟨column, .plain columnWord, rfl⟩

theorem afterColumn?_append {column : List Char} (names : NamesColumn column)
    (stops : ∀ char ∈ rest.head?, Text.isWord char = false ∧ char ≠ '.') :
    afterColumn? (column ++ rest) = some rest := by
  have wordStops : ∀ char ∈ rest.head?, Text.isWord char = false :=
    fun char first => (stops char first).1
  cases names with
  | plain word =>
    have after := afterWord?_append word wordStops
    unfold afterColumn?
    split
    · rename_i other found
      obtain rfl := Option.some.inj (after.symm.trans found)
      exact absurd rfl (stops '.' rfl).2
    · exact after
  | @qualified table column tableWord columnWord =>
    have afterTable : afterWord? (table ++ '.' :: (column ++ rest)) = some ('.' :: (column ++ rest)) := by
      refine afterWord?_append tableWord ?_
      rintro _ ⟨⟩
      exact not_isWord_dot
    rw [List.append_assoc, List.cons_append, afterColumn?, afterTable]
    exact afterWord?_append columnWord wordStops

theorem IsWord.isWord_of_mem_head? {word : List Char} (isWord : IsWord word)
    (first : char ∈ (word ++ rest).head?) : Text.isWord char = true := by
  obtain ⟨ne_nil, all⟩ := isWord
  cases word with
  | nil => contradiction
  | cons head others =>
    obtain rfl : head = char := Option.some.inj first
    exact all head List.mem_cons_self

theorem NamesColumn.isWord_of_mem_head? {column : List Char} (names : NamesColumn column)
    (first : char ∈ (column ++ rest).head?) : Text.isWord char = true := by
  cases names with
  | plain word => exact word.isWord_of_mem_head? first
  | qualified table =>
    rw [List.append_assoc] at first
    exact table.isWord_of_mem_head? first

theorem NamesColumn.mem {column : List Char} (names : NamesColumn column) (member : char ∈ column) :
    Text.isWord char = true ∨ char = '.' := by
  cases names with
  | plain word => exact .inl (word.2 char member)
  | qualified table column =>
    rcases List.mem_append.mp member with inTable | member
    · exact .inl (table.2 char inTable)
    · exact (List.mem_cons.mp member).elim .inr fun inColumn => .inl (column.2 char inColumn)

/-! ### Terms -/

theorem AreSpaces.afterSpaces_eq_nil {spaces : List Char} (blank : AreSpaces spaces) :
    afterSpaces spaces = [] := by
  have nothing : afterSpaces (spaces ++ []) = [] := afterSpaces_append blank (by simp)
  rwa [List.append_nil] at nothing

/-- What follows a column begins with a space. -/
theorem GivesDirection.eq_space_of_mem_head? {direction after : List Char}
    (directs : GivesDirection direction) (blank : AreSpaces after)
    (first : char ∈ (direction ++ after).head?) : char = ' ' := by
  cases directs with
  | missing => exact blank.eq_space_of_mem_head? first
  | @given gap direction spaces apart word =>
    cases gap with
    | nil => contradiction
    | cons head others =>
      obtain rfl : head = char := Option.some.inj first
      exact spaces head List.mem_cons_self

/-- Word characters may follow a column directly, as more of its name, and spaces need not separate
it from anything. -/
theorem IsTerm.of_parts {before column gap direction after : List Char}
    (spacesBefore : AreSpaces before) (names : NamesColumn column) (spaces : AreSpaces gap)
    (word : ∀ char ∈ direction, Text.isWord char = true) (spacesAfter : AreSpaces after) :
    IsTerm (before ++ (column ++ (gap ++ (direction ++ after)))) := by
  by_cases missing : direction = []
  · -- The spaces in front of it then belong to those at the end.
    subst missing
    change IsTerm (before ++ (column ++ ([] ++ (gap ++ after))))
    exact .spaced spacesBefore names .missing (spaces.append spacesAfter)
  · by_cases joined : gap = []
    · -- Nothing separates the two, so what is meant as a direction is more of the column's name.
      subst joined
      rw [List.nil_append, ← List.append_assoc column]
      exact .spaced spacesBefore (names.append word) .missing spacesAfter
    · rw [← List.append_assoc gap]
      exact .spaced spacesBefore names (.given spaces joined ⟨missing, word⟩) spacesAfter

theorem IsTerm.accepted (term : IsTerm text) : isTerm text = true := by
  cases term with
  | @spaced before column direction after spacesBefore names directs spacesAfter =>
    have column : afterColumn? (afterSpaces (before ++ (column ++ (direction ++ after)))) =
        some (direction ++ after) := by
      rw [afterSpaces_append spacesBefore]
      · refine afterColumn?_append names fun char first => ?_
        obtain rfl := directs.eq_space_of_mem_head? spacesAfter first
        exact ⟨not_isWord_space, by decide⟩
      · exact fun _ => names.isWord_of_mem_head?
    rw [isTerm, column]
    refine List.isEmpty_iff.mpr ?_
    cases directs with
    | missing =>
      rw [List.nil_append, spacesAfter.afterSpaces_eq_nil]
      rfl
    | @given gap direction spaces _ word =>
      have gapped : afterSpaces (gap ++ (direction ++ after)) = direction ++ after :=
        afterSpaces_append spaces fun _ => word.isWord_of_mem_head?
      have directed : (direction ++ after).dropWhile Text.isWord = after := by
        refine List.dropWhile_append_of_head word.2 fun char first => ?_
        obtain rfl := spacesAfter.eq_space_of_mem_head? first
        exact not_isWord_space
      rw [List.append_assoc, gapped, directed, spacesAfter.afterSpaces_eq_nil]

/-- A part is accepted exactly if it is a term. -/
theorem isTerm_iff : isTerm text = true ↔ IsTerm text := by
  constructor
  · intro accepted
    obtain ⟨before, spacesBefore, split⟩ := exists_spaces text
    cases found : afterColumn? (afterSpaces text) with
    | none => simp [isTerm, found] at accepted
    | some rest =>
      obtain ⟨column, names, afterColumn⟩ := exists_of_afterColumn? found
      obtain ⟨gap, spaces, afterGap⟩ := exists_spaces rest
      obtain ⟨after, spacesAfter, atEnd⟩ := exists_spaces ((afterSpaces rest).dropWhile Text.isWord)
      simp only [isTerm, found, List.isEmpty_iff] at accepted
      -- What is skipped as a word is the direction, if there is one; only spaces follow.
      have direction : afterSpaces rest = (afterSpaces rest).takeWhile Text.isWord ++ after := by
        rw [accepted, List.append_nil] at atEnd
        rw [← atEnd, List.takeWhile_append_dropWhile]
      rw [split, afterColumn, afterGap, direction]
      exact .of_parts spacesBefore names spaces (fun _ => List.mem_takeWhile_imp) spacesAfter
  · exact IsTerm.accepted

instance : DecidablePred IsTerm :=
  fun _ => decidable_of_iff _ isTerm_iff

theorem IsTerm.mem (term : IsTerm text) (member : char ∈ text) :
    Text.isWord char = true ∨ char = '.' ∨ char = ' ' := by
  cases term with
  | spaced spacesBefore names directs spacesAfter =>
    rcases List.mem_append.mp member with inFront | member
    · exact .inr (.inr (spacesBefore char inFront))
    rcases List.mem_append.mp member with inColumn | member
    · exact (names.mem inColumn).imp id .inl
    rcases List.mem_append.mp member with inDirection | atEnd
    · cases directs with
      | missing => contradiction
      | given spaces _ word =>
        rcases List.mem_append.mp inDirection with inGap | inWord
        · exact .inr (.inr (spaces char inGap))
        · exact .inl (word.2 char inWord)
    · exact .inr (.inr (spacesAfter char atEnd))

theorem IsTerm.ne_nil (term : IsTerm text) : text ≠ [] := by
  rintro rfl
  have accepted := term.accepted
  contradiction

/-! ### Sort orders -/

theorem firstInvalid?_eq_none_iff {order : String} :
    firstInvalid? order = none ↔ ∀ term ∈ terms order, IsTerm term := by
  simp [firstInvalid?, isTerm_iff]

theorem firstInvalid?_eq_some_iff {order part : String} :
    firstInvalid? order = some part ↔
      ∃ front term back, terms order = front ++ term :: back ∧ (∀ valid ∈ front, IsTerm valid) ∧
        ¬IsTerm term ∧ part = String.ofList term := by
  simp only [firstInvalid?, Option.map_eq_some_iff, List.find?_eq_some_iff_append, Bool.not_not,
    Bool.not_eq_eq_eq_not, Bool.not_true, isTerm_iff, ← Bool.not_eq_true]
  constructor
  · rintro ⟨term, ⟨invalid, front, back, divided, valid⟩, rfl⟩
    exact ⟨front, term, back, divided, valid, invalid, rfl⟩
  · rintro ⟨front, term, back, divided, valid, invalid, rfl⟩
    exact ⟨term, ⟨invalid, front, back, divided, valid⟩, rfl⟩

/-- A sort order without an invalid part has no other characters in it. -/
theorem mem_of_firstInvalid? {order : String} (valid : firstInvalid? order = none)
    (member : char ∈ order.toList) :
    Text.isWord char = true ∨ char = '.' ∨ char = ' ' ∨ char = ',' := by
  by_cases comma : char = ','
  · exact .inr (.inr (.inr comma))
  · have inside : char ∈ (terms order).flatten := by
      rw [terms, List.flatten_splitOn, List.mem_filter]
      exact ⟨member, by simpa using comma⟩
    obtain ⟨term, among, written⟩ := List.mem_flatten.mp inside
    have valid := firstInvalid?_eq_none_iff.mp valid term among
    exact (valid.mem written).imp id (.imp id .inl)

end Criteria.Order
