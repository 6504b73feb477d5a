import Mathlib.Data.List.Basic
import Mathlib.Data.List.Infix

/-! # Patterns of `LIKE`

In a pattern `%` stands for any text, `_` for any character, and a backslash takes the special
meaning from the character after it; at the end of the pattern it stands for itself. All other
characters stand for themselves, so a value without special characters is looked for as it is.
-/

namespace Criteria.Like

/-- The characters that mean something else than themselves in a pattern. -/
def specials : List Char :=
  ['%', '_', '\\']

/-- Every character of the text stands for itself in a pattern. -/
def IsVerbatim (text : List Char) : Prop :=
  ∀ char ∈ text, char ∉ specials

-- Inference could also find the instance that goes through all characters there are.
instance (text : List Char) : Decidable (IsVerbatim text) :=
  List.decidableBAll (· ∉ specials) text

/-- A text is one of those that a pattern stands for. -/
inductive Matches : List Char → List Char → Prop
  | nil : Matches [] []
  | sequence (skipped : List Char) {pattern text : List Char} (rest : Matches pattern text) :
      Matches ('%' :: pattern) (skipped ++ text)
  | single (char : Char) {pattern text : List Char} (rest : Matches pattern text) :
      Matches ('_' :: pattern) (char :: text)
  | escaped (char : Char) {pattern text : List Char} (rest : Matches pattern text) :
      Matches ('\\' :: char :: pattern) (char :: text)
  | backslash : Matches ['\\'] ['\\']
  | verbatim {char : Char} (plain : char ∉ specials) {pattern text : List Char}
      (rest : Matches pattern text) : Matches (char :: pattern) (char :: text)

variable {char : Char} {value pattern text : List Char}

theorem matches_nil_iff : Matches [] text ↔ text = [] := by
  constructor
  · rintro ⟨⟩
    rfl
  · rintro rfl
    exact .nil

theorem matches_sequence_iff :
    Matches ('%' :: pattern) text ↔ ∃ rest, rest <:+ text ∧ Matches pattern rest := by
  constructor
  · intro holds
    cases holds with
    | sequence skipped rest => exact ⟨_, List.suffix_append skipped _, rest⟩
    | verbatim plain => exact absurd (by decide) plain
  · rintro ⟨_, ⟨skipped, rfl⟩, rest⟩
    exact .sequence skipped rest

theorem matches_backslash_iff : Matches ['\\'] text ↔ text = ['\\'] := by
  constructor
  · intro holds
    cases holds with
    | backslash => rfl
    | verbatim plain => exact absurd (by decide) plain
  · rintro rfl
    exact .backslash

/-- Any text will do at the end of a pattern that is open there. -/
theorem matches_open (text : List Char) : Matches ['%'] text := by
  have all : Matches ['%'] (text ++ []) := .sequence text .nil
  rwa [List.append_nil] at all

theorem matches_cons_iff (plain : char ∉ specials) :
    Matches (char :: pattern) text ↔ ∃ rest, text = char :: rest ∧ Matches pattern rest := by
  constructor
  · intro holds
    cases holds with
    | verbatim _ rest => exact ⟨_, rfl, rest⟩
    | sequence | single | escaped | backslash => exact absurd (by decide) plain
  · rintro ⟨_, rfl, rest⟩
    exact .verbatim plain rest

theorem isVerbatim_cons_iff :
    IsVerbatim (char :: value) ↔ char ∉ specials ∧ IsVerbatim value :=
  List.forall_mem_cons

/-- A value without special characters is looked for as it is. -/
theorem matches_append_iff (verbatim : IsVerbatim value) :
    Matches (value ++ pattern) text ↔ ∃ rest, text = value ++ rest ∧ Matches pattern rest := by
  induction value generalizing text with
  | nil => simp
  | cons char value ih =>
    obtain ⟨plain, others⟩ := isVerbatim_cons_iff.mp verbatim
    rw [List.cons_append, matches_cons_iff plain]
    constructor
    · rintro ⟨_, rfl, rest⟩
      obtain ⟨after, rfl, matched⟩ := (ih others).mp rest
      exact ⟨after, rfl, matched⟩
    · rintro ⟨after, rfl, matched⟩
      exact ⟨value ++ after, rfl, (ih others).mpr ⟨after, rfl, matched⟩⟩

/-! ### Doubled wildcards -/

/-- The text with each `%` twice. -/
def doubled (value : List Char) : List Char :=
  value.flatMap fun char => if char = '%' then ['%', '%'] else [char]

theorem doubled_cons_of_ne (other : char ≠ '%') (value : List Char) :
    doubled (char :: value) = char :: doubled value := by
  simp [doubled, other]

theorem IsVerbatim.doubled_eq (verbatim : IsVerbatim value) : doubled value = value := by
  induction value with
  | nil => rfl
  | cons char value ih =>
    obtain ⟨plain, others⟩ := isVerbatim_cons_iff.mp verbatim
    rw [doubled_cons_of_ne, ih others]
    rintro rfl
    exact plain (by decide)

/-- The end of a pattern is closed, or open for any text. -/
def IsEnding (ending : List Char) : Prop :=
  ending = [] ∨ ending = ['%']

variable {ending : List Char}

/-- A character in front that is no backslash adds itself, another one, or nothing to the text. -/
private theorem exists_first (other : char ≠ '\\')
    (matched : Matches (doubled value ++ ending) text) :
    ∃ first, Matches (doubled (char :: value) ++ ending) (first ++ text) ∧ first.length ≤ 1 ∧
      (char ∈ specials → first ≠ [char]) := by
  by_cases sequence : char = '%'
  · subst sequence
    exact ⟨[], .sequence [] (.sequence [] matched), by decide, fun _ => by decide⟩
  · rw [doubled_cons_of_ne sequence]
    by_cases single : char = '_'
    · subst single
      exact ⟨['a'], .single 'a' matched, by decide, fun _ => by decide⟩
    · have plain : char ∉ specials := by simp [specials, sequence, single, other]
      exact ⟨[char], .verbatim plain matched, by simp, fun special => absurd special plain⟩

/-- A character after a backslash adds itself to the text, even if it is a doubled `%`. -/
private theorem matches_doubled_backslash_cons (char : Char)
    (matched : Matches (doubled value ++ ending) text) :
    Matches (doubled ('\\' :: char :: value) ++ ending) (char :: text) := by
  rw [doubled_cons_of_ne (by decide)]
  by_cases sequence : char = '%'
  · subst sequence
    exact .escaped '%' (.sequence [] matched)
  · rw [doubled_cons_of_ne sequence]
    exact .escaped char matched

/-- A value stands for a text that is no longer than the value. -/
private theorem exists_short_match (isEnding : IsEnding ending) (value : List Char) :
    ∃ text, Matches (doubled value ++ ending) text ∧ text.length ≤ value.length := by
  -- A backslash takes the next character with it, so the recursion may step over two at once.
  match value with
  | [] =>
    rcases isEnding with rfl | rfl
    · exact ⟨[], .nil, le_rfl⟩
    · exact ⟨[], matches_open [], le_rfl⟩
  | char :: value =>
    by_cases escape : char = '\\'
    · subst escape
      match value with
      | [] =>
        rcases isEnding with rfl | rfl
        · exact ⟨['\\'], .backslash, le_rfl⟩
        · exact ⟨['%'], .escaped '%' .nil, le_rfl⟩
      | next :: rest =>
        obtain ⟨text, matched, short⟩ := exists_short_match isEnding rest
        refine ⟨next :: text, matches_doubled_backslash_cons next matched, ?_⟩
        simp only [List.length_cons]
        omega
    · obtain ⟨text, matched, short⟩ := exists_short_match isEnding value
      obtain ⟨first, longer, small, _⟩ := exists_first escape matched
      refine ⟨first ++ text, longer, ?_⟩
      simp only [List.length_append, List.length_cons]
      omega
termination_by value.length

/-! ### Misreadings

A text that contains a value and is no longer than the value is the value itself. A misreading that
is no longer therefore refutes all three searches at once, wherever they look.
-/

/-- A text that the value stands for, though it is another one and no longer than the value. -/
structure IsMisreading (ending value text : List Char) : Prop where
  matched : Matches (doubled value ++ ending) text
  short : text.length ≤ value.length
  differs : text ≠ value

/-- A special character in front that is no backslash is read as something else than itself. -/
private theorem exists_misreading_of_wildcard (isEnding : IsEnding ending) (special : char ∈ specials)
    (other : char ≠ '\\') (value : List Char) : ∃ text, IsMisreading ending (char :: value) text := by
  obtain ⟨text, matched, short⟩ := exists_short_match isEnding value
  obtain ⟨first, longer, small, changed⟩ := exists_first other matched
  refine ⟨first ++ text, longer, ?_, ?_⟩
  · simp only [List.length_append, List.length_cons]
    omega
  · intro same
    cases first with
    | nil =>
      obtain rfl : text = char :: value := same
      exact absurd short (Nat.not_succ_le_self _)
    | cons head rest =>
      obtain rfl : rest = [] := List.length_eq_zero_iff.mp (by simpa using small)
      obtain ⟨rfl, _⟩ := List.cons.inj same
      exact changed special rfl

/-- A backslash in front of a character is not read at all. -/
private theorem exists_misreading_of_backslash (isEnding : IsEnding ending) (next : Char)
    (rest : List Char) : ∃ text, IsMisreading ending ('\\' :: next :: rest) text := by
  obtain ⟨text, matched, short⟩ := exists_short_match isEnding rest
  have shorter : (next :: text).length < ('\\' :: next :: rest).length := by
    simp only [List.length_cons]
    omega
  refine ⟨next :: text, matches_doubled_backslash_cons next matched, shorter.le, ?_⟩
  exact fun same => absurd (congrArg List.length same) shorter.ne

/-- A character in front that stands for itself adds itself to a misreading. -/
private theorem IsMisreading.cons (plain : char ∉ specials) (misread : IsMisreading ending value text) :
    IsMisreading ending (char :: value) (char :: text) := by
  obtain ⟨matched, short, differs⟩ := misread
  have other : char ≠ '%' := by
    rintro rfl
    exact plain (by decide)
  refine ⟨?_, by simpa using short, by simpa using differs⟩
  rw [doubled_cons_of_ne other]
  exact .verbatim plain matched

/-- A value with a special character is misread, unless all that is special is a backslash at the end
of the pattern. -/
theorem exists_misreading (isEnding : IsEnding ending) (special : ¬ IsVerbatim value)
    (inside : ∀ front, IsVerbatim front → value = front ++ ['\\'] → ending ≠ []) :
    ∃ text, IsMisreading ending value text := by
  induction value with
  | nil => exact absurd (by simp [IsVerbatim]) special
  | cons char value ih =>
    by_cases plain : char ∈ specials
    · by_cases escape : char = '\\'
      · subst escape
        cases value with
        | nil =>
          obtain rfl := isEnding.resolve_left (inside [] (by simp [IsVerbatim]) rfl)
          exact ⟨['%'], .escaped '%' .nil, le_rfl, by decide⟩
        | cons next rest => exact exists_misreading_of_backslash isEnding next rest
      · exact exists_misreading_of_wildcard isEnding plain escape value
    · have others : ¬ IsVerbatim value := fun others =>
        special (isVerbatim_cons_iff.mpr ⟨plain, others⟩)
      obtain ⟨text, misread⟩ := ih others fun front verbatim equal =>
        inside (char :: front) (isVerbatim_cons_iff.mpr ⟨plain, verbatim⟩) (by rw [equal]; rfl)
      exact ⟨char :: text, misread.cons plain⟩

/-! ### Searches -/

/-- A pattern open at its end stands for the texts that start with the value exactly if the value has
no special characters. -/
theorem matches_iff_prefix_iff :
    (∀ text, Matches (doubled value ++ ['%']) text ↔ value <+: text) ↔ IsVerbatim value := by
  constructor
  · intro reads
    by_contra special
    obtain ⟨text, matched, short, differs⟩ :=
      exists_misreading (.inr rfl) special fun _ _ _ => by decide
    exact differs (((reads text).mp matched).eq_of_length_le short).symm
  · intro verbatim text
    rw [verbatim.doubled_eq, matches_append_iff verbatim]
    constructor
    · rintro ⟨rest, rfl, _⟩
      exact List.prefix_append value rest
    · rintro ⟨rest, rfl⟩
      exact ⟨rest, rfl, matches_open rest⟩

/-- A pattern open at both ends stands for the texts that contain the value exactly if the value has
no special characters. -/
theorem matches_iff_infix_iff :
    (∀ text, Matches ('%' :: (doubled value ++ ['%'])) text ↔ value <:+: text) ↔
      IsVerbatim value := by
  constructor
  · intro reads
    by_contra special
    obtain ⟨text, matched, short, differs⟩ :=
      exists_misreading (.inr rfl) special fun _ _ _ => by decide
    have contained := (reads text).mp (.sequence [] matched)
    exact differs (contained.eq_of_length_le short).symm
  · intro verbatim text
    rw [matches_sequence_iff, List.infix_iff_prefix_suffix]
    have starts := matches_iff_prefix_iff.mpr verbatim
    exact exists_congr fun rest => and_comm.trans (and_congr_left' (starts rest))

/-- A pattern open at its start stands for the texts that end with the value exactly if the value has
no special characters, or only a backslash at its end. -/
theorem matches_iff_suffix_iff :
    (∀ text, Matches ('%' :: doubled value) text ↔ value <:+ text) ↔
      IsVerbatim value ∨ ∃ front, IsVerbatim front ∧ value = front ++ ['\\'] := by
  constructor
  · intro reads
    by_contra special
    obtain ⟨notVerbatim, inside⟩ := not_or.mp special
    obtain ⟨text, matched, short, differs⟩ := exists_misreading (.inl rfl) notVerbatim
      fun front verbatim equal => absurd ⟨front, verbatim, equal⟩ inside
    rw [List.append_nil] at matched
    have ended := (reads text).mp (.sequence [] matched)
    exact differs (ended.eq_of_length_le short).symm
  · intro literal
    have itself (rest : List Char) : Matches (doubled value) rest ↔ rest = value := by
      rcases literal with verbatim | ⟨front, verbatim, rfl⟩
      · rw [verbatim.doubled_eq, ← List.append_nil value, matches_append_iff verbatim]
        simp [matches_nil_iff]
      · have written : doubled (front ++ ['\\']) = front ++ ['\\'] := by
          rw [doubled, List.flatMap_append]
          exact congrArg (· ++ ['\\']) verbatim.doubled_eq
        rw [written, matches_append_iff verbatim]
        simp [matches_backslash_iff]
    intro text
    rw [matches_sequence_iff]
    constructor
    · rintro ⟨rest, ends, matched⟩
      rwa [← (itself rest).mp matched]
    · intro ends
      exact ⟨value, ends, (itself value).mpr rfl⟩

end Criteria.Like
