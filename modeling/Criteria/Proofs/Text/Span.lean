import Criteria.Proofs.Text.Canonical

/-! # Where names and values reach

A name or value is a run of letters, backslashes, and separators directly after a backslash of the
run, and it reaches as far as it can. `identSpan_eq_iff` says that reading from left to right finds
just this run, which is the only one.
-/

/-- An item of two lists one after the other is an item of one of them. -/
theorem List.cases_of_append_eq {α : Type} {first second before after : List α} {item : α}
    (split : first ++ second = before ++ item :: after) :
    (∃ more, first = before ++ item :: more) ∨
      ∃ between, before = first ++ between ∧ second = between ++ item :: after := by
  rcases append_eq_append_iff.mp split with ⟨between, earlier, later⟩ | ⟨between, earlier, later⟩
  · exact .inr ⟨between, earlier, later⟩
  · cases between with
    | nil => exact .inr ⟨[], by simpa using earlier.symm, by simpa using later.symm⟩
    | cons next more =>
      obtain ⟨rfl, _⟩ := cons_eq_cons.mp later
      exact .inl ⟨more, earlier⟩

namespace Criteria.Text

/-- Whether a name or value of which some characters have been read goes on with a character. -/
def Continues (before : List Char) (char : Char) : Prop :=
  isIdentChar char = true ∨ char = '\\' ∨ isSeparator char = true ∧ before.getLast? = some '\\'

/-- A beginning of a text that is a run of characters of one name or value, and cannot be longer. -/
structure IsSpan (span rest : List Char) : Prop where
  inside : ∀ before char after, span = before ++ char :: after → Continues before char
  stops : ∀ char ∈ rest.head?, ¬ Continues span char

variable {before span rest : List Char} {char : Char}

theorem isIdentChar_of_isSeparator (separator : isSeparator char = true) :
    isIdentChar char = false := by
  simp only [isSeparator, Bool.or_eq_true, decide_eq_true_eq] at separator
  rcases separator with rfl | rfl <;> decide

/-- Within a name or value, a separator follows a backslash. -/
theorem continues_iff_of_isSeparator (separator : isSeparator char = true) :
    Continues before char ↔ before.getLast? = some '\\' := by
  constructor
  · rintro (ident | rfl | ⟨_, escaped⟩)
    · rw [isIdentChar_of_isSeparator separator] at ident
      cases ident
    · cases separator
    · exact escaped
  · exact fun escaped => .inr (.inr ⟨separator, escaped⟩)

/-- What stands further back makes no difference to whether a name or value goes on. -/
theorem continues_append (front : List Char) (ne_nil : span ≠ []) :
    Continues (front ++ span) char ↔ Continues span char := by
  rw [Continues, Continues, List.getLast?_append_of_ne_nil _ ne_nil]

/-- At its beginning, a name or value goes on with a letter or backslash. -/
theorem continues_nil_iff : Continues [] char ↔ continuesIdent char = true := by
  simp [Continues, continuesIdent, or_comm]

theorem Continues.append (continues : Continues before char) (front : List Char) :
    Continues (front ++ before) char := by
  cases before with
  | nil =>
    rcases continues with ident | backslash | ⟨_, escaped⟩
    · exact .inl ident
    · exact .inr (.inl backslash)
    · cases escaped
  | cons first others => exact (continues_append front (List.cons_ne_nil _ _)).mpr continues

namespace IsSpan

theorem nil (stops : ∀ char ∈ rest.head?, continuesIdent char = false) : IsSpan [] rest where
  inside _ _ _ split := by simp at split
  stops char begins continues := by
    rw [continues_nil_iff, stops char begins] at continues
    cases continues

/-- A text of nothing but letters is a run to its end. -/
theorem of_isIdentChar (letters : ∀ char ∈ span, isIdentChar char = true) : IsSpan span [] where
  inside before char after split := .inl (letters char (by rw [split]; simp))
  stops char begins := by simp at begins

/-- A run may have more characters in front, unless the last of them escapes what follows it. -/
theorem append (front : List Char) (shorter : IsSpan span rest)
    (fronts : ∀ before char after, front = before ++ char :: after → Continues before char)
    (apart : span = [] → ∀ char ∈ rest.head?, isSeparator char = true → front.getLast? ≠ some '\\') :
    IsSpan (front ++ span) rest where
  inside before char after split := by
    rcases List.cases_of_append_eq split with ⟨more, within⟩ | ⟨between, rfl, within⟩
    · exact fronts before char more within
    · exact (shorter.inside between char after within).append front
  stops char begins continues := by
    have stops := shorter.stops char begins
    rcases List.eq_nil_or_concat span with rfl | ⟨_, _, rfl⟩
    · rw [List.append_nil] at continues
      rcases continues with ident | backslash | ⟨separator, escaped⟩
      · exact stops (.inl ident)
      · exact stops (.inr (.inl backslash))
      · exact apart rfl char begins separator escaped
    · exact stops ((continues_append front (by simp)).mp continues)

/-- A character with which a name or value may begin may stand in front of a run, unless it is a
backslash that escapes what follows. -/
theorem cons (shorter : IsSpan span rest) (continues : continuesIdent char = true)
    (apart : span = [] → ∀ next ∈ rest.head?, isSeparator next = true → char ≠ '\\') :
    IsSpan (char :: span) rest := by
  refine append [char] shorter ?_ ?_
  · intro before other after split
    cases before with
    | nil =>
      obtain ⟨rfl, _⟩ := List.cons_eq_cons.mp split
      exact continues_nil_iff.mpr continues
    | cons => simp at split
  · intro empty next begins separator last
    exact apart empty next begins separator (Option.some.inj last)

/-- An escaped separator may stand in front of a run. -/
theorem cons_escaped (shorter : IsSpan span rest) (separator : isSeparator char = true) :
    IsSpan ('\\' :: char :: span) rest := by
  refine append ['\\', char] shorter ?_ ?_
  · intro before other after split
    rcases before with - | ⟨first, - | ⟨second, others⟩⟩
    · obtain ⟨rfl, _⟩ := List.cons_eq_cons.mp split
      exact .inr (.inl rfl)
    · obtain ⟨rfl, rfl, _⟩ : '\\' = first ∧ char = other ∧ [] = after := by simpa using split
      exact .inr (.inr ⟨separator, rfl⟩)
    · simp at split
  · rintro _ next _ _ last
    obtain rfl := Option.some.inj last
    cases separator

/-- A run is followed by none of the characters with which it could have begun. -/
theorem continuesIdent_of_mem_head? (spans : IsSpan span rest) (follows : char ∈ rest.head?) :
    continuesIdent char = false := by
  rw [← Bool.not_eq_true, ← continues_nil_iff]
  intro continues
  refine spans.stops char follows ?_
  simpa using continues.append span

/-- Two runs at the beginning of one text are the same: where one ends, the other cannot go on. -/
theorem unique {other otherRest : List Char} (spans : IsSpan span rest)
    (otherSpans : IsSpan other otherRest) (same : span ++ rest = other ++ otherRest) :
    span = other ∧ rest = otherRest := by
  have ends {shorter more rest : List Char} {restAfter : List Char} (spans : IsSpan shorter restAfter)
      (longer : IsSpan (shorter ++ more) rest) (goesOn : restAfter = more ++ rest) : more = [] := by
    cases more with
    | nil => rfl
    | cons char others =>
      exact absurd (longer.inside shorter char others rfl) (spans.stops char (by rw [goesOn]; rfl))
  rcases List.append_eq_append_iff.mp same with ⟨more, rfl, goesOn⟩ | ⟨more, rfl, goesOn⟩
  · obtain rfl := ends spans otherSpans goesOn
    simpa using goesOn
  · obtain rfl := ends otherSpans spans goesOn
    simpa using goesOn.symm

end IsSpan

theorem isSpan_identSpan (text : List Char) : IsSpan (identSpan text).1 (identSpan text).2 := by
  fun_induction identSpan text with
  | case1 char rest separator ih => exact ih.cons_escaped separator
  | case2 char rest ordinary ih =>
    refine ih.cons rfl fun empty next begins separator => absurd separator ?_
    have split := identSpan_append (char :: rest)
    rw [empty, List.nil_append] at split
    rw [split] at begins
    cases begins
    exact ordinary
  | case3 char rest alone continues ih =>
    refine ih.cons continues fun empty next begins separator backslash => ?_
    subst backslash
    have split := identSpan_append rest
    rw [empty, List.nil_append] at split
    obtain ⟨others, follows⟩ := List.head?_eq_some_iff.mp begins
    exact alone next others rfl (split.symm.trans follows)
  | case4 char rest alone stops =>
    refine .nil fun next begins => ?_
    cases begins
    simpa [continuesIdent] using stops
  | case5 => exact .nil (by simp)

theorem identSpan_eq_iff {text : List Char} :
    identSpan text = (span, rest) ↔ text = span ++ rest ∧ IsSpan span rest := by
  constructor
  · intro spans
    have append := identSpan_append text
    have isSpan := isSpan_identSpan text
    rw [spans] at append isSpan
    exact ⟨append.symm, isSpan⟩
  · rintro ⟨rfl, isSpan⟩
    obtain ⟨same, sameRest⟩ := (isSpan_identSpan (span ++ rest)).unique isSpan (identSpan_append _)
    exact Prod.ext same sameRest

end Criteria.Text
