/-! # Separators inside names and values

The filter language has no quotes. A comma or semicolon that belongs to a name or a value follows a
backslash; every other backslash stands for itself, so a backslash before a backslash escapes
nothing. Blanks at the edges of a name or value do not count. `unescape_escape` says that no text is
lost by escaping.
-/

namespace Criteria.Text

/-- The characters that separate clauses and groups. -/
def isSeparator (char : Char) : Bool :=
  char = ',' || char = ';'

/-- The characters that are trimmed from the edges of a name or value. -/
def isBlank (char : Char) : Bool :=
  char = ' ' || char = '\t'

/-- Drop the blanks at both edges. -/
def trim (text : List Char) : List Char :=
  ((text.dropWhile isBlank).reverse.dropWhile isBlank).reverse

/-- Put a backslash before every separator. -/
def escape : List Char → List Char
  | [] => []
  | char :: rest => if isSeparator char then '\\' :: char :: escape rest else char :: escape rest

/-- Drop the backslashes that stand directly before a separator, and only those. -/
def unescape : List Char → List Char
  | '\\' :: char :: rest =>
    if isSeparator char then char :: unescape rest else '\\' :: unescape (char :: rest)
  | char :: rest => char :: unescape rest
  | [] => []

theorem unescape_cons_of_ne {char : Char} (rest : List Char) (ordinary : char ≠ '\\') :
    unescape (char :: rest) = char :: unescape rest := by
  rw [unescape]
  intro _ _ backslash
  exact absurd backslash ordinary

theorem unescape_backslash_separator {char : Char} (rest : List Char)
    (separator : isSeparator char = true) :
    unescape ('\\' :: char :: rest) = char :: unescape rest := by
  rw [unescape, if_pos separator]

theorem unescape_backslash_of_not_separator {char : Char} (rest : List Char)
    (ordinary : isSeparator char = false) :
    unescape ('\\' :: char :: rest) = '\\' :: unescape (char :: rest) := by
  rw [unescape, if_neg (by simp [ordinary])]

/-- Escaped text never begins with a separator. -/
theorem escape_head {text rest : List Char} {char : Char} (begins : escape text = char :: rest) :
    isSeparator char = false := by
  cases text with
  | nil => cases begins
  | cons first others =>
    by_cases separator : isSeparator first
    · rw [escape, if_pos separator] at begins
      cases begins
      rfl
    · rw [escape, if_neg separator] at begins
      cases begins
      simpa using separator

/-- Escaping loses nothing, whatever backslashes and separators stand side by side. -/
theorem unescape_escape (text : List Char) : unescape (escape text) = text := by
  induction text with
  | nil => rfl
  | cons char rest ih =>
    by_cases separator : isSeparator char
    · rw [escape, if_pos separator, unescape_backslash_separator _ separator, ih]
    · rw [escape, if_neg separator]
      by_cases backslash : char = '\\'
      · subst backslash
        cases escaped : escape rest with
        | nil => rw [← ih, escaped]; rfl
        | cons next others =>
          rw [unescape_backslash_of_not_separator _ (escape_head escaped), ← escaped, ih]
      · rw [unescape_cons_of_ne _ backslash, ih]

end Criteria.Text
