import Criteria.Query.Literal
import Mathlib.Data.List.Basic

/-! # Scanning text with literals

Both dialects open and close text literals with a quote, but differ in how a quote inside is told
from one at the end. Read by the scanner of its dialect, a quoted text is a single literal with that
text as content, unless a quote follows.
-/

namespace Criteria

/-- What a scanner makes of a text: a character of code, or a literal with its content. -/
inductive Lexeme where
  | code (char : Char)
  | literal (content : List Char)
deriving DecidableEq

namespace Lexeme

/-- The content of a literal. -/
def content? : Lexeme → Option (List Char)
  | code _ => none
  | literal content => some content

/-- The lexeme without the content. -/
def erased : Lexeme → Lexeme
  | code char => code char
  | literal _ => literal []

end Lexeme

/-! ### The scanner -/

namespace Dialect

/-- Scan a text, from inside a literal of which some content has been read, or from outside. Nothing
is found if a literal is left open. -/
def scan : Dialect → (opened : Option (List Char)) → List Char → Option (List Lexeme)
  | _, none, [] => some []
  | dialect, none, '\'' :: rest => scan dialect (some []) rest
  | dialect, none, char :: rest => (scan dialect none rest).map (.code char :: ·)
  | _, some _, [] => none
  | mysql, some content, '\\' :: char :: rest => scan mysql (some (content ++ [char])) rest
  | standard, some content, '\'' :: '\'' :: rest => scan standard (some (content ++ ['\''])) rest
  | dialect, some content, '\'' :: rest => (scan dialect none rest).map (.literal content :: ·)
  | dialect, some content, char :: rest => scan dialect (some (content ++ [char])) rest

section

variable {dialect : Dialect} {content : List Char}

/-- Inside a literal, a quoted character is read as the character. -/
theorem scan_quotedChar (char : Char) (rest : List Char) :
    dialect.scan (some content) (dialect.quotedChar char ++ rest) =
      dialect.scan (some (content ++ [char])) rest := by
  cases dialect with
  | mysql =>
    by_cases special : char = '\'' ∨ char = '\\'
    · simp [quotedChar, special, scan]
    · rw [not_or] at special
      simp [quotedChar, special, scan]
  | standard =>
    by_cases quote : char = '\''
    · simp [quotedChar, quote, scan]
    · simp [quotedChar, quote, scan]

/-- A quote ends the literal if no other one follows. -/
theorem scan_quote {rest : List Char} (apart : rest.head? ≠ some '\'') :
    dialect.scan (some content) ('\'' :: rest) =
      (dialect.scan none rest).map (.literal content :: ·) := by
  cases dialect with
  | mysql => simp [scan]
  | standard =>
    cases rest with
    | nil => rfl
    | cons next others =>
      have other : next ≠ '\'' := by simpa using apart
      simp [scan, other]

/-- A quoted text is read up to its end, with the content it was made from. -/
theorem scan_flatMap_quotedChar (text : List Char) {rest : List Char}
    (apart : rest.head? ≠ some '\'') :
    dialect.scan (some content) (text.flatMap dialect.quotedChar ++ '\'' :: rest) =
      (dialect.scan none rest).map (.literal (content ++ text) :: ·) := by
  induction text generalizing content with
  | nil => rw [List.flatMap_nil, List.nil_append, scan_quote apart, List.append_nil]
  | cons char others ih =>
    rw [List.flatMap_cons, List.append_assoc, scan_quotedChar, ih, List.append_assoc,
      List.singleton_append]

end

/-- Wherever a scanner is outside of literals, it reads the text as the given lexemes, unless a quote
follows. -/
def Reads (dialect : Dialect) (text : List Char) (lexemes : List Lexeme) : Prop :=
  ∀ rest : List Char, rest.head? ≠ some '\'' →
    dialect.scan none (text ++ rest) = (dialect.scan none rest).map (lexemes ++ ·)

namespace Reads

variable {dialect : Dialect} {first second : List Char} {lexemes others : List Lexeme}

theorem nil : dialect.Reads [] [] := by
  intro rest _
  simp

/-- What is no quote is read as code, whatever comes next. -/
theorem code_cons {char : Char} (other : char ≠ '\'') (reads : dialect.Reads second lexemes) :
    dialect.Reads (char :: second) (.code char :: lexemes) := by
  intro rest follows
  rw [List.cons_append, scan, reads rest follows, Option.map_map]
  · rfl
  · exact other

theorem code {text : List Char} (unquoted : '\'' ∉ text) :
    dialect.Reads text (text.map .code) := by
  induction text with
  | nil => exact nil
  | cons char chars ih =>
    rw [List.mem_cons, not_or] at unquoted
    exact code_cons (Ne.symm unquoted.1) (ih unquoted.2)

/-- After a text, another one can be read that does not start with a quote. -/
theorem append (reads : dialect.Reads first lexemes) (thenReads : dialect.Reads second others)
    (apart : second.head? ≠ some '\'') : dialect.Reads (first ++ second) (lexemes ++ others) := by
  intro rest follows
  have between : (second ++ rest).head? ≠ some '\'' := by
    cases second with
    | nil => exact follows
    | cons char chars => exact apart
  rw [List.append_assoc, reads _ between, thenReads rest follows, Option.map_map]
  simp only [Function.comp_def, List.append_assoc]

/-- Texts with commas between them are read one by one. -/
theorem commas {α : Type} {items : List α} {spelling : α → List Char} {lexemes : α → List Lexeme}
    (reads : ∀ item ∈ items, dialect.Reads (spelling item) (lexemes item)) :
    dialect.Reads (",".toList.intercalate (items.map spelling))
      ([.code ','].intercalate (items.map lexemes)) := by
  induction items with
  | nil => exact nil
  | cons item rest ih =>
    obtain ⟨head, tail⟩ := List.forall_mem_cons.mp reads
    cases rest with
    | nil => simpa using head
    | cons next others =>
      simp only [List.map_cons, List.intercalate_cons_cons, List.append_assoc] at ih ⊢
      exact head.append (code_cons (by decide) (ih tail)) (by simp)

/-- A quoted text is read as a literal. -/
theorem quoted (text : String) : dialect.Reads (dialect.quoted text).toList [.literal text.toList] := by
  intro rest apart
  have opened : (dialect.quoted text).toList ++ rest =
      '\'' :: (text.toList.flatMap dialect.quotedChar ++ '\'' :: rest) := by
    simp [Dialect.quoted]
  rw [opened, scan, scan_flatMap_quotedChar _ apart]
  rfl

end Reads

/-- Without quotes and backslashes, a text is quoted as it is. -/
theorem flatMap_quotedChar_of_plain (dialect : Dialect) {text : List Char} (unquoted : '\'' ∉ text)
    (unescaped : '\\' ∉ text) : text.flatMap dialect.quotedChar = text := by
  have plain : ∀ char ∈ text, dialect.quotedChar char = [char] := by
    intro char member
    have noQuote : char ≠ '\'' := ne_of_mem_of_not_mem member unquoted
    have noBackslash : char ≠ '\\' := ne_of_mem_of_not_mem member unescaped
    cases dialect <;> simp [quotedChar, noQuote, noBackslash]
  rw [List.flatMap_congr plain, List.flatMap_singleton']

end Dialect

end Criteria
