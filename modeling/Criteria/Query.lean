import Criteria.Argument

/-! # Query text with its arguments

A query is a text whose question marks are placeholders, together with the arguments for them in
order. Queries compose side by side. Expansion gives every item of a list its own placeholder; it
refuses a query whose placeholders and arguments differ in number.

`fill` puts one piece of text in the place of each placeholder, as literals are put there to show a
query.
-/

namespace Criteria

/-- A text with placeholders and the arguments for them. -/
structure Query where
  text : String
  arguments : List Argument
deriving DecidableEq

/-- A query whose placeholders and arguments differ in number. -/
structure Mismatch where
  text : String
  placeholders : Nat
  arguments : Nat
deriving DecidableEq

/-- The report of a query whose placeholders and arguments differ in number. -/
def Mismatch.message (mismatch : Mismatch) : String :=
  "where args count mismatch: `" ++ mismatch.text ++ "` has " ++ toString mismatch.placeholders ++
    " placeholders but " ++ toString mismatch.arguments ++ " args were given"

namespace Query

/-- A text without arguments. -/
def ofText (text : String) : Query :=
  ⟨text, []⟩

/-- Queries side by side, with the arguments of the first before those of the second. -/
instance : Append Query :=
  ⟨fun first second => ⟨first.text ++ second.text, first.arguments ++ second.arguments⟩⟩

/-- Queries side by side with a separator between neighbours. -/
def join (separator : String) (queries : List Query) : Query :=
  ⟨separator.intercalate (queries.map (·.text)), queries.flatMap (·.arguments)⟩

/-- The query in parentheses. -/
def parenthesized (query : Query) : Query :=
  ofText "(" ++ query ++ ofText ")"

@[simp] theorem text_append (first second : Query) :
    (first ++ second).text = first.text ++ second.text := rfl

@[simp] theorem arguments_append (first second : Query) :
    (first ++ second).arguments = first.arguments ++ second.arguments := rfl

/-- The number of placeholders in a text. -/
def placeholders (text : List Char) : Nat :=
  text.count '?'

/-- Replace the placeholders of a text from left to right by the given pieces. Placeholders beyond
the last piece stay, and surplus pieces are dropped. -/
def fill : List Char → List (List Char) → List Char
  | [], _ => []
  | char :: rest, pieces =>
    if char = '?' then
      match pieces with
      | [] => '?' :: fill rest []
      | piece :: pieces => piece ++ fill rest pieces
    else
      char :: fill rest pieces

@[simp] theorem placeholders_append (first second : List Char) :
    placeholders (first ++ second) = placeholders first + placeholders second :=
  List.count_append

/-- Filling composes side by side when the first text uses up exactly its own pieces. -/
theorem fill_append (first second : List Char) (own others : List (List Char))
    (balanced : placeholders first = own.length) :
    fill (first ++ second) (own ++ others) = fill first own ++ fill second others := by
  induction first generalizing own with
  | nil =>
    obtain rfl : own = [] := List.length_eq_zero_iff.mp balanced.symm
    rfl
  | cons char rest ih =>
    by_cases mark : char = '?'
    · subst mark
      cases own with
      | nil => simp [placeholders] at balanced
      | cons piece pieces =>
        have counted : placeholders rest = pieces.length := by
          simpa [placeholders] using balanced
        simp [fill, ih pieces counted]
    · have counted : placeholders rest = own.length := by
        simpa [placeholders, mark] using balanced
      simp [fill, mark, ih own counted]

/-- A number of placeholders separated by commas. -/
def marks (count : Nat) : String :=
  ",".intercalate (List.replicate count "?")

end Query

namespace Argument

/-- What stands for an argument in an expanded query: a placeholder for each value, and a null where
a list has none. -/
def marks : Argument → String
  | list [] => "NULL"
  | list items => Query.marks items.length
  | _ => "?"

/-- The values that an argument stands for: the items of a list, or the argument itself. -/
def values : Argument → List Argument
  | list items => items
  | single => [single]

end Argument

namespace Query

/-- The difference in number between placeholders and arguments. -/
def mismatch (query : Query) : Mismatch where
  text := query.text
  placeholders := placeholders query.text.toList
  arguments := query.arguments.length

/-- Go through the rest of the text with what has been written for the part before it, and the number
of arguments that part has used up. Every placeholder uses up one more. A placeholder that finds none
ends the walk, and so does an argument that is left over at the end. -/
def expandFrom (query : Query) (used : Nat) (written : Query) : List Char → Except Mismatch Query
  | [] => if used = query.arguments.length then .ok written else .error query.mismatch
  | char :: rest =>
    if char = '?' then
      match query.arguments[used]? with
      | none => .error query.mismatch
      | some argument =>
        query.expandFrom (used + 1) (written ++ ⟨argument.marks, argument.values⟩) rest
    else
      query.expandFrom used ⟨written.text.push char, written.arguments⟩ rest

/-- The query with one placeholder and one argument for each value of each list. -/
def expand (query : Query) : Except Mismatch Query :=
  query.expandFrom 0 (ofText "") query.text.toList

end Query

end Criteria
