import Criteria.Text.Word

/-! # Sort orders

A sort order is a list of terms separated by commas. A term names a column, possibly with its table,
and may name a direction after it. Anything else is refused, since sort orders are emitted verbatim.
-/

namespace Criteria

namespace Order

variable [Text.WordClass]

/-- The text after the word at its beginning, if there is one. -/
def afterWord? : List Char → Option (List Char)
  | [] => none
  | char :: rest => if Text.isWord char then some (rest.dropWhile Text.isWord) else none

/-- The text after the spaces at its beginning. -/
def afterSpaces (text : List Char) : List Char :=
  text.dropWhile (· = ' ')

/-- The text after a column name, with or without its table and a dot before it. -/
def afterColumn? (text : List Char) : Option (List Char) :=
  match afterWord? text with
  | some ('.' :: rest) => afterWord? rest
  | other => other

/-- Whether a text is a column, followed by a direction or not, with spaces around. -/
def isTerm (text : List Char) : Bool :=
  match afterColumn? (afterSpaces text) with
  | none => false
  | some rest => (afterSpaces ((afterSpaces rest).dropWhile Text.isWord)).isEmpty

/-- The terms of a sort order. -/
def terms (order : String) : List (List Char) :=
  order.toList.splitOn ','

/-- The first part of a sort order that is no term. -/
def firstInvalid? (order : String) : Option String :=
  ((terms order).find? fun term => !isTerm term).map String.ofList

end Order

end Criteria
