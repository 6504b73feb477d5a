import Criteria.Operator

/-! # Tokens of the filter language

A filter is a sequence of names and values, operators, and the separators `;` and `,`. Every token
carries the byte offset at which it begins. Two more kinds end a sequence: the end of the text, and
a character that no token begins with.
-/

namespace Criteria

/-- What a token is. -/
inductive TokenKind where
  | invalid
  | eof
  | and
  | or
  | ident
  | operator (operator : Operator)
deriving DecidableEq

namespace TokenKind

/-- The comparison that a token stands for. -/
def operator? : TokenKind → Option Operator
  | operator comparison => some comparison
  | _ => none

/-- The kind of a token that a single character makes, unless a longer operator begins there. -/
def ofChar? : Char → Option TokenKind
  | ';' => some and
  | ',' => some or
  | char => (Operator.ofChar? char).map operator

end TokenKind

/-- A token: for names and values the text without its escapes and outer blanks, for all other
tokens the text as it stands in the filter. -/
structure Token where
  kind : TokenKind
  text : String
  start : Nat
deriving DecidableEq

/-- A character that only makes sense as the first half of an operator. -/
inductive OperatorOpener where
  | bang
  | caret
  | dollar
deriving DecidableEq

namespace OperatorOpener

/-- The opener that a character is. -/
def ofChar? : Char → Option OperatorOpener
  | '!' => some bang
  | '^' => some caret
  | '$' => some dollar
  | _ => none

/-- The character that an opener is. -/
def char : OperatorOpener → Char
  | bang => '!'
  | caret => '^'
  | dollar => '$'

/-- The characters that may complete an operator, as messages list them. -/
def expected : OperatorOpener → String
  | bang => "`=`, `@` or `~`"
  | caret | dollar => "`=`"

theorem ofChar?_eq_some_iff {candidate : Char} {opener : OperatorOpener} :
    ofChar? candidate = some opener ↔ candidate = opener.char := by
  constructor
  · intro found
    unfold ofChar? at found
    split at found <;> cases found <;> rfl
  · rintro rfl
    cases opener <;> rfl

end OperatorOpener

/-- Why a text cannot be divided into tokens. -/
inductive LexicalError where
  | incompleteOperator (opener : OperatorOpener) (start : Nat)
deriving DecidableEq

/-- The report of a lexical error. -/
def LexicalError.message : LexicalError → String
  | incompleteOperator opener start =>
    "incomplete operator `" ++ opener.char.toString ++ "` at " ++ toString start ++ ", expected " ++
      opener.expected ++ " after it"

end Criteria
