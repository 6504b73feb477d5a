import Criteria.Token

/-! # Why a filter cannot be read

A filter is a sequence of clauses, each a name, an operator and a value. A syntax error names the
token that does not fit, with its byte offset.
-/

namespace Criteria

/-- The first thing in a filter that does not fit. -/
inductive SyntaxError where
  | lexical (error : LexicalError)
  | invalidToken (text : String) (start : Nat)
  | operatorExpected (name : String) (start : Nat)
  | unexpectedToken (text : String) (start : Nat)
  | identExpected (found : String) (start : Nat)
deriving DecidableEq

/-- The report of a syntax error. -/
def SyntaxError.message : SyntaxError → String
  | lexical error => "lexical error: " ++ error.message
  | invalidToken text start => "invalid token `" ++ text ++ "` at " ++ toString start
  | operatorExpected name start => "operator expected after `" ++ name ++ "` at " ++ toString start
  | unexpectedToken text start =>
    "unexpected token `" ++ text ++ "` at " ++ toString start ++ ", expected an operator"
  | identExpected found start =>
    "ident expected, but found `" ++ found ++ "` at " ++ toString start

end Criteria
