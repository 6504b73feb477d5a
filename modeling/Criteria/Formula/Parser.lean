import Criteria.Formula
import Criteria.Token.Stream

/-! # Reading formulas

Clauses follow each other, separated by any number of `,` and `;`; a `;` closes a group, and groups
without clauses are dropped. The last value of a filter may be missing and is then empty. The first
token that does not fit decides the error.
-/

namespace Criteria

/-- The result where the tokens end: what the end of the text means there, or the error of a
sequence that breaks off. -/
def Ending.resolve {α : Type} (ending : Ending) (atEof : Nat → Except SyntaxError α) :
    Except SyntaxError α :=
  match ending with
  | eof start => atEof start
  | invalid text start => .error (.invalidToken text start)
  | failed error => .error (.lexical error)

/-- A group still being read, and the groups after it. -/
structure OpenGroups where
  first : List Clause
  others : List (List Clause)
deriving DecidableEq

namespace OpenGroups

/-- No clause and no further group. -/
def empty : OpenGroups :=
  ⟨[], []⟩

/-- One more clause at the beginning of the first group. -/
def consClause (clause : Clause) (groups : OpenGroups) : OpenGroups :=
  ⟨clause :: groups.first, groups.others⟩

/-- A new first group, still empty. -/
def close (groups : OpenGroups) : OpenGroups :=
  ⟨[], groups.first :: groups.others⟩

/-- All groups in order, the empty ones left out. -/
def formula (groups : OpenGroups) : Formula :=
  Formula.compact ⟨groups.first :: groups.others⟩

end OpenGroups

namespace TokenRun

/-- Read the groups of a sequence of tokens with the given ending. -/
def groups (ending : Ending) : List Token → Except SyntaxError OpenGroups
  | [] => ending.resolve fun _ => .ok .empty
  | token :: rest =>
    match token.kind with
    | .and => return (← groups ending rest).close
    | .or => groups ending rest
    | .ident =>
      match rest with
      | [] => ending.resolve fun start => .error (.operatorExpected token.text start)
      | comparison :: rest =>
        match comparison.kind.operator? with
        | none => .error (.unexpectedToken comparison.text comparison.start)
        | some operator =>
          match rest with
          | [] => ending.resolve fun _ => .ok (.consClause (.ofRaw token.text operator "") .empty)
          | value :: rest =>
            if value.kind = .ident then
              return (← groups ending rest).consClause (.ofRaw token.text operator value.text)
            else
              .error (.identExpected value.text value.start)
    | _ => .error (.identExpected token.text token.start)

/-- Read a sequence of tokens as a formula. -/
def formula (run : TokenRun) : Except SyntaxError Formula :=
  return (← groups run.ending run.tokens).formula

end TokenRun

namespace Formula

/-- Read a filter. -/
def parse (source : String) : Except SyntaxError Formula :=
  (tokens source).formula

/-- Whether a formula is read back from its own text. -/
def roundTrips (formula : Formula) : Bool :=
  (parse formula.text).toOption = some formula

end Formula

end Criteria
