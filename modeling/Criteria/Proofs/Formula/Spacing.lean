import Criteria.Proofs.Formula.Groups
import Criteria.Proofs.Token.Spacing

/-! # Filters with spaces between their tokens

What is read from tokens depends on what they are, and not on where they stand: the formula is the
same, and an error says the same, only of another place. So spaces may be inserted between the tokens
of a filter, as many as one likes.
-/

namespace Criteria

open Text

/-- What an error says, wherever it points. -/
def SyntaxError.unplaced : SyntaxError → SyntaxError
  | lexical (.incompleteOperator opener _) => lexical (.incompleteOperator opener 0)
  | invalidToken text _ => invalidToken text 0
  | operatorExpected name _ => operatorExpected name 0
  | unexpectedToken text _ => unexpectedToken text 0
  | identExpected found _ => identExpected found 0

/-- How a sequence of tokens ends, wherever it does. -/
def Ending.unplaced : Ending → Ending
  | eof _ => eof 0
  | invalid text _ => invalid text 0
  | failed (.incompleteOperator opener _) => failed (.incompleteOperator opener 0)

theorem Ending.mapError_resolve {α : Type} (ending : Ending) {atEof other : Nat → Except SyntaxError α}
    (same : ∀ start, (atEof start).mapError SyntaxError.unplaced = other 0) :
    (ending.resolve atEof).mapError SyntaxError.unplaced = ending.unplaced.resolve other := by
  cases ending with
  | eof start => exact same start
  | invalid text start => rfl
  | failed error => cases error; rfl

namespace TokenRun

/-- Tokens are read in the same way wherever they stand. -/
theorem groups_unplaced (ending : Ending) (tokens : List Token) :
    groups ending.unplaced (tokens.map Token.unplaced) =
      (groups ending tokens).mapError SyntaxError.unplaced := by
  have kind_eq (token : Token) : token.unplaced.kind = token.kind := rfl
  fun_induction TokenRun.groups ending tokens with
  | case1 => exact (Ending.mapError_resolve ending fun _ => rfl).symm
  | case2 separator rest kind ih =>
    rw [List.map_cons, groups.eq_def]
    simp only [kind_eq, kind, ih]
    exact (Except.mapError_bind_pure _ _ _).symm
  | case3 separator rest kind ih =>
    rw [List.map_cons, groups.eq_def]
    simp only [kind_eq, kind, ih]
  | case4 name ident =>
    rw [List.map_cons, groups.eq_def]
    simp only [kind_eq, ident]
    exact (Ending.mapError_resolve ending fun _ => rfl).symm
  | case5 name ident comparison rest unread =>
    rw [List.map_cons, List.map_cons, groups.eq_def]
    simp only [kind_eq, ident, unread]
    rfl
  | case6 name ident comparison operator reads =>
    rw [List.map_cons, List.map_cons, groups.eq_def]
    simp only [kind_eq, ident, reads]
    exact (Ending.mapError_resolve ending fun _ => rfl).symm
  | case7 name ident comparison operator reads value rest given ih =>
    rw [List.map_cons, List.map_cons, List.map_cons, groups.eq_def]
    simp only [kind_eq, ident, reads, given, if_true, ih]
    exact (Except.mapError_bind_pure _ _ _).symm
  | case8 name ident comparison operator reads value rest other =>
    rw [List.map_cons, List.map_cons, List.map_cons, groups.eq_def]
    simp only [kind_eq, ident, reads, if_neg other]
    rfl
  | case9 token rest notAnd notOr notIdent =>
    rw [List.map_cons, groups.eq_def]
    simp only [kind_eq]
    cases kind : token.kind with
    | and => exact absurd kind notAnd
    | or => exact absurd kind notOr
    | ident => exact absurd kind notIdent
    | invalid | eof | operator => rfl

/-- A formula is read from tokens, or missed in the same way, wherever they stand. -/
theorem mapError_formula (run : TokenRun) :
    run.formula.mapError SyntaxError.unplaced =
      (TokenRun.mk (run.tokens.map Token.unplaced) run.ending.unplaced).formula := by
  rw [formula, formula, groups_unplaced]
  exact Except.mapError_bind_pure _ _ _

end TokenRun

/-- Extra spaces in places that are not within a token, or only among the blanks at an edge of it, change
neither the tokens of a text that is read to its end nor the formula that is read from it; or the error,
if there is one, is the same, only of another place. -/
theorem parse_spread {source : String} {list : List Token} {finish : Nat}
    (read : tokens source = ⟨list, .eof finish⟩) {extra : Nat → Nat}
    (between : ∀ place, extra place ≠ 0 → IsBetween 0 source.toList list place) :
    (∃ others finishAfter,
      tokens (String.ofList (spread extra source.toList)) = ⟨others, .eof finishAfter⟩ ∧
        others.map Token.unplaced = list.map Token.unplaced) ∧
    (Formula.parse (String.ofList (spread extra source.toList))).mapError SyntaxError.unplaced =
      (Formula.parse source).mapError SyntaxError.unplaced := by
  have tiles := (Input.run_eq_iff.mp read).1
  obtain ⟨others, tilesAfter, same⟩ := tiles.spread between 0
  have readSpread : tokens (String.ofList (spread extra source.toList)) =
      ⟨others, .eof (0 + byteLength (spread extra source.toList))⟩ := by
    rw [tokens, Input.ofString, String.toList_ofList, Input.run_of_tiles tilesAfter]
  refine ⟨⟨others, _, readSpread, same⟩, ?_⟩
  rw [Formula.parse, Formula.parse, TokenRun.mapError_formula, TokenRun.mapError_formula, readSpread,
    read, same]
  rfl

/-- A filter without any space, with a backslash before an operator and a tab after a value. -/
def crampedSource : String := "a\\>\\;b\t,c=="

/-- The tokens of that filter. -/
def crampedTokens : List Token :=
  [⟨.ident, "a\\", 0⟩, ⟨.operator .greater, ">", 2⟩, ⟨.ident, ";b", 3⟩, ⟨.or, ",", 7⟩,
    ⟨.ident, "c", 8⟩, ⟨.operator .equal, "==", 9⟩]

/-- Spaces around all of its tokens, and around the tab. -/
def airySpaces (place : Nat) : Nat :=
  [1, 0, 2, 1, 0, 0, 1, 1, 2, 1, 0, 3].getD place 0

theorem parse_spread_cramped :
    tokens crampedSource = ⟨crampedTokens, .eof 11⟩ ∧
      (∀ place, airySpaces place ≠ 0 → IsBetween 0 crampedSource.toList crampedTokens place) ∧
      String.ofList (spread airySpaces crampedSource.toList) = " a\\  > \\;b \t ,  c ==   " ∧
      (∃ others finish, tokens " a\\  > \\;b \t ,  c ==   " = ⟨others, .eof finish⟩ ∧
        others.map Token.unplaced = crampedTokens.map Token.unplaced) ∧
      (Formula.parse " a\\  > \\;b \t ,  c ==   ").mapError SyntaxError.unplaced =
        (Formula.parse crampedSource).mapError SyntaxError.unplaced := by
  have read : tokens crampedSource = ⟨crampedTokens, .eof 11⟩ := by decide +kernel
  have between (place : Nat) (inserted : airySpaces place ≠ 0) :
      IsBetween 0 crampedSource.toList crampedTokens place := by
    have below : place < 12 := by
      by_contra far
      apply inserted
      rw [airySpaces, List.getD_eq_getElem?_getD, List.getElem?_eq_none (Nat.le_of_not_lt far)]
      rfl
    have widths : ∀ place < 12, airySpaces place ≠ 0 → ∀ token ∈ crampedTokens,
        ∀ index ≤ crampedSource.toList.length,
          token.start = 0 + byteLength (crampedSource.toList.take index) →
            IsOuter ((crampedSource.toList.drop index).take
              (token.width (crampedSource.toList.drop index))) (place - index) := by
      decide +kernel
    exact isBetween_of_widths (widths place below inserted)
  have airy : String.ofList (spread airySpaces crampedSource.toList) = " a\\  > \\;b \t ,  c ==   " := by
    decide +kernel
  have same := parse_spread read between
  rw [airy] at same
  exact ⟨read, between, airy, same⟩

end Criteria
