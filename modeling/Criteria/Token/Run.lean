import Criteria.Token.Scan

/-! # All tokens of a text

A run is what reading a text to its end gives: the tokens in order, and how they end. Reading stops
at the end of the text, at an invalid character or at a lexical error, whichever comes first.
-/

namespace Criteria

/-- How a sequence of tokens ends. -/
inductive Ending where
  | eof (start : Nat)
  | invalid (text : String) (start : Nat)
  | failed (error : LexicalError)
deriving DecidableEq

/-- The tokens of a text and how they end. -/
structure TokenRun where
  tokens : List Token
  ending : Ending
deriving DecidableEq

namespace TokenRun

/-- A run with one more token before it. A token that ends sequences leaves nothing of the run. -/
def cons (token : Token) (run : TokenRun) : TokenRun :=
  match token.kind with
  | .eof => ⟨[], .eof token.start⟩
  | .invalid => ⟨[], .invalid token.text token.start⟩
  | _ => ⟨token :: run.tokens, run.ending⟩

/-- Everything there is to report of a run: its tokens, the invalid one included, and then the
error that stopped it. -/
def items (run : TokenRun) : List (Except LexicalError Token) :=
  run.tokens.map .ok ++
    match run.ending with
    | .eof _ => []
    | .invalid text start => [.ok ⟨.invalid, text, start⟩]
    | .failed error => [.error error]

end TokenRun

namespace Input

/-- Read all tokens. -/
def run (input : Input) : TokenRun :=
  match _ : input.scan with
  | (.error error, _) => ⟨[], .failed error⟩
  | (.ok token, next) =>
    if token.kind = .eof then ⟨[], .eof token.start⟩ else .cons token next.run
termination_by input.rest.length
decreasing_by exact rest_length_lt_of_scan ‹input.scan = _› ‹¬_›

theorem run_of_error {input next : Input} {error : LexicalError}
    (scanned : input.scan = (.error error, next)) : input.run = ⟨[], .failed error⟩ := by
  rw [run]
  split
  · rename_i same
    rw [scanned] at same
    cases same
    rfl
  · rename_i same
    rw [scanned] at same
    cases same

/-- A run begins with the token that is read first. -/
theorem run_of_ok {input next : Input} {token : Token}
    (scanned : input.scan = (.ok token, next)) : input.run = .cons token next.run := by
  rw [run]
  split
  · rename_i same
    rw [scanned] at same
    cases same
  · rename_i same
    rw [scanned] at same
    cases same
    split
    · rename_i eof
      simp [TokenRun.cons, eof]
    · rfl

end Input

/-- The tokens of a filter text. -/
def tokens (source : String) : TokenRun :=
  (Input.ofString source).run

end Criteria
