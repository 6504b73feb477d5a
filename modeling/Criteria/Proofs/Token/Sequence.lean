import Criteria.Proofs.Text.Span
import Criteria.Proofs.Token.Reading
import Criteria.Token.Stream
import Mathlib.Data.List.Chain

/-! # Sequences of tokens

Read one after the other, the tokens of a text are those of its run. No name or value directly
follows another one: it goes on as far as its characters reach, and a token that begins after it
begins with none of them.
-/

namespace Criteria

open Text

/-- What a stream gives token by token, up to the first that ends a sequence. -/
inductive TokenStream.Reads : TokenStream → TokenRun → Prop
  | eof {stream after : TokenStream} {token : Token} (read : stream.next = (.ok token, after))
      (ends : token.kind = .eof) : Reads stream ⟨[], .eof token.start⟩
  | invalid {stream after : TokenStream} {token : Token} (read : stream.next = (.ok token, after))
      (ends : token.kind = .invalid) : Reads stream ⟨[], .invalid token.text token.start⟩
  | failed {stream after : TokenStream} {error : LexicalError}
      (read : stream.next = (.error error, after)) : Reads stream ⟨[], .failed error⟩
  | token {stream after : TokenStream} {token : Token} {run : TokenRun}
      (read : stream.next = (.ok token, after)) (goesOn : token.kind ≠ .eof ∧ token.kind ≠ .invalid)
      (rest : Reads after run) : Reads stream ⟨token :: run.tokens, run.ending⟩

/-- A run with one more token that does not end it. -/
theorem TokenRun.cons_of_goesOn {token : Token}
    (goesOn : token.kind ≠ .eof ∧ token.kind ≠ .invalid) (run : TokenRun) :
    cons token run = ⟨token :: run.tokens, run.ending⟩ := by
  unfold cons
  split <;> simp_all

/-- In a run that reaches the end of the text, no token is invalid. -/
theorem TokenRun.goesOn_of_ending {token : Token} {run : TokenRun} {start : Nat}
    (unended : token.kind ≠ .eof) (ends : (cons token run).ending = .eof start) :
    token.kind ≠ .eof ∧ token.kind ≠ .invalid := by
  refine ⟨unended, fun invalid => ?_⟩
  simp [cons, invalid] at ends

/-- The tokens of an input are read where no token has been taken back. -/
theorem TokenStream.reads_run (input : Input) (finished : Bool) :
    (TokenStream.mk input none finished).Reads input.run := by
  fun_induction Input.run input with
  | case1 input error next scanned => exact .failed (by rw [TokenStream.next, scanned])
  | case2 input token next scanned ends => exact .eof (by rw [TokenStream.next, scanned]) ends
  | case3 input token next scanned goesOn ih =>
    have read : (TokenStream.mk input none finished).next = (.ok token, ⟨next, none, finished⟩) := by
      rw [TokenStream.next, scanned]
    by_cases invalid : token.kind = .invalid
    · simp only [TokenRun.cons, invalid]
      exact .invalid read invalid
    · rw [TokenRun.cons_of_goesOn ⟨goesOn, invalid⟩]
      exact .token read ⟨goesOn, invalid⟩ ih

/-! ### Where names and values end -/

namespace Input

variable {input next : Input} {token : Token}

/-- Names and values are read in one way only. -/
theorem scanIdent_of_scan (scanned : input.scan = (.ok token, next)) (ident : token.kind = .ident) :
    input.skipSpaces.scanIdent = (token, next) := by
  cases scanHere_eq_ok_iff.mp scanned with
  | eof | pair | loneEqual => cases ident
  | single _ _ known => exact absurd ident (TokenKind.ofChar?_ne_ident known)
  | ident _ _ _ _ _ read => exact read

/-- What follows a name or value is none of its characters. -/
theorem continuesIdent_of_scan (scanned : input.scan = (.ok token, next))
    (ident : token.kind = .ident) : ∀ char ∈ next.rest.head?, continuesIdent char = false := by
  cases scanIdent_eq_iff.mp (scanIdent_of_scan scanned ident) with
  | eof | invalid => cases ident
  | ident => exact fun _ => (isSpan_identSpan _).continuesIdent_of_mem_head?

/-- Where none of its characters stands, no name or value is read. -/
theorem kind_ne_ident_of_scan (stops : ∀ char ∈ input.rest.head?, continuesIdent char = false)
    (scanned : input.scan = (.ok token, next)) : token.kind ≠ .ident := by
  intro ident
  have visible : ∀ char ∈ input.rest.head?, char ≠ ' ' := by
    rintro char follows rfl
    exact absurd (stops _ follows) (by decide)
  have nothing : identName input.rest = [] := by
    rw [identName, identSpan_of_head stops]
    rfl
  have read := scanIdent_of_scan scanned ident
  rw [skipSpaces_of_head visible] at read
  cases scanIdent_eq_iff.mp read with
  | eof | invalid => cases ident
  | ident ne_nil => exact ne_nil nothing

/-- The tokens of a run do not begin with a name or value where none of its characters stands. -/
theorem kind_ne_ident_of_mem_head?_run
    (stops : ∀ char ∈ input.rest.head?, continuesIdent char = false) :
    ∀ token ∈ input.run.tokens.head?, token.kind ≠ .ident := by
  intro first begins
  cases scanned : input.scan with
  | mk result next =>
    cases result with
    | error error =>
      rw [run_of_error scanned] at begins
      contradiction
    | ok token =>
      have other := kind_ne_ident_of_scan stops scanned
      rw [run_of_ok scanned, TokenRun.cons] at begins
      split at begins
      · contradiction
      · contradiction
      · obtain rfl := Option.some.inj begins
        exact other

/-- No name or value directly follows another one. -/
theorem isChain_run (input : Input) :
    input.run.tokens.IsChain fun first second => first.kind = .ident → second.kind ≠ .ident := by
  fun_induction Input.run input with
  | case1 => exact .nil
  | case2 => exact .nil
  | case3 input token next scanned _ ih =>
    unfold TokenRun.cons
    split
    · exact .nil
    · exact .nil
    · refine List.isChain_cons.mpr ⟨fun second follows ident => ?_, ih⟩
      exact kind_ne_ident_of_mem_head?_run (continuesIdent_of_scan scanned ident) second follows

end Input

end Criteria
