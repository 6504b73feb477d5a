import Criteria.Proofs.Formula.Groups
import Criteria.Proofs.Token.Progress

/-! # Reading formulas in turns

A formula is read from a stream by two loops: one goes from group to group, the other one from clause
to clause. A turn of the inner loop looks at one token and either ends the group, skips a separator, or
takes the token back and reads a clause that begins with it. Every turn that does not end the reading
leaves less to be read, so that both loops end, and what they read is what the tokens of the stream are
read as.
-/

namespace Criteria

open Text

/-! ### What tokens are accepted as -/

namespace Token

/-- The name that a token is. -/
def asName (token : Token) : Except SyntaxError String :=
  match token.kind with
  | .ident => .ok token.text
  | .invalid => .error (.invalidToken token.text token.start)
  | .eof | .and | .or | .operator _ => .error (.identExpected token.text token.start)

/-- The operator that a token after a name is. -/
def asOperator (name : String) (token : Token) : Except SyntaxError Operator :=
  match token.kind with
  | .operator operator => .ok operator
  | .eof => .error (.operatorExpected name token.start)
  | .invalid => .error (.invalidToken token.text token.start)
  | .and | .or | .ident => .error (.unexpectedToken token.text token.start)

/-- The value that a token is. At the end of a text it is empty. -/
def asValue (token : Token) : Except SyntaxError String :=
  match token.kind with
  | .ident => .ok token.text
  | .eof => .ok ""
  | .invalid => .error (.invalidToken token.text token.start)
  | .and | .or | .operator _ => .error (.identExpected token.text token.start)

end Token

namespace TokenStream

/-- Read the next token as something. -/
def readAs {α : Type} (accept : Token → Except SyntaxError α) (stream : TokenStream) :
    Except SyntaxError (α × TokenStream) :=
  match stream.next with
  | (.error error, _) => .error (.lexical error)
  | (.ok token, after) => return (← accept token, after)

/-- Read a clause. -/
def readClause (stream : TokenStream) : Except SyntaxError (Clause × TokenStream) := do
  let (name, stream) ← stream.readAs Token.asName
  let (operator, stream) ← stream.readAs (Token.asOperator name)
  let (value, stream) ← stream.readAs Token.asValue
  return (.ofRaw name operator value, stream)

/-- What a turn of reading a group comes to. -/
inductive Turn where
  | ended
  | closed
  | separated
  | clause (clause : Clause)
deriving DecidableEq

/-- Take a turn of reading a group. -/
def turn (stream : TokenStream) : Except SyntaxError (Turn × TokenStream) :=
  match stream.next with
  | (.error error, _) => .error (.lexical error)
  | (.ok token, after) =>
    match token.kind with
    | .eof => .ok (.ended, after)
    | .and => .ok (.closed, after)
    | .or => .ok (.separated, after)
    | .invalid | .ident | .operator _ => do
      let (clause, last) ← (after.unread token).readClause
      return (.clause clause, last)

variable {stream after last : TokenStream} {token : Token} {error : LexicalError}

section readAs

variable {α : Type} {accept : Token → Except SyntaxError α} {item : α}

theorem readAs_of_error (read : stream.next = (.error error, after)) :
    stream.readAs accept = .error (.lexical error) := by
  rw [readAs, read]

theorem readAs_of_ok (read : stream.next = (.ok token, after)) :
    stream.readAs accept = do return (← accept token, after) := by
  rw [readAs, read]

theorem exists_of_readAs (read : stream.readAs accept = .ok (item, after)) :
    ∃ token, stream.next = (.ok token, after) ∧ accept token = .ok item := by
  unfold readAs at read
  split at read
  · cases read
  · rename_i token next same
    obtain ⟨_, accepted, pair⟩ := Except.bind_pure_eq_ok_iff.mp read
    cases pair
    exact ⟨token, same, accepted⟩

theorem remaining_le_of_readAs (read : stream.readAs accept = .ok (item, after)) :
    after.remaining ≤ stream.remaining := by
  obtain ⟨token, next, _⟩ := exists_of_readAs read
  exact remaining_le_of_next next

end readAs

/-- A name uses up something of a text, or the token that has been taken back. -/
theorem remaining_lt_of_name {name : String} (read : stream.readAs Token.asName = .ok (name, after)) :
    after.remaining < stream.remaining := by
  obtain ⟨token, next, accepted⟩ := exists_of_readAs read
  refine remaining_lt_of_next next (isItem_of_kind_ne fun ends => ?_)
  rw [Token.asName, ends] at accepted
  cases accepted

theorem remaining_lt_of_readClause {clause : Clause}
    (read : stream.readClause = .ok (clause, after)) : after.remaining < stream.remaining := by
  obtain ⟨⟨name, behindName⟩, readName, read⟩ := Except.bind_eq_ok_iff.mp read
  obtain ⟨⟨operator, behindOperator⟩, readOperator, read⟩ := Except.bind_eq_ok_iff.mp read
  obtain ⟨⟨value, last⟩, readValue, same⟩ := Except.bind_pure_eq_ok_iff.mp read
  cases same
  calc
    last.remaining ≤ behindOperator.remaining := remaining_le_of_readAs readValue
    _ ≤ behindName.remaining := remaining_le_of_readAs readOperator
    _ < stream.remaining := remaining_lt_of_name readName

/-- A turn that does not end the reading leaves less to be read. -/
theorem remaining_lt_of_turn {turn : Turn} (took : stream.turn = .ok (turn, after))
    (goesOn : turn ≠ .ended) : after.remaining < stream.remaining := by
  unfold TokenStream.turn at took
  cases read : stream.next with
  | mk result next =>
    rw [read] at took
    cases result with
    | error => cases took
    | ok token =>
      cases kind : token.kind with
      | eof =>
        simp only [kind] at took
        cases took
        exact absurd rfl goesOn
      | and | or =>
        simp only [kind] at took
        cases took
        exact remaining_lt_of_next read (isItem_of_kind_ne (by simp [kind]))
      | invalid | ident | operator =>
        simp only [kind] at took
        obtain ⟨⟨clause, last⟩, readClause, same⟩ := Except.bind_pure_eq_ok_iff.mp took
        cases same
        exact (remaining_lt_of_readClause readClause).trans_le
          (remaining_unread_le read (by simp [kind]))

/-! ### The loops -/

/-- Read the clauses of a group, and whether a semicolon closes it. -/
def readGroup (stream : TokenStream) : Except SyntaxError ((List Clause × Bool) × TokenStream) :=
  match _ : stream.turn with
  | .error error => .error error
  | .ok (.ended, after) => .ok (([], false), after)
  | .ok (.closed, after) => .ok (([], true), after)
  | .ok (.separated, after) => after.readGroup
  | .ok (.clause clause, after) => do
    let ((clauses, closed), last) ← after.readGroup
    return ((clause :: clauses, closed), last)
termination_by stream.remaining
decreasing_by all_goals exact remaining_lt_of_turn ‹stream.turn = _› (by simp)

/-- A group that a semicolon closes leaves less to be read. -/
theorem remaining_lt_of_readGroup {clauses : List Clause}
    (read : stream.readGroup = .ok ((clauses, true), last)) : last.remaining < stream.remaining := by
  fun_induction readGroup stream generalizing clauses with
  | case1 => cases read
  | case2 => cases read
  | case3 stream after took =>
    cases read
    exact remaining_lt_of_turn took nofun
  | case4 stream after took ih => exact (ih read).trans (remaining_lt_of_turn took nofun)
  | case5 stream clause after took ih =>
    obtain ⟨⟨⟨others, closed⟩, behind⟩, later, same⟩ := Except.bind_pure_eq_ok_iff.mp read
    cases same
    exact (ih later).trans (remaining_lt_of_turn took nofun)

/-- Read all groups, and leave out the empty ones. -/
def readGroups (stream : TokenStream) : Except SyntaxError (List (List Clause)) :=
  match _ : stream.readGroup with
  | .error error => .error error
  | .ok ((clauses, false), _) => .ok (if clauses.isEmpty then [] else [clauses])
  | .ok ((clauses, true), after) => do
    let others ← after.readGroups
    return if clauses.isEmpty then others else clauses :: others
termination_by stream.remaining
decreasing_by exact remaining_lt_of_readGroup ‹_›

/-- Read a formula. -/
def readFormula (stream : TokenStream) : Except SyntaxError Formula :=
  return ⟨← stream.readGroups⟩

/-! ### What the loops read -/

/-- The groups that the tokens to come are read as. -/
def openGroups (stream : TokenStream) : Except SyntaxError OpenGroups :=
  TokenRun.groups stream.run.ending stream.run.tokens

/-- Behind the end of a text there is nothing. -/
theorem openGroups_of_eof (fresh : stream.pending = none) (read : stream.next = (.ok token, after))
    (ends : token.kind = .eof) : after.openGroups = .ok .empty := by
  rw [openGroups, run_of_ok (next_of_eof fresh read ends), TokenRun.cons, ends]
  rfl

section clause

variable {name comparison : Token} {operator : Operator}

/-- After a name and an operator, a value is read and then all that follows. -/
theorem groups_name_operator (ident : name.kind = .ident)
    (compares : comparison.kind = .operator operator) (fresh : stream.pending = none) :
    TokenRun.groups stream.run.ending (name :: comparison :: stream.run.tokens) = (do
      let (value, last) ← stream.readAs Token.asValue
      return (← last.openGroups).consClause (.ofRaw name.text operator value)) := by
  rw [TokenRun.groups.eq_def]
  simp only [ident, compares, TokenKind.operator?]
  cases read : stream.next with
  | mk result after =>
    cases result with
    | error error =>
      rw [run_of_error read, readAs_of_error read]
      rfl
    | ok value =>
      rw [run_of_ok read, readAs_of_ok read, Token.asValue]
      cases kind : value.kind with
      | ident =>
        rw [TokenRun.cons_of_goesOn (by simp [kind])]
        simp only [kind, if_true]
        rfl
      | eof =>
        have nothing := openGroups_of_eof fresh read kind
        simp only [TokenRun.cons, kind]
        change _ = (do return (← after.openGroups).consClause (.ofRaw name.text operator ""))
        rw [nothing]
        rfl
      | invalid =>
        simp only [TokenRun.cons, kind]
        rfl
      | and | or | operator =>
        rw [TokenRun.cons_of_goesOn (by simp [kind])]
        simp only [kind]
        rfl

/-- After a name, the rest of its clause is read and then all that follows. -/
theorem groups_name (ident : name.kind = .ident) (stream : TokenStream) :
    TokenRun.groups stream.run.ending (name :: stream.run.tokens) = (do
      let (operator, behind) ← stream.readAs (Token.asOperator name.text)
      let (value, last) ← behind.readAs Token.asValue
      return (← last.openGroups).consClause (.ofRaw name.text operator value)) := by
  cases read : stream.next with
  | mk result after =>
    cases result with
    | error error =>
      rw [run_of_error read, readAs_of_error read, TokenRun.groups.eq_def]
      simp only [ident]
      rfl
    | ok comparison =>
      have fresh := pending_of_next read
      rw [run_of_ok read, readAs_of_ok read, Token.asOperator]
      cases kind : comparison.kind with
      | operator operator =>
        rw [TokenRun.cons_of_goesOn (by simp [kind]), groups_name_operator ident kind fresh]
        rfl
      | eof | invalid =>
        rw [TokenRun.groups.eq_def]
        simp only [TokenRun.cons, kind, ident]
        rfl
      | ident | and | or =>
        rw [TokenRun.cons_of_goesOn (by simp [kind]), TokenRun.groups.eq_def]
        simp only [kind, ident]
        rfl

end clause

/-- What a turn adds to the groups that are read after it. -/
def Turn.before (turn : Turn) (later : Except SyntaxError OpenGroups) :
    Except SyntaxError OpenGroups :=
  match turn with
  | ended => .ok .empty
  | closed => return (← later).close
  | separated => later
  | .clause first => return (← later).consClause first

/-- Groups are read turn by turn. -/
theorem openGroups_eq (stream : TokenStream) :
    stream.openGroups = (do
      let (turn, after) ← stream.turn
      turn.before after.openGroups) := by
  rw [openGroups, turn]
  cases read : stream.next with
  | mk result after =>
    cases result with
    | error error =>
      rw [run_of_error read]
      rfl
    | ok token =>
      have again := next_unread_of_next read
      rw [run_of_ok read]
      cases kind : token.kind with
      | eof =>
        simp only [TokenRun.cons, kind]
        rfl
      | and | or =>
        rw [TokenRun.cons_of_goesOn (by simp [kind]), TokenRun.groups.eq_def]
        simp only [kind]
        rfl
      | ident =>
        rw [TokenRun.cons_of_goesOn (by simp [kind]), groups_name kind]
        simp only [kind, readClause, readAs_of_ok again, Token.asName, bind_assoc, pure_bind]
        rfl
      | invalid =>
        simp only [TokenRun.cons, kind, readClause, readAs_of_ok again, Token.asName]
        rfl
      | operator =>
        rw [TokenRun.cons_of_goesOn (by simp [kind]), TokenRun.groups.eq_def]
        simp only [kind, readClause, readAs_of_ok again, Token.asName]
        rfl

/-- The inner loop reads the first group, and a group that is not closed is the last one. -/
theorem openGroups_eq_readGroup (stream : TokenStream) :
    stream.openGroups = (do
      let ((clauses, closed), after) ← stream.readGroup
      if closed then
        let later ← after.openGroups
        return ⟨clauses, later.first :: later.others⟩
      else
        return ⟨clauses, []⟩) := by
  fun_induction readGroup stream with
  | case1 stream error took | case2 stream after took | case3 stream after took =>
    rw [openGroups_eq, took]
    rfl
  | case4 stream after took ih =>
    rw [openGroups_eq, took]
    exact ih
  | case5 stream clause after took ih =>
    rw [openGroups_eq, took]
    change (do return (← after.openGroups).consClause clause) = _
    rw [ih]
    cases after.readGroup with
    | error error => rfl
    | ok read =>
      obtain ⟨⟨clauses, closed⟩, last⟩ := read
      cases closed with
      | false => rfl
      | true =>
        change (last.openGroups >>= _) >>= _ = last.openGroups >>= _
        cases last.openGroups <;> rfl

/-- The outer loop reads all groups that are not empty. -/
theorem readGroups_eq (stream : TokenStream) :
    stream.readGroups = do return (← stream.openGroups).formula.groups := by
  fun_induction readGroups stream with
  | case1 stream error read =>
    rw [openGroups_eq_readGroup, read]
    rfl
  | case2 stream clauses after read =>
    rw [openGroups_eq_readGroup, read]
    cases clauses <;> rfl
  | case3 stream clauses after read ih =>
    rw [openGroups_eq_readGroup, read, ih]
    change (after.openGroups >>= _) >>= _ = (after.openGroups >>= _) >>= _
    cases after.openGroups with
    | error error => rfl
    | ok later => cases clauses <;> rfl

/-- The loops read what the tokens to come are read as. -/
theorem readFormula_eq (stream : TokenStream) : stream.readFormula = stream.run.formula := by
  rw [readFormula, readGroups_eq]
  change _ = (do return (← stream.openGroups).formula)
  cases stream.openGroups <;> rfl

end TokenStream

end Criteria
