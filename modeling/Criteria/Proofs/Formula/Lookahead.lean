import Criteria.Proofs.Formula.Turns
import Mathlib.Data.Option.Basic
import Mathlib.Logic.Function.Iterate

/-! # Looking ahead

Tokens can be read, looked at, and taken back directly after they have been read. In whatever order
this is done, a stream is a cursor on the results that mere reading gives: none is lost, and none comes
twice. What has been looked at or taken back is read as if it had never been touched, by itself or as
part of a formula.
-/

/-- Related results stay related if what is done with them next is. -/
theorem Option.Rel.bind {α β γ δ : Type} {related : α → β → Prop} {after : γ → δ → Prop}
    {first : Option α} {second : Option β} {f : α → Option γ} {g : β → Option δ}
    (relates : Option.Rel related first second)
    (next : ∀ a b, related a b → Option.Rel after (f a) (g b)) :
    Option.Rel after (first.bind f) (second.bind g) := by
  cases relates with
  | some same => exact next _ _ same
  | none => exact .none

theorem Option.Rel.none_or_some {α β : Type} {related : α → β → Prop} {first : Option α}
    {second : Option β} (relates : Option.Rel related first second) :
    first = .none ∧ second = .none ∨
      ∃ a b, first = .some a ∧ second = .some b ∧ related a b := by
  cases relates with
  | some same => exact .inr ⟨_, _, rfl, rfl, same⟩
  | none => exact .inl ⟨rfl, rfl⟩

namespace Criteria

namespace TokenStream

/-- What can be done with a stream. -/
inductive Use where
  | next
  | peek
  | undo
deriving DecidableEq

/-- The result that a use gives. Taking back gives none. -/
abbrev Answer := Option (Except LexicalError Token)

/-- Make several uses, if all of them are possible. -/
def useAll {σ : Type} (use : σ → Use → Option (Answer × σ)) (state : σ) :
    List Use → Option (List Answer × σ)
  | [] => some ([], state)
  | first :: others => do
    let (answer, after) ← use state first
    let (answers, last) ← useAll use after others
    return (answer :: answers, last)

/-- A stream in use, and the token that can be taken back because it has just been read. -/
structure Session where
  stream : TokenStream
  last : Option Token
deriving DecidableEq

/-- No token of the source has been read. -/
def Session.start (source : String) : Session :=
  ⟨ofString source, none⟩

/-- Use a stream. -/
def Session.use (session : Session) : Use → Option (Answer × Session)
  | .next =>
    let (result, after) := session.stream.next
    some (some result, ⟨after, result.toOption⟩)
  | .peek =>
    let (result, after) := session.stream.peek
    some (some result, ⟨after, none⟩)
  | .undo => do
    let token ← session.last
    return (none, ⟨session.stream.unread token, none⟩)

/-- A position in a sequence of results, and whether the result before it can be taken back. -/
structure Cursor where
  position : Nat
  canUndo : Bool
deriving DecidableEq

/-- The beginning of the results. -/
def Cursor.start : Cursor :=
  ⟨0, false⟩

/-- Move a cursor over results. Looking at an error goes past it. -/
def Cursor.use (results : Nat → Except LexicalError Token) (cursor : Cursor) :
    Use → Option (Answer × Cursor)
  | .next =>
    some (some (results cursor.position), ⟨cursor.position + 1, (results cursor.position).isOk⟩)
  | .peek =>
    match results cursor.position with
    | .ok token => some (some (.ok token), ⟨cursor.position, false⟩)
    | .error error => some (some (.error error), ⟨cursor.position + 1, false⟩)
  | .undo => if cursor.canUndo then some (none, ⟨cursor.position - 1, false⟩) else none

/-- The stream after a number of tokens or errors have been read. -/
def skip (count : Nat) (stream : TokenStream) : TokenStream :=
  (fun stream => stream.next.2)^[count] stream

variable {source : String} {stream other after : TokenStream} {token : Token}

/-! ### Reading on -/

theorem skip_succ (count : Nat) (stream : TokenStream) :
    stream.skip (count + 1) = (stream.skip count).next.2 :=
  Function.iterate_succ_apply' _ _ _

theorem pending_skip (source : String) (count : Nat) : ((ofString source).skip count).pending = none := by
  cases count with
  | zero => rfl
  | succ count =>
    rw [skip_succ]
    exact pending_of_next (Prod.eta _).symm

theorem result_eq_skip (stream : TokenStream) (index : Nat) :
    stream.result index = (stream.skip index).next.1 := by
  induction index generalizing stream with
  | zero => rfl
  | succ index ih => exact ih stream.next.2

theorem result_skip (stream : TokenStream) (count index : Nat) :
    (stream.skip count).result index = stream.result (count + index) := by
  rw [result_eq_skip, result_eq_skip, skip, skip, skip, ← Function.iterate_add_apply, Nat.add_comm]

/-- All results follow from what is read next. -/
theorem result_congr (same : stream.next = other.next) (index : Nat) :
    stream.result index = other.result index := by
  cases index with
  | zero => exact congrArg Prod.fst same
  | succ index => exact congrArg (·.2.result index) same

/-- A formula is read from what is read next. -/
theorem readFormula_congr (same : stream.next = other.next) :
    stream.readFormula = other.readFormula := by
  have run : stream.run = other.run := by
    cases read : other.next with
    | mk result after =>
      rw [read] at same
      cases result with
      | error error => rw [run_of_error same, run_of_error read]
      | ok token => rw [run_of_ok same, run_of_ok read]
  rw [readFormula_eq, readFormula_eq, run]

theorem result_of_again (again : stream.next = (.ok token, stream)) (index : Nat) :
    stream.result index = .ok token := by
  induction index with
  | zero => rw [result, again]
  | succ index ih => rwa [result, again]

/-- Once a source has ended, all further results are its end. -/
theorem result_of_eof {index : Nat} (read : (ofString source).result index = .ok token)
    (ends : token.kind = .eof) (later : Nat) :
    (ofString source).result (index + later) = .ok token := by
  cases later with
  | zero => exact read
  | succ later =>
    have next : ((ofString source).skip index).next =
        (.ok token, (ofString source).skip (index + 1)) := by
      rw [result_eq_skip] at read
      rw [skip_succ, ← read]
    have again := next_of_eof (pending_skip source index) next ends
    rw [← Nat.add_assoc, Nat.add_right_comm, ← result_skip]
    exact result_of_again again later

/-! ### The cursor of a session -/

/-- A session whose stream stands where a cursor is: directly after a token that has been read; or
where it has been read up to; or there with the next token taken back. -/
inductive Follows (source : String) : Session → Cursor → Prop
  | justRead {position : Nat} {token : Token} {after : TokenStream}
      (read : ((ofString source).skip position).next = (.ok token, after)) :
      Follows source ⟨after, some token⟩ ⟨position + 1, true⟩
  | untouched (position : Nat) : Follows source ⟨(ofString source).skip position, none⟩ ⟨position, false⟩
  | takenBack {position : Nat} {token : Token} {after : TokenStream}
      (read : ((ofString source).skip position).next = (.ok token, after)) :
      Follows source ⟨after.unread token, none⟩ ⟨position, false⟩

theorem skip_succ_of_next {position : Nat} {result : Except LexicalError Token}
    (read : (stream.skip position).next = (result, after)) : after = stream.skip (position + 1) := by
  rw [skip_succ, read]

namespace Follows

variable {session : Session} {cursor : Cursor}

/-- A session reads on as if nothing had been looked at or taken back. -/
theorem next_eq (follows : Follows source session cursor) :
    session.stream.next = ((ofString source).skip cursor.position).next := by
  cases follows with
  | justRead read => rw [skip_succ_of_next read]
  | untouched => rfl
  | takenBack read => rw [read, next_unread_of_next read]

/-- Where a token can be taken back, no other one has been. -/
theorem last_or_pending_eq_none (follows : Follows source session cursor) :
    session.last = none ∨ session.stream.pending = none := by
  cases follows with
  | justRead read => exact .inr (pending_of_next read)
  | untouched | takenBack => exact .inl rfl

/-- A use that is possible in a session is possible with its cursor; it gives the same answer, and the
cursor moves with the session. -/
theorem use (follows : Follows source session cursor) (use : Use) :
    Option.Rel (fun first second => first.1 = second.1 ∧ Follows source first.2 second.2)
      (session.use use) (cursor.use (ofString source).result use) := by
  have next := follows.next_eq
  cases use with
  | next =>
    simp only [Session.use, Cursor.use, next, result_eq_skip]
    cases read : ((ofString source).skip cursor.position).next with
    | mk result after =>
      refine .some ⟨rfl, ?_⟩
      cases result with
      | error error =>
        rw [skip_succ_of_next read]
        exact .untouched _
      | ok token => exact .justRead read
  | peek =>
    simp only [Session.use, TokenStream.peek, Cursor.use, next, result_eq_skip]
    cases read : ((ofString source).skip cursor.position).next with
    | mk result after =>
      cases result with
      | error error =>
        rw [skip_succ_of_next read]
        exact .some ⟨rfl, .untouched _⟩
      | ok token => exact .some ⟨rfl, .takenBack read⟩
  | undo =>
    cases follows with
    | justRead read => exact .some ⟨rfl, .takenBack read⟩
    | untouched | takenBack => exact .none

/-- The same holds of several uses. -/
theorem useAll (follows : Follows source session cursor) (uses : List Use) :
    Option.Rel (fun first second => first.1 = second.1 ∧ Follows source first.2 second.2)
      (TokenStream.useAll Session.use session uses)
      (TokenStream.useAll (Cursor.use (ofString source).result) cursor uses) := by
  induction uses generalizing session cursor with
  | nil => exact .some ⟨rfl, follows⟩
  | cons use others ih =>
    refine (follows.use use).bind fun first second ⟨same, moved⟩ => ?_
    refine (ih moved).bind fun others rest ⟨sameOthers, last⟩ => ?_
    exact .some ⟨congrArg₂ List.cons same sameOthers, last⟩

end Follows

end TokenStream

open TokenStream

/-- Reading the tokens of a source, looking at them, and taking back what has just been read are
possible in the same orders, and give the same answers, as moving a cursor over the results of mere
reading. What is read next, results or a formula, is read as from the position of the cursor, even if
a token is read and taken back once more. The end of the source comes after at most as many results as
it has bytes, and then again and again. -/
theorem useAll_follows_cursor (source : String) (uses : List Use) :
    (useAll Session.use (.start source) uses = none ∧
        useAll (Cursor.use (ofString source).result) .start uses = none ∨
      ∃ answers session cursor,
        useAll Session.use (.start source) uses = some (answers, session) ∧
        useAll (Cursor.use (ofString source).result) .start uses = some (answers, cursor) ∧
        (session.last = none ∨ session.stream.pending = none) ∧
        (∀ index, session.stream.result index =
          (ofString source).result (cursor.position + index)) ∧
        session.stream.readFormula = ((ofString source).skip cursor.position).readFormula ∧
        ∀ token after, session.stream.next = (.ok token, after) →
          (after.unread token).readFormula = session.stream.readFormula) ∧
    (∃ index ≤ source.utf8ByteSize, ∃ token,
      (ofString source).result index = .ok token ∧ token.kind = .eof) ∧
    ∀ index token, (ofString source).result index = .ok token → token.kind = .eof →
      ∀ later, (ofString source).result (index + later) = .ok token := by
  have ending := exists_result_eof (ofString source)
  rw [remaining_ofString] at ending
  refine ⟨?_, ending, fun index token read ends => result_of_eof read ends⟩
  have start : Follows source (.start source) .start := .untouched 0
  rcases (start.useAll uses).none_or_some with nothing | ⟨first, second, used, moved, same, follows⟩
  · exact .inl nothing
  · obtain ⟨answers, session⟩ := first
    obtain ⟨_, cursor⟩ := second
    cases same
    have next := follows.next_eq
    refine .inr ⟨answers, session, cursor, used, moved, follows.last_or_pending_eq_none, fun index => ?_,
      readFormula_congr next, fun token after read => ?_⟩
    · rw [result_congr next, result_skip]
    · exact readFormula_congr ((next_unread_of_next read).trans read.symm)

/-- A lexical error between a name and a clause. -/
def hastySource : String := "a!b>c"

/-- The name is looked at, read and taken back, and read again; then the error is looked at. -/
def hastyUses : List Use := [.peek, .next, .undo, .next, .peek]

/-- What is answered then. -/
def hastyAnswers : List Answer :=
  [some (.ok ⟨.ident, "a", 0⟩), some (.ok ⟨.ident, "a", 0⟩), none, some (.ok ⟨.ident, "a", 0⟩),
    some (.error (.incompleteOperator .bang 1))]

/-- What is left then. -/
def hastyRest : TokenStream := ⟨⟨2, ['b', '>', 'c']⟩, none, false⟩

theorem useAll_follows_cursor_hasty :
    useAll Session.use (.start hastySource) hastyUses = some (hastyAnswers, ⟨hastyRest, none⟩) ∧
    useAll (Cursor.use (ofString hastySource).result) .start hastyUses =
      some (hastyAnswers, ⟨2, false⟩) ∧
    hastyRest.result 1 = (ofString hastySource).result (2 + 1) ∧
    hastyRest.readFormula = ((ofString hastySource).skip 2).readFormula ∧
    hastyRest.next = (.ok ⟨.ident, "b", 2⟩, ⟨⟨3, ['>', 'c']⟩, none, false⟩) ∧
    (TokenStream.mk ⟨3, ['>', 'c']⟩ (some ⟨.ident, "b", 2⟩) false).readFormula =
      hastyRest.readFormula ∧
    (ofString hastySource).result 5 = .ok ⟨.eof, "", 5⟩ ∧
    (ofString hastySource).result (5 + 3) = .ok ⟨.eof, "", 5⟩ := by
  have used : useAll Session.use (.start hastySource) hastyUses =
      some (hastyAnswers, ⟨hastyRest, none⟩) := by decide +kernel
  have moved : useAll (Cursor.use (ofString hastySource).result) .start hastyUses =
      some (hastyAnswers, ⟨2, false⟩) := by decide +kernel
  have read : hastyRest.next = (.ok ⟨.ident, "b", 2⟩, ⟨⟨3, ['>', 'c']⟩, none, false⟩) := by
    decide +kernel
  have eof : (ofString hastySource).result 5 = .ok ⟨.eof, "", 5⟩ := by decide +kernel
  obtain ⟨⟨impossible, _⟩ | ⟨_, _, _, uses, moves, _, results, formula, again⟩, _, ends⟩ :=
    useAll_follows_cursor hastySource hastyUses
  · cases used.symm.trans impossible
  · cases used.symm.trans uses
    cases moved.symm.trans moves
    exact ⟨used, moved, results 1, formula, read, again _ _ read, eof, ends 5 _ eof rfl 3⟩

end Criteria
