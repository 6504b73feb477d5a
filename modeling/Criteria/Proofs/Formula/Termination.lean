import Criteria.Proofs.Formula.Turns

/-! # Reading comes to an end

The cursor stays between the characters of a source and moves with every reading until the text ends.
So an iteration gives at most one item for each byte, and the loops that read a formula take at most one
turn for each byte before the turn that returns.
-/

namespace Criteria

open Text

namespace TokenStream

variable {stream after last : TokenStream} {count : Nat}

/-- A number of turns, none of which ends the reading, leads from one stream to another. -/
inductive Turns : (count : Nat) → (stream last : TokenStream) → Prop
  | none (stream : TokenStream) : Turns 0 stream stream
  | more {stream after last : TokenStream} {turn : Turn} {count : Nat}
      (took : stream.turn = .ok (turn, after)) (goesOn : turn ≠ .ended)
      (later : Turns count after last) : Turns (count + 1) stream last

/-- Each turn uses up at least one byte, or the token that has been taken back. -/
theorem Turns.count_add_remaining_le (turns : Turns count stream last) :
    count + last.remaining ≤ stream.remaining := by
  induction turns with
  | none => rw [Nat.zero_add]
  | more took goesOn _ ih =>
    have less := remaining_lt_of_turn took goesOn
    omega

theorem Turn.before_error {turn : Turn} (goesOn : turn ≠ .ended) (error : SyntaxError) :
    turn.before (.error error) = .error error := by
  cases turn with
  | ended => contradiction
  | closed | separated | clause => rfl

theorem Turn.exists_before_ok (turn : Turn) (later : OpenGroups) :
    ∃ groups, turn.before (.ok later) = .ok groups := by
  cases turn <;> exact ⟨_, rfl⟩

/-- Some number of turns leads to one that returns: with the error that is made in the tokens to come,
or, if they can be read, where the text ends. -/
theorem exists_turns (stream : TokenStream) :
    ∃ count last, Turns count stream last ∧
      ((∃ error, last.turn = .error error ∧ stream.openGroups = .error error) ∨
        ∃ after groups, last.turn = .ok (.ended, after) ∧ stream.openGroups = .ok groups) := by
  cases took : stream.turn with
  | error error =>
    have fault : stream.openGroups = .error error := by
      rw [openGroups_eq, took]
      rfl
    exact ⟨0, stream, .none stream, .inl ⟨error, took, fault⟩⟩
  | ok came =>
    obtain ⟨turn, after⟩ := came
    have step : stream.openGroups = turn.before after.openGroups := by
      rw [openGroups_eq, took]
      rfl
    by_cases ends : turn = .ended
    · subst ends
      exact ⟨0, stream, .none stream, .inr ⟨after, .empty, took, step⟩⟩
    · obtain ⟨count, last, turns, returns⟩ := exists_turns after
      refine ⟨count + 1, last, .more took ends turns, ?_⟩
      rw [step]
      rcases returns with ⟨error, fails, fault⟩ | ⟨behind, later, finished, read⟩
      · rw [fault]
        exact .inl ⟨error, fails, Turn.before_error ends error⟩
      · obtain ⟨groups, added⟩ := turn.exists_before_ok later
        rw [read]
        exact .inr ⟨behind, groups, finished, added⟩
termination_by stream.remaining
decreasing_by exact remaining_lt_of_turn took ends

theorem readFormula_ofString (source : String) :
    (ofString source).readFormula = Formula.parse source :=
  readFormula_eq _

end TokenStream

open TokenStream

/-- However a source is read, the cursor stands before a character of it or at its end, and a reading
with nothing taken back moves it on unless it gives the end of the text there. An iteration gives at
most one item for each byte. Each turn of the loops that read a formula returns or leaves less to be
read; after at most as many turns as there are bytes one of them returns, and what it returns is the
result of the filter. -/
theorem reading_ends (source : String) :
    (∀ stream, Reachable source stream →
      (⟨stream.input.offset⟩ : String.Pos.Raw).IsValid source ∧
        stream.input.offset ≤ source.utf8ByteSize ∧
        (stream.pending = none →
          (∃ token, stream.next.1 = .ok token ∧ token.kind = .eof ∧
              stream.next.2.input.offset = source.utf8ByteSize) ∨
            stream.input.offset < stream.next.2.input.offset)) ∧
    (∃ count ≤ source.utf8ByteSize, ∀ index,
      ((ofString source).item index).isSome ↔ index < count) ∧
    (∀ (stream after : TokenStream) (turn : Turn), stream.turn = .ok (turn, after) →
      turn = .ended ∨ after.remaining < stream.remaining) ∧
    (∀ (stream after : TokenStream) (clauses : List Clause) (closed : Bool),
      stream.readGroup = .ok ((clauses, closed), after) →
      closed = false ∨ after.remaining < stream.remaining) ∧
    (∃ count ≤ source.utf8ByteSize, ∃ last, Turns count (ofString source) last ∧
      ((∃ error, last.turn = .error error ∧ Formula.parse source = .error error) ∨
        ∃ after formula, last.turn = .ok (.ended, after) ∧ Formula.parse source = .ok formula)) ∧
    (ofString source).readFormula = Formula.parse source := by
  refine ⟨fun stream reachable => ?_, exists_item_count source, fun stream after turn took => ?_,
    fun stream after clauses closed read => ?_, ?_, readFormula_ofString source⟩
  · have left := reachable.isLeftOf
    have length := left.byteLength_eq
    rw [byteLength_toList] at length
    exact ⟨(left.standsAt (List.nil_append _).symm).isValid, by omega, reachable.next_progress⟩
  · exact or_iff_not_imp_left.mpr (remaining_lt_of_turn took)
  · cases closed with
    | false => exact .inl rfl
    | true => exact .inr (remaining_lt_of_readGroup read)
  · obtain ⟨count, last, turns, returns⟩ := exists_turns (ofString source)
    have bound := turns.count_add_remaining_le
    rw [remaining_ofString] at bound
    refine ⟨count, by omega, last, turns, ?_⟩
    have parsed : Formula.parse source = do return (← (ofString source).openGroups).formula := rfl
    rw [parsed]
    rcases returns with ⟨error, fails, fault⟩ | ⟨after, groups, finished, read⟩
    · rw [fault]
      exact .inl ⟨error, fails, rfl⟩
    · rw [read]
      exact .inr ⟨after, _, finished, rfl⟩

/-- A closed group, with a name of a character of two bytes, and then a lexical error. -/
def brokenSource : String := "n\u00e9>1;!"

/-- What is left of it behind the semicolon. -/
def brokenRest : TokenStream := ⟨⟨6, ['!']⟩, none, false⟩

theorem reading_ends_broken :
    Reachable brokenSource brokenRest ∧ brokenRest.pending = none ∧
      (⟨6⟩ : String.Pos.Raw).IsValid brokenSource ∧
      brokenRest.next.1 = .error (.incompleteOperator .bang 6) ∧
      brokenRest.input.offset < brokenRest.next.2.input.offset ∧
      (ofString brokenSource).item 7 = none ∧
      (ofString brokenSource).turn =
        .ok (.clause (.ofRaw "n\u00e9" .greater "1"), ⟨⟨5, [';', '!']⟩, none, false⟩) ∧
      (TokenStream.mk ⟨5, [';', '!']⟩ none false).remaining < (ofString brokenSource).remaining ∧
      (ofString brokenSource).readGroup =
        .ok (([.ofRaw "n\u00e9" .greater "1"], true), brokenRest) ∧
      brokenRest.remaining < (ofString brokenSource).remaining ∧
      (ofString brokenSource).readFormula = .error (.lexical (.incompleteOperator .bang 6)) := by
  have read : (ofString brokenSource).next.2.next.2.next.2.next.2 = brokenRest := by
    decide +kernel
  have reachable : Reachable brokenSource brokenRest := read ▸ Reachable.start.next.next.next.next
  have failed : brokenRest.next.1 = .error (.incompleteOperator .bang 6) := by decide +kernel
  have clause : (ofString brokenSource).turn =
      .ok (.clause (.ofRaw "n\u00e9" .greater "1"), ⟨⟨5, [';', '!']⟩, none, false⟩) := by
    decide +kernel
  have group : (ofString brokenSource).readGroup =
      .ok (([.ofRaw "n\u00e9" .greater "1"], true), brokenRest) := by decide +kernel
  have fault : Formula.parse brokenSource = .error (.lexical (.incompleteOperator .bang 6)) := by
    decide +kernel
  obtain ⟨cursor, ⟨count, bound, items⟩, turns, groups, _, loops⟩ := reading_ends brokenSource
  obtain ⟨valid, _, progress⟩ := cursor brokenRest reachable
  have moves := (progress rfl).resolve_left fun ⟨_, ok, _⟩ => by cases failed.symm.trans ok
  have noItem : (ofString brokenSource).item 7 = none := by
    rw [← Option.not_isSome_iff_eq_none, items]
    exact Nat.not_lt.mpr bound
  exact ⟨reachable, rfl, valid, failed, moves, noItem, clause,
    (turns _ _ _ clause).resolve_left (by simp), group,
    (groups _ _ _ _ group).resolve_left (by simp), loops.trans fault⟩

end Criteria
