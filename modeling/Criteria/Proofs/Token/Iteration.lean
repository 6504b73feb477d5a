import Criteria.Proofs.Token.Tiling

/-! # Iterating over the tokens of a text

Iteration gives what reading token by token gives, until the text ends or after the first result
that no token can follow; from then on it gives nothing. These are the items of the run, so that a
text that is read to its end can be put together again from what iteration gives.
-/

namespace Criteria

open Text

namespace TokenStream

/-- What the reading with the given index gives, if one token after the other is read. -/
def result (stream : TokenStream) : (index : Nat) → Except LexicalError Token
  | 0 => stream.next.1
  | index + 1 => stream.next.2.result index

/-- What the step of an iteration with the given index gives. -/
def item (stream : TokenStream) : (index : Nat) → Option (Except LexicalError Token)
  | 0 => stream.advance.1
  | index + 1 => stream.advance.2.item index

/-- A result after which there are more: a token that does not end the sequence. -/
def GoesOn (result : Except LexicalError Token) : Prop :=
  ∃ token, result = .ok token ∧ token.kind ≠ .eof ∧ token.kind ≠ .invalid

/-- The result is not the end of the text. -/
def IsItem (result : Except LexicalError Token) : Prop :=
  ∀ token, result = .ok token → token.kind ≠ .eof

variable {stream : TokenStream}

/-- Once an iteration is over it gives nothing. -/
theorem item_of_finished (ended : stream.finished = true) (index : Nat) :
    stream.item index = none := by
  have step : stream.advance = (none, stream) := if_pos ended
  induction index with
  | zero => rw [item, step]
  | succ index ih => rw [item, step, ih]

/-- After the last step, an iteration has given what that step gave. -/
theorem item_of_last {last : Option (Except LexicalError Token)} {after : TokenStream}
    (step : stream.advance = (last, after)) (ended : after.finished = true) (index : Nat) :
    stream.item index = last.toList[index]? := by
  cases index with
  | zero => cases last <;> rw [item, step] <;> rfl
  | succ index => cases last <;> rw [item, step, item_of_finished ended] <;> rfl

theorem GoesOn.isItem {result : Except LexicalError Token} (more : GoesOn result) :
    IsItem result := by
  obtain ⟨token, rfl, noEof, _⟩ := more
  rintro _ ⟨⟩
  exact noEof

/-- A step of an iteration gives the next result and leaves the same to be read, or it is the last
one and gives the next result if that is not the end of the text. -/
theorem advance_cases (unfinished : stream.finished = false) :
    GoesOn stream.next.1 ∧ stream.advance = (some stream.next.1, stream.next.2) ∨
      ¬ GoesOn stream.next.1 ∧ stream.advance.2.finished = true ∧
        ∀ result, stream.advance.1 = some result ↔ stream.next.1 = result ∧ IsItem result := by
  rw [advance, if_neg (by simp [unfinished])]
  obtain ⟨result, after⟩ := stream.next
  cases result with
  | error error =>
    refine .inr ⟨by simp [GoesOn], rfl, fun result => ?_⟩
    simp only [Option.some.injEq, iff_self_and]
    rintro rfl
    simp [IsItem]
  | ok token =>
    obtain ⟨kind, text, start⟩ := token
    cases kind with
    | eof =>
      refine .inr ⟨by simp [GoesOn], rfl, fun result => ⟨nofun, ?_⟩⟩
      rintro ⟨rfl, given⟩
      exact absurd rfl (given _ rfl)
    | invalid =>
      refine .inr ⟨by simp [GoesOn], rfl, fun result => ?_⟩
      simp only [Option.some.injEq, iff_self_and]
      rintro rfl
      simp [IsItem]
    | and | or | ident | operator => exact .inl ⟨by simp [GoesOn], rfl⟩

theorem finished_next (stream : TokenStream) : stream.next.2.finished = stream.finished := by
  unfold next
  split <;> rfl

/-- An iteration gives the results of reading up to the first that is not followed by another one,
which is left out if it is the end of the text. -/
theorem item_eq_some_iff (unfinished : stream.finished = false) {index : Nat}
    {result : Except LexicalError Token} :
    stream.item index = some result ↔
      stream.result index = result ∧ IsItem result ∧
        ∀ earlier < index, GoesOn (stream.result earlier) := by
  induction index generalizing stream with
  | zero =>
    simp only [item, TokenStream.result, Nat.not_lt_zero, false_implies, implies_true, and_true]
    obtain ⟨more, step⟩ | ⟨_, _, given⟩ := advance_cases unfinished
    · rw [step, Option.some.injEq]
      exact ⟨fun same => ⟨same, same ▸ more.isItem⟩, And.left⟩
    · exact given result
  | succ index ih =>
    rw [item, TokenStream.result]
    obtain ⟨more, step⟩ | ⟨last, ended, _⟩ := advance_cases unfinished
    · rw [step, ih ((finished_next stream).trans unfinished)]
      refine and_congr_right fun _ => and_congr_right fun _ => ⟨fun before earlier below => ?_,
        fun before earlier below => before (earlier + 1) (Nat.succ_lt_succ below)⟩
      cases earlier with
      | zero => exact more
      | succ earlier => exact before earlier (Nat.lt_of_succ_lt_succ below)
    · rw [item_of_finished ended]
      exact ⟨nofun, fun ⟨_, _, before⟩ => absurd (before 0 (Nat.succ_pos index)) last⟩

/-- An iteration over a text gives the items of its run. -/
theorem item_eq_getElem?_items (input : Input) (index : Nat) :
    (TokenStream.mk input none false).item index = input.run.items[index]? := by
  fun_induction Input.run input generalizing index with
  | case1 input error next scanned =>
    have step : (TokenStream.mk input none false).advance =
        (some (.error error), ⟨next, none, true⟩) := by simp [advance, TokenStream.next, scanned]
    rw [item_of_last step rfl]
    rfl
  | case2 input token next scanned ends =>
    have step : (TokenStream.mk input none false).advance = (none, ⟨next, none, true⟩) := by
      simp [advance, TokenStream.next, scanned, ends]
    rw [item_of_last step rfl]
    rfl
  | case3 input token next scanned unended ih =>
    have read : (TokenStream.mk input none false).next = (.ok token, ⟨next, none, false⟩) := by
      rw [TokenStream.next, scanned]
    by_cases invalid : token.kind = .invalid
    · have step : (TokenStream.mk input none false).advance =
          (some (.ok token), ⟨next, none, true⟩) := by simp [advance, read, invalid]
      obtain ⟨kind, text, start⟩ := token
      cases invalid
      rw [item_of_last step rfl]
      rfl
    · have unfinished : (TokenStream.mk input none false).finished = false := rfl
      obtain ⟨_, step⟩ | ⟨last, _⟩ := advance_cases unfinished
      · rw [read] at step
        rw [TokenRun.cons_of_goesOn ⟨unended, invalid⟩]
        cases index with
        | zero =>
          rw [item, step]
          rfl
        | succ index =>
          rw [item, step]
          exact ih index
      · exact absurd ⟨token, by rw [read], unended, invalid⟩ last

end TokenStream

/-- A text that is read to its end is tiled by its tokens and by no others, and a comma or semicolon
of it is a token by itself unless it directly follows a backslash. Iterating over any text gives the
tokens that are read from it one by one, up to the first error or invalid token or else the end of
the text, which alone is left out. -/
theorem tokens_tile (source : String) :
    (∀ list finish, tokens source = ⟨list, .eof finish⟩ ↔
      Tiles 0 source.toList list ∧ finish = byteLength source.toList) ∧
    (∀ finish, (tokens source).ending = .eof finish → ∀ before char after,
      source.toList = before ++ char :: after → isSeparator char = true →
        ((∃ token ∈ (tokens source).tokens, TokenKind.ofChar? char = some token.kind ∧
          token.start = byteLength before) ↔ before.getLast? ≠ some '\\')) ∧
    ∀ index, (TokenStream.ofString source).item index = (tokens source).items[index]? ∧
      ∀ result, (TokenStream.ofString source).item index = some result ↔
        (TokenStream.ofString source).result index = result ∧ TokenStream.IsItem result ∧
          ∀ earlier < index, TokenStream.GoesOn ((TokenStream.ofString source).result earlier) := by
  refine ⟨fun list finish => ?_, fun finish ends before char after split separator => ?_,
    fun index => ⟨TokenStream.item_eq_getElem?_items _ index,
      fun result => TokenStream.item_eq_some_iff rfl⟩⟩
  · rw [tokens, Input.ofString, Input.run_eq_iff, Nat.zero_add]
  · have tiles := (Input.tiles_of_run ends).1
    rw [← Nat.zero_add (byteLength before)]
    exact tiles.separates_iff split separator

/-- Blanks around and inside tokens, escaped separators, and a character of two bytes. -/
def spacedSource : String := " n\u00e9\\,x >=  a\\\\;b ,c<\t"

/-- The tokens of that text. -/
def spacedTokens : List Token :=
  [⟨.ident, "n\u00e9,x", 1⟩, ⟨.operator .atLeast, ">=", 8⟩, ⟨.ident, "a\\;b", 12⟩, ⟨.or, ",", 18⟩,
    ⟨.ident, "c", 19⟩, ⟨.operator .less, "<", 20⟩]

theorem tokens_tile_spaced :
    tokens spacedSource = ⟨spacedTokens, .eof 22⟩ ∧ Tiles 0 spacedSource.toList spacedTokens ∧
      (∃ token ∈ spacedTokens, TokenKind.ofChar? ',' = some token.kind ∧ token.start = 18) ∧
      (¬ ∃ token ∈ spacedTokens, TokenKind.ofChar? ';' = some token.kind ∧ token.start = 15) ∧
      (TokenStream.ofString spacedSource).item 3 = some (.ok ⟨.or, ",", 18⟩) ∧
      (TokenStream.ofString spacedSource).result 3 = .ok ⟨.or, ",", 18⟩ ∧
      (TokenStream.ofString spacedSource).item 6 = none := by
  have read : tokens spacedSource = ⟨spacedTokens, .eof 22⟩ := by decide +kernel
  obtain ⟨tiling, separators, items⟩ := tokens_tile spacedSource
  rw [read] at separators items
  have separates := separators 22 rfl
  have comma := separates " n\u00e9\\,x >=  a\\\\;b ".toList ',' "c<\t".toList
    (by decide +kernel) rfl
  have semicolon := separates " n\u00e9\\,x >=  a\\\\".toList ';' "b ,c<\t".toList
    (by decide +kernel) rfl
  have given : (TokenStream.ofString spacedSource).item 3 = some (.ok ⟨.or, ",", 18⟩) :=
    (items 3).1
  exact ⟨read, ((tiling _ _).mp read).1, comma.mpr (by decide +kernel),
    fun separate => semicolon.mp separate (by decide +kernel), given,
    ((items 3).2 _ |>.mp given).1, (items 6).1⟩

end Criteria
