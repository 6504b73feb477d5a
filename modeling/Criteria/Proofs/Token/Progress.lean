import Criteria.Proofs.Token.Iteration
import Criteria.Proofs.Token.Location

/-! # Reading goes on

Each reading passes over some characters of the text: what is left begins behind them, and the offset
has grown by their bytes. It passes over at least one, whether it gives a token or an error, unless the
text ends; and where the text has ended, it ends again and again. So the cursor stays between the
characters of the source, whatever is read or taken back, and an iteration gives at most one item for
each byte.
-/

namespace Criteria

open Text TokenStream

namespace TokenStream

theorem isItem_of_kind_ne {token : Token} (more : token.kind ≠ .eof) : IsItem (.ok token) := by
  rintro _ ⟨⟩
  exact more

theorem exists_eof_of_not_isItem {result : Except LexicalError Token} (last : ¬ IsItem result) :
    ∃ token, result = .ok token ∧ token.kind = .eof := by
  simpa only [IsItem, not_forall, not_not, exists_prop] using last

end TokenStream

namespace Input

variable {input next last : Input} {span : List Char} {token : Token}
  {result : Except LexicalError Token}

/-- The next input begins behind some characters of an input. -/
structure Passes (input : Input) (span : List Char) (next : Input) : Prop where
  split : input.rest = span ++ next.rest
  offset : next.offset = input.offset + byteLength span

namespace Passes

theorem trans {others : List Char} (first : input.Passes span next)
    (second : next.Passes others last) : input.Passes (span ++ others) last where
  split := by rw [first.split, second.split, List.append_assoc]
  offset := by rw [second.offset, first.offset, byteLength_append, Nat.add_assoc]

theorem byteLength_eq (passes : input.Passes span next) :
    byteLength input.rest = byteLength span + byteLength next.rest := by
  rw [passes.split, byteLength_append]

end Passes

theorem passes_skipSpaces (input : Input) :
    input.Passes (input.rest.takeWhile (· = ' ')) input.skipSpaces :=
  ⟨(takeWhile_append_skipSpaces input).symm, rfl⟩

theorem passes_afterIdent (input : Input) :
    input.Passes (identSpan input.rest).1 input.afterIdent :=
  ⟨(identSpan_append input.rest).symm, rfl⟩

theorem exists_passes_of_scanIdent (read : input.scanIdent = (token, next)) :
    ∃ span, input.Passes span next ∧ (token.kind ≠ .eof → span ≠ []) := by
  have passes := passes_afterIdent input
  cases scanIdent_eq_iff.mp read with
  | eof => exact ⟨_, passes, fun more => absurd rfl more⟩
  | @invalid char rest _ stops =>
    have further : input.afterIdent.Passes [char] ⟨input.afterIdent.offset + char.utf8Size, rest⟩ :=
      ⟨stops, rfl⟩
    exact ⟨_, passes.trans further, by simp⟩
  | ident ne_nil =>
    refine ⟨_, passes, fun _ nothing => ne_nil ?_⟩
    rw [identName, nothing]
    rfl

theorem exists_passes_of_scanHere (scanned : input.scanHere = (result, next)) :
    ∃ span, input.Passes span next ∧ (IsItem result → span ≠ []) := by
  cases result with
  | error error =>
    obtain ⟨opener, rest, begins, _, rfl⟩ := exists_opener_of_scanHere scanned
    refine ⟨[opener.char], ⟨begins, ?_⟩, by simp⟩
    cases opener <;> rfl
  | ok token =>
    cases scanHere_eq_ok_iff.mp scanned with
    | eof => exact ⟨[], ⟨rfl, rfl⟩, fun item => absurd rfl (item _ rfl)⟩
    | @pair char rest operator begins spelled =>
      cases rest with
      | nil => cases spelled
      | cons second others =>
        have both := Operator.ofPair?_eq_some_iff.mp spelled
        refine ⟨[char, second], ⟨begins, ?_⟩, by simp⟩
        rw [← both, byteLength_spelling operator both]
    | @single char rest kind begins noPair known =>
      obtain ⟨_, size⟩ := spells_of_ofChar? input.offset noPair known
      refine ⟨[char], ⟨begins, ?_⟩, by simp⟩
      rw [byteLength, size]
      rfl
    | loneEqual begins => exact ⟨['='], ⟨begins, rfl⟩, by simp⟩
    | ident _ _ _ _ _ read =>
      obtain ⟨span, passes, more⟩ := exists_passes_of_scanIdent read
      exact ⟨span, passes, fun item => more (item _ rfl)⟩

/-- A reading passes over something unless the text ends. -/
theorem exists_passes_scan (input : Input) :
    ∃ span, input.Passes span input.scan.2 ∧ (IsItem input.scan.1 → span ≠ []) := by
  obtain ⟨span, passes, more⟩ := exists_passes_of_scanHere (Prod.eta input.skipSpaces.scanHere).symm
  exact ⟨_, (passes_skipSpaces input).trans passes,
    fun item => List.append_ne_nil_of_right_ne_nil _ (more item)⟩

/-- Less is left after a reading, unless the text ends. -/
theorem byteLength_scan_lt (input : Input) (item : IsItem input.scan.1) :
    byteLength input.scan.2.rest < byteLength input.rest := by
  obtain ⟨span, passes, more⟩ := exists_passes_scan input
  rw [passes.byteLength_eq]
  exact Nat.lt_add_of_pos_left (byteLength_pos (more item))

theorem byteLength_scan_le (input : Input) :
    byteLength input.scan.2.rest ≤ byteLength input.rest := by
  obtain ⟨span, passes, _⟩ := exists_passes_scan input
  rw [passes.byteLength_eq]
  exact Nat.le_add_left _ _

/-- Where the text ends, all of it has been read. -/
theorem eq_eof_of_scan (scanned : input.scan = (.ok token, next)) (ends : token.kind = .eof) :
    next.rest = [] ∧ token = ⟨.eof, "", next.offset⟩ := by
  cases scanHere_eq_ok_iff.mp scanned with
  | eof nothing => exact ⟨nothing, rfl⟩
  | pair | loneEqual => cases ends
  | single _ _ known => exact absurd ends (TokenKind.ofChar?_ne_eof known)
  | ident _ _ _ _ _ read =>
    cases scanIdent_eq_iff.mp read with
    | eof _ nothing => exact ⟨nothing, rfl⟩
    | invalid | ident => cases ends

/-- The end of a text is read again and again. -/
theorem scan_of_eof (scanned : input.scan = (.ok token, next)) (ends : token.kind = .eof) :
    next.scan = (.ok token, next) := by
  obtain ⟨offset, rest⟩ := next
  obtain ⟨rfl, rfl⟩ := eq_eof_of_scan scanned ends
  exact scan_nil

/-- A run has at most one item for each byte. -/
theorem length_items_run_le (input : Input) : input.run.items.length ≤ byteLength input.rest := by
  fun_induction Input.run input with
  | case1 input error next scanned =>
    have less := byteLength_scan_lt input
    rw [scanned] at less
    exact Nat.lt_of_le_of_lt (Nat.zero_le _) (less (by rintro _ ⟨⟩))
  | case2 => exact Nat.zero_le _
  | case3 input token next scanned unended ih =>
    have less := byteLength_scan_lt input
    rw [scanned] at less
    have lessLeft := less (isItem_of_kind_ne unended)
    by_cases invalid : token.kind = .invalid
    · rw [TokenRun.cons, invalid]
      exact Nat.lt_of_le_of_lt (Nat.zero_le _) lessLeft
    · rw [TokenRun.cons_of_goesOn ⟨unended, invalid⟩]
      exact Nat.lt_of_le_of_lt ih lessLeft

end Input

namespace TokenStream

variable {source : String} {stream after : TokenStream} {token : Token} {error : LexicalError}
  {result : Except LexicalError Token}

/-! ### Reading from a stream -/

/-- A reading gives the token that has been taken back, or else reads on in the text. -/
theorem next_cases (read : stream.next = (result, after)) :
    (∃ token, stream.pending = some token ∧ result = .ok token ∧
        after = ⟨stream.input, none, stream.finished⟩) ∨
      ∃ input, stream.pending = none ∧ stream.input.scan = (result, input) ∧
        after = ⟨input, none, stream.finished⟩ := by
  unfold next at read
  split at read
  · rename_i token pending
    cases read
    exact .inl ⟨token, pending, rfl, rfl⟩
  · rename_i pending
    cases read
    exact .inr ⟨stream.input.scan.2, pending, rfl, by rw [pending]⟩

theorem pending_of_next (read : stream.next = (result, after)) : after.pending = none := by
  rcases next_cases read with ⟨_, _, _, rfl⟩ | ⟨_, _, _, rfl⟩ <;> rfl

/-- A token that is taken back after it has been read is read again. -/
theorem next_unread_of_next (read : stream.next = (.ok token, after)) :
    (after.unread token).next = (.ok token, after) := by
  rw [next_unread, ← pending_of_next read]

/-- The end of a text is read again and again. -/
theorem next_of_eof (fresh : stream.pending = none) (read : stream.next = (.ok token, after))
    (ends : token.kind = .eof) : after.next = (.ok token, after) := by
  rcases next_cases read with ⟨_, pending, _⟩ | ⟨input, _, scanned, rfl⟩
  · cases fresh.symm.trans pending
  · simp only [next, Input.scan_of_eof scanned ends]

theorem run_of_ok (read : stream.next = (.ok token, after)) :
    stream.run = .cons token after.run := by
  rcases next_cases read with ⟨_, pending, same, rfl⟩ | ⟨input, pending, scanned, rfl⟩
  · cases same
    simp only [run, pending]
  · simp only [run, pending, Input.run_of_ok scanned]

theorem run_of_error (read : stream.next = (.error error, after)) :
    stream.run = ⟨[], .failed error⟩ := by
  rcases next_cases read with ⟨_, _, same, _⟩ | ⟨input, pending, scanned, _⟩
  · cases same
  · simp only [run, pending, Input.run_of_error scanned]

/-! ### What is left to be read -/

/-- The bytes that are left, and one more if a token has been taken back. -/
def remaining (stream : TokenStream) : Nat :=
  byteLength stream.input.rest + if stream.pending.isSome then 1 else 0

theorem remaining_ofString (source : String) :
    (ofString source).remaining = source.utf8ByteSize :=
  byteLength_toList source

/-- A reading leaves less to be read, unless the text ends. -/
theorem remaining_lt_of_next (read : stream.next = (result, after)) (item : IsItem result) :
    after.remaining < stream.remaining := by
  rcases next_cases read with ⟨_, pending, _, rfl⟩ | ⟨input, pending, scanned, rfl⟩
  · simp [remaining, pending]
  · have less := Input.byteLength_scan_lt stream.input
    rw [scanned] at less
    simpa [remaining, pending] using less item

theorem remaining_le_of_next (read : stream.next = (result, after)) :
    after.remaining ≤ stream.remaining := by
  rcases next_cases read with ⟨_, pending, _, rfl⟩ | ⟨input, pending, scanned, rfl⟩
  · simp [remaining, pending]
  · have less := Input.byteLength_scan_le stream.input
    rw [scanned] at less
    simpa [remaining, pending] using less

/-- With its token taken back, a reading leaves no more than before. -/
theorem remaining_unread_le (read : stream.next = (.ok token, after)) (more : token.kind ≠ .eof) :
    (after.unread token).remaining ≤ stream.remaining := by
  have less := remaining_lt_of_next read (isItem_of_kind_ne more)
  rw [remaining, pending_of_next read] at less
  exact less

/-- The text ends after at most as many results as there are bytes. -/
theorem exists_result_eof (stream : TokenStream) :
    ∃ index ≤ stream.remaining, ∃ token, stream.result index = .ok token ∧ token.kind = .eof := by
  cases read : stream.next with
  | mk first after =>
    by_cases item : IsItem first
    · have less := remaining_lt_of_next read item
      obtain ⟨index, bound, token, later, ends⟩ := exists_result_eof after
      refine ⟨index + 1, bound.trans_lt less, token, ?_, ends⟩
      rwa [TokenStream.result, read]
    · obtain ⟨token, rfl, ends⟩ := exists_eof_of_not_isItem item
      exact ⟨0, Nat.zero_le _, token, by rw [TokenStream.result, read], ends⟩
termination_by stream.remaining
decreasing_by exact less

/-! ### The cursor -/

/-- What reading a source leads to, in whatever way its tokens are read, looked at, taken back or
iterated over. -/
inductive Reachable (source : String) : TokenStream → Prop
  | start : Reachable source (ofString source)
  | next {stream : TokenStream} (earlier : Reachable source stream) : Reachable source stream.next.2
  | peek {stream : TokenStream} (earlier : Reachable source stream) : Reachable source stream.peek.2
  | unread {stream : TokenStream} (earlier : Reachable source stream) (token : Token) :
      Reachable source (stream.unread token)
  | advance {stream : TokenStream} (earlier : Reachable source stream) :
      Reachable source stream.advance.2

theorem input_next (stream : TokenStream) :
    stream.next.2.input = stream.input ∨ stream.next.2.input = stream.input.scan.2 := by
  cases read : stream.next with
  | mk result after =>
    rcases next_cases read with ⟨_, _, _, rfl⟩ | ⟨input, _, scanned, rfl⟩
    · exact .inl rfl
    · exact .inr (by rw [scanned])

theorem input_peek (stream : TokenStream) : stream.peek.2.input = stream.next.2.input := by
  unfold peek
  split
  · rename_i same
    rw [same]
    rfl
  · rename_i same
    rw [same]

theorem input_advance (stream : TokenStream) :
    stream.advance.2.input = stream.input ∨ stream.advance.2.input = stream.next.2.input := by
  unfold advance
  split_ifs
  · exact .inl rfl
  · right
    split
    · rename_i same
      rw [same]
    · rename_i same
      rw [same]
      split <;> rfl

/-- However a source is read, what is left of it begins where the cursor stands. -/
theorem Reachable.isLeftOf (reachable : Reachable source stream) :
    stream.input.IsLeftOf source.toList := by
  have afterNext {stream : TokenStream} (left : stream.input.IsLeftOf source.toList) :
      stream.next.2.input.IsLeftOf source.toList := by
    rcases input_next stream with same | same
    · rwa [same]
    · obtain ⟨span, passes, _⟩ := stream.input.exists_passes_scan
      rw [same]
      exact left.after passes.split passes.offset
  induction reachable with
  | start => exact Input.isLeftOf_ofString source
  | next _ left => exact afterNext left
  | @peek stream _ left =>
    rw [input_peek]
    exact afterNext left
  | unread _ _ left => exact left
  | @advance stream _ left =>
    rcases input_advance stream with same | same
    · rwa [same]
    · rw [same]
      exact afterNext left

/-- A reading with nothing taken back moves the cursor, unless the text ends. -/
theorem Reachable.next_progress (reachable : Reachable source stream) (none : stream.pending = none) :
    (∃ token, stream.next.1 = .ok token ∧ token.kind = .eof ∧
        stream.next.2.input.offset = source.utf8ByteSize) ∨
      stream.input.offset < stream.next.2.input.offset := by
  have step : stream.next = (stream.input.scan.1, { stream with input := stream.input.scan.2 }) := by
    rw [TokenStream.next, none]
  rw [step]
  by_cases item : IsItem stream.input.scan.1
  · obtain ⟨span, passes, more⟩ := stream.input.exists_passes_scan
    refine .inr ?_
    change stream.input.offset < stream.input.scan.2.offset
    rw [passes.offset]
    exact Nat.lt_add_of_pos_right (byteLength_pos (more item))
  · left
    obtain ⟨token, ok, ends⟩ := exists_eof_of_not_isItem item
    refine ⟨token, ok, ends, ?_⟩
    have left := reachable.next.isLeftOf.byteLength_eq
    rw [step] at left
    have nothing := (Input.eq_eof_of_scan (Prod.ext ok rfl) ends).1
    rw [nothing, byteLength_toList] at left
    exact left.symm

/-- An iteration over a source gives at most one item for each byte. -/
theorem exists_item_count (source : String) :
    ∃ count ≤ source.utf8ByteSize, ∀ index,
      ((ofString source).item index).isSome ↔ index < count := by
  have items := Input.length_items_run_le (Input.ofString source)
  change _ ≤ byteLength source.toList at items
  rw [byteLength_toList] at items
  refine ⟨_, items, fun index => ?_⟩
  rw [ofString, item_eq_getElem?_items, isSome_getElem?]

end TokenStream

end Criteria
