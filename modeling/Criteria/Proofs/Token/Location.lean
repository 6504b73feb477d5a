import Criteria.Proofs.Token.Tiling

/-! # Where tokens stand

Reading goes through a text from its beginning. What is left to be read is the text after some of its
characters, and the offset counts the bytes of those. So every separator and operator stands at the
offset that it carries, and so does what breaks off a sequence of tokens, behind all of them. Only a
lone equals sign at the end of a text is reported where nothing stands any more.
-/

namespace Criteria

open Text

namespace Text

/-- Characters that stand in a source, with as many bytes before them. -/
def StandsAt (source : List Char) (start : Nat) (text : List Char) : Prop :=
  ∃ before after, source = before ++ (text ++ after) ∧ start = byteLength before

theorem byteLength_toList (text : String) : byteLength text.toList = text.utf8ByteSize := by
  have ofList (chars : List Char) : (String.ofList chars).utf8ByteSize = byteLength chars := by
    induction chars with
    | nil => rfl
    | cons char rest ih =>
      rw [String.ofList_cons, String.utf8ByteSize_append, String.utf8ByteSize_singleton, ih,
        byteLength]
  rw [← ofList, String.ofList_toList]

/-- Where characters stand, a character of the source begins or the source ends. -/
theorem StandsAt.isValid {source : String} {start : Nat} {text : List Char}
    (stands : StandsAt source.toList start text) : (⟨start⟩ : String.Pos.Raw).IsValid source := by
  obtain ⟨before, after, split, rfl⟩ := stands
  refine String.Pos.Raw.isValid_iff_exists_append.mpr
    ⟨String.ofList before, String.ofList (text ++ after), ?_, ?_⟩
  · rw [← String.toList_inj, split]
    simp
  · rw [String.Pos.Raw.ext_iff, String.byteIdx_rawEndPos, ← byteLength_toList, String.toList_ofList]

end Text

/-- The text that a separator or an operator is written as. -/
def TokenKind.spelling? : TokenKind → Option String
  | .and => some ";"
  | .or => some ","
  | .operator comparison => some comparison.spelling
  | .invalid | .eof | .ident => none

theorem TokenKind.spelling?_eq_some_iff {kind : TokenKind} {written : String} :
    kind.spelling? = some written ↔
      (kind = .and ∧ written = ";" ∨ kind = .or ∧ written = ",") ∨
        ∃ comparison : Operator, kind = .operator comparison ∧ written = comparison.spelling := by
  cases kind <;> simp [spelling?, eq_comm]

/-- What a single character is a token by itself as is written as that character. -/
theorem TokenKind.spelling?_of_ofChar? {char : Char} {kind : TokenKind}
    (known : ofChar? char = some kind) : kind.spelling? = some char.toString := by
  unfold ofChar? at known
  split at known
  · cases known
    rfl
  · cases known
    rfl
  · obtain ⟨operator, single, rfl⟩ := Option.map_eq_some_iff.mp known
    rw [Operator.ofChar?_eq_some_iff, ← String.toList_singleton, String.toList_inj] at single
    exact congrArg some single

/-- The input is what is left of a source after some of its characters. -/
def Input.IsLeftOf (input : Input) (source : List Char) : Prop :=
  ∃ before, source = before ++ input.rest ∧ input.offset = byteLength before

/-- How tokens end that have been read up to the offset `stop` of a source. -/
inductive Ending.EndsAt (source : List Char) : (stop : Nat) → Ending → Prop
  | eof : EndsAt source (byteLength source) (.eof (byteLength source))
  | invalid {char : Char} {start : Nat} (stands : StandsAt source start [char]) :
      EndsAt source start (.invalid char.toString start)
  | loneEqual {before : List Char} (last : source = before ++ ['=']) :
      EndsAt source (byteLength before) (.invalid "=" (byteLength source))
  | failed {opener : OperatorOpener} {start : Nat} (stands : StandsAt source start [opener.char]) :
      EndsAt source start (.failed (.incompleteOperator opener start))

/-- Besides names and values a run holds separators and operators only, which stand in the source
where they say and end before the offset `stop`. -/
def TokenRun.StandsBefore (source : List Char) (stop : Nat) (run : TokenRun) : Prop :=
  ∀ token ∈ run.tokens, token.kind ≠ .ident →
    token.kind.spelling? = some token.text ∧ StandsAt source token.start token.text.toList ∧
      token.start + byteLength token.text.toList ≤ stop

namespace Input

variable {input next : Input} {source : List Char} {token : Token} {error : LexicalError}

theorem isLeftOf_ofString (source : String) : (ofString source).IsLeftOf source.toList :=
  ⟨[], rfl, rfl⟩

namespace IsLeftOf

variable (left : input.IsLeftOf source)

include left

/-- What comes first in the input stands in the source at the offset of the input. -/
theorem standsAt {text after : List Char} (begins : input.rest = text ++ after) :
    StandsAt source input.offset text := by
  obtain ⟨before, split, offset⟩ := left
  exact ⟨before, after, by rw [split, begins], offset⟩

/-- The input goes on in the source after some characters. -/
theorem after {span : List Char} (split : input.rest = span ++ next.rest)
    (offset : next.offset = input.offset + byteLength span) : next.IsLeftOf source := by
  obtain ⟨before, whole, start⟩ := left
  refine ⟨before ++ span, ?_, ?_⟩
  · rw [whole, split, List.append_assoc]
  · rw [offset, start, byteLength_append]

theorem skipSpaces : input.skipSpaces.IsLeftOf source :=
  left.after (takeWhile_append_skipSpaces input).symm rfl

theorem afterIdent : input.afterIdent.IsLeftOf source :=
  left.after (identSpan_append input.rest).symm rfl

theorem byteLength_eq : byteLength source = input.offset + byteLength input.rest := by
  obtain ⟨before, split, offset⟩ := left
  rw [split, byteLength_append, offset]

end IsLeftOf

/-! ### What one step of reading ends with -/

theorem offset_le_skipSpaces (input : Input) : input.offset ≤ input.skipSpaces.offset :=
  Nat.le_add_right _ _

/-- Only a character that begins an operator, and is not followed by the rest of one, is an error. -/
theorem exists_opener_of_scanHere (scanned : input.scanHere = (.error error, next)) :
    ∃ opener rest, input.rest = OperatorOpener.char opener :: rest ∧
      error = .incompleteOperator opener input.offset ∧ next = ⟨input.offset + 1, rest⟩ := by
  unfold scanHere at scanned
  split at scanned
  · cases scanned
  · rename_i begins
    split at scanned
    · cases scanned
    · split at scanned
      · cases scanned
      · split at scanned
        · rename_i known
          cases scanned
          rw [OperatorOpener.ofChar?_eq_some_iff.mp known] at begins
          exact ⟨_, _, begins, rfl, rfl⟩
        · split at scanned <;> cases scanned

theorem IsLeftOf.endsAt_of_error (left : input.IsLeftOf source)
    (scanned : input.scan = (.error error, next)) :
    ∃ stop, input.offset ≤ stop ∧ Ending.EndsAt source stop (.failed error) := by
  obtain ⟨opener, rest, begins, rfl, _⟩ := exists_opener_of_scanHere scanned
  exact ⟨_, input.offset_le_skipSpaces, .failed (left.skipSpaces.standsAt begins)⟩

/-- The end of the text is read at its end. -/
theorem IsLeftOf.endsAt_of_eof (left : input.IsLeftOf source)
    (scanned : input.scan = (.ok token, next)) (ends : token.kind = .eof) :
    ∃ stop, input.offset ≤ stop ∧ Ending.EndsAt source stop (.eof token.start) := by
  obtain ⟨_, start⟩ := blanks_of_scanned (scanHere_eq_ok_iff.mp scanned) ends
  rw [start, ← left.skipSpaces.byteLength_eq]
  refine ⟨_, ?_, .eof⟩
  rw [left.byteLength_eq]
  exact Nat.le_add_right _ _

/-- An invalid character is the one at the offset, unless that is the end of the text, before which
there is an equals sign. -/
theorem IsLeftOf.endsAt_of_invalid (left : input.IsLeftOf source)
    (scanned : input.scan = (.ok token, next)) (invalid : token.kind = .invalid) :
    ∃ stop, input.offset ≤ stop ∧ Ending.EndsAt source stop (.invalid token.text token.start) := by
  have spaces := input.offset_le_skipSpaces
  have visible := left.skipSpaces
  cases scanHere_eq_ok_iff.mp scanned with
  | eof | pair => cases invalid
  | single _ _ known =>
    have written := TokenKind.spelling?_of_ofChar? known
    cases invalid
    cases written
  | @loneEqual rest begins _ =>
    cases rest with
    | nil =>
      obtain ⟨before, split, offset⟩ := visible
      rw [begins] at split
      have length : byteLength source = input.skipSpaces.offset + 1 := by
        rw [split, byteLength_append, offset]
        rfl
      have lone := Ending.EndsAt.loneEqual split
      rw [length, ← offset] at lone
      exact ⟨_, spaces, lone⟩
    | cons following others =>
      have split : input.skipSpaces.rest = ['='] ++ following :: others := begins
      have further : Input.IsLeftOf ⟨input.skipSpaces.offset + 1, following :: others⟩ source :=
        visible.after split rfl
      exact ⟨_, Nat.le_succ_of_le spaces, .invalid (further.standsAt rfl)⟩
  | ident _ _ _ _ _ read =>
    cases scanIdent_eq_iff.mp read with
    | eof | ident => cases invalid
    | invalid _ stops =>
      exact ⟨_, Nat.le_trans spaces (Nat.le_add_right _ _),
        .invalid (visible.afterIdent.standsAt stops)⟩

/-! ### What a whole run ends with -/

/-- A token that is no name or value is written as its kind is. -/
theorem spelling?_of_spells {span rest : List Char} (spells : token.Spells span rest)
    (noIdent : token.kind ≠ .ident) :
    token.kind.spelling? = some token.text ∧ span = token.text.toList := by
  cases spells with
  | and | or => exact ⟨rfl, by simp⟩
  | operator => exact ⟨rfl, rfl⟩
  | ident => exact absurd rfl noIdent

/-- In a run, every separator and operator stands where it says, and before all that ends the run. -/
theorem IsLeftOf.exists_endsAt_run (left : input.IsLeftOf source) :
    ∃ stop, input.offset ≤ stop ∧ input.run.ending.EndsAt source stop ∧
      input.run.StandsBefore source stop := by
  fun_induction Input.run input with
  | case1 input error next scanned =>
    obtain ⟨stop, bound, ends⟩ := left.endsAt_of_error scanned
    exact ⟨stop, bound, ends, by simp [TokenRun.StandsBefore]⟩
  | case2 input token next scanned eof =>
    obtain ⟨stop, bound, ends⟩ := left.endsAt_of_eof scanned eof
    exact ⟨stop, bound, ends, by simp [TokenRun.StandsBefore]⟩
  | case3 input token next scanned unended ih =>
    by_cases invalid : token.kind = .invalid
    · obtain ⟨stop, bound, ends⟩ := left.endsAt_of_invalid scanned invalid
      rw [TokenRun.cons, invalid]
      exact ⟨stop, bound, ends, by simp [TokenRun.StandsBefore]⟩
    · obtain ⟨span, split, start, offset, spells⟩ :=
        spells_of_scanned (scanHere_eq_ok_iff.mp scanned) (fun _ => head_skipSpaces_ne_space)
          ⟨unended, invalid⟩
      obtain ⟨stop, bound, ends, others⟩ := ih (left.skipSpaces.after split offset)
      rw [TokenRun.cons_of_goesOn ⟨unended, invalid⟩]
      have spaces := input.offset_le_skipSpaces
      refine ⟨stop, by omega, ends, List.forall_mem_cons.mpr ⟨fun noIdent => ?_, others⟩⟩
      obtain ⟨spelled, rfl⟩ := spelling?_of_spells spells noIdent
      have stands := left.skipSpaces.standsAt split
      rw [← start] at stands
      exact ⟨spelled, stands, by omega⟩

end Input

end Criteria
