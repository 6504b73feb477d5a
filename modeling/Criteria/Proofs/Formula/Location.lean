import Criteria.Proofs.Formula.Groups
import Criteria.Proofs.Token.Location

/-! # Where syntax errors point

A syntax error names what is in the way of a formula and the byte offset at which that stands: a
separator or operator, a character that begins no token, or the end of the text. No name or value is
ever in the way, since a name is not followed by another one.
-/

namespace Criteria

open Text

namespace SyntaxError

/-- The byte offset that an error reports. -/
def start : SyntaxError → Nat
  | lexical (.incompleteOperator _ start) => start
  | invalidToken _ start => start
  | operatorExpected _ start => start
  | unexpectedToken _ start => start
  | identExpected _ start => start

/-- The error says what is in its source, and where. Only a lone equals sign at the end, which belongs
to no operator, is reported behind itself. -/
inductive PointsInto (source : String) : SyntaxError → Prop
  | incompleteOperator {opener : OperatorOpener} {start : Nat}
      (stands : StandsAt source.toList start [opener.char]) :
      PointsInto source (.lexical (.incompleteOperator opener start))
  | invalidToken {char : Char} {start : Nat} (stands : StandsAt source.toList start [char]) :
      PointsInto source (.invalidToken char.toString start)
  | loneEqual {before : List Char} (last : source.toList = before ++ ['='])
      (alone : (tokens source).StandsBefore source.toList (byteLength before)) :
      PointsInto source (.invalidToken "=" source.utf8ByteSize)
  | operatorExpected {name : Token} (last : (tokens source).tokens.getLast? = some name)
      (ident : name.kind = .ident) :
      PointsInto source (.operatorExpected name.text source.utf8ByteSize)
  | unexpectedToken {written : String} {start : Nat} (separator : written = ";" ∨ written = ",")
      (stands : StandsAt source.toList start written.toList) :
      PointsInto source (.unexpectedToken written start)
  | identExpected {written : String} {start : Nat}
      (other : written = ";" ∨ written = "," ∨ ∃ operator : Operator, written = operator.spelling)
      (stands : StandsAt source.toList start written.toList) :
      PointsInto source (.identExpected written start)

end SyntaxError

/-- What reading a sequence of tokens blames: its ending, where it must not end or breaks off, or one
of its tokens that is no name or value. -/
inductive TokenRun.Blames (run : TokenRun) : SyntaxError → Prop
  | lexical {error : LexicalError} (fails : run.ending = .failed error) : Blames run (.lexical error)
  | invalid {text : String} {start : Nat} (stops : run.ending = .invalid text start) :
      Blames run (.invalidToken text start)
  | ended {name : Token} {start : Nat} (ends : run.ending = .eof start)
      (last : run.tokens.getLast? = some name) (ident : name.kind = .ident) :
      Blames run (.operatorExpected name.text start)
  | unexpected {token : Token} (member : token ∈ run.tokens) (noIdent : token.kind ≠ .ident)
      (noOperator : token.kind.operator? = none) :
      Blames run (.unexpectedToken token.text token.start)
  | identExpected {token : Token} (member : token ∈ run.tokens) (noIdent : token.kind ≠ .ident) :
      Blames run (.identExpected token.text token.start)

namespace TokenRun

variable {ending : Ending} {tokens : List Token} {error : SyntaxError}

/-- What is blamed in the end of a sequence is blamed in the whole sequence. -/
theorem Blames.append_left (front : List Token) (blames : Blames ⟨tokens, ending⟩ error) :
    Blames ⟨front ++ tokens, ending⟩ error := by
  cases blames with
  | lexical fails => exact .lexical fails
  | invalid stops => exact .invalid stops
  | ended ends last ident => exact .ended ends (by simp_all) ident
  | unexpected member noIdent noOperator =>
    exact .unexpected (List.mem_append_right front member) noIdent noOperator
  | identExpected member noIdent => exact .identExpected (List.mem_append_right front member) noIdent

/-- A sequence that breaks off is to blame itself. -/
theorem blames_of_resolve {α : Type} {atEof : Nat → Except SyntaxError α}
    (fails : ending.resolve atEof = .error error)
    (eof : ∀ start, ending = .eof start → atEof start = .error error → Blames ⟨tokens, ending⟩ error) :
    Blames ⟨tokens, ending⟩ error := by
  cases ending with
  | eof start => exact eof start rfl fails
  | invalid text start =>
    cases fails
    exact .invalid rfl
  | failed error =>
    cases fails
    exact .lexical rfl

/-- Where no name follows another one, a failed reading blames the ending or a token that is none. -/
theorem blames_of_groups_eq_error
    (apart : tokens.IsChain fun first second => first.kind = .ident → second.kind ≠ .ident)
    (fails : groups ending tokens = .error error) : Blames ⟨tokens, ending⟩ error := by
  fun_induction TokenRun.groups ending tokens with
  | case1 => exact blames_of_resolve fails fun _ _ accepted => by cases accepted
  | case2 separator rest kind ih =>
    exact (ih apart.tail (Except.bind_pure_eq_error_iff.mp fails)).append_left [separator]
  | case3 separator rest kind ih => exact (ih apart.tail fails).append_left [separator]
  | case4 name ident =>
    refine blames_of_resolve fails fun start ends reported => ?_
    cases reported
    exact .ended ends rfl ident
  | case5 name ident comparison rest unread =>
    cases fails
    have noIdent : comparison.kind ≠ .ident := (List.isChain_cons.mp apart).1 comparison rfl ident
    exact .unexpected (by simp) noIdent unread
  | case6 => exact blames_of_resolve fails fun _ _ accepted => by cases accepted
  | case7 name ident comparison operator reads value rest given ih =>
    have failed := Except.bind_pure_eq_error_iff.mp fails
    exact (ih apart.tail.tail.tail failed).append_left [name, comparison, value]
  | case8 name ident comparison operator reads value rest other =>
    cases fails
    exact .identExpected (by simp) other
  | case9 token rest notAnd notOr notIdent =>
    cases fails
    exact .identExpected (by simp) notIdent

end TokenRun

/-! ### Texts -/

namespace SyntaxError.PointsInto

variable {source : String} {error : SyntaxError}

/-- Whatever an error points at, its offset is that of a character or of the end of the source. -/
theorem isValid (points : error.PointsInto source) :
    (⟨error.start⟩ : String.Pos.Raw).IsValid source := by
  cases points with
  | incompleteOperator stands | invalidToken stands | unexpectedToken _ stands
  | identExpected _ stands => exact stands.isValid
  | loneEqual | operatorExpected => exact String.Pos.Raw.isValid_rawEndPos

/-- What reading the tokens of a source blames is in the source. -/
theorem of_blames (blames : (tokens source).Blames error) : error.PointsInto source := by
  obtain ⟨stop, _, ends, stands⟩ := (Input.isLeftOf_ofString source).exists_endsAt_run
  change (tokens source).ending.EndsAt source.toList stop at ends
  change (tokens source).StandsBefore source.toList stop at stands
  cases blames with
  | lexical fails =>
    rw [fails] at ends
    cases ends with
    | failed stands => exact .incompleteOperator stands
  | invalid stops =>
    rw [stops] at ends
    cases ends with
    | invalid stands => exact .invalidToken stands
    | loneEqual last =>
      rw [byteLength_toList]
      exact .loneEqual last stands
  | ended finishes last ident =>
    rw [finishes] at ends
    cases ends with
    | eof =>
      rw [byteLength_toList]
      exact .operatorExpected last ident
  | @unexpected token member noIdent noOperator =>
    obtain ⟨spelled, stands, _⟩ := stands token member noIdent
    refine .unexpectedToken ?_ stands
    rcases TokenKind.spelling?_eq_some_iff.mp spelled with separates | ⟨operator, kind, _⟩
    · exact separates.imp And.right And.right
    · rw [kind] at noOperator
      cases noOperator
  | @identExpected token member noIdent =>
    obtain ⟨spelled, stands, _⟩ := stands token member noIdent
    refine .identExpected ?_ stands
    rcases TokenKind.spelling?_eq_some_iff.mp spelled with separates | ⟨operator, _, written⟩
    · exact separates.imp And.right fun comma => .inl comma.2
    · exact .inr (.inr ⟨operator, written⟩)

end SyntaxError.PointsInto

namespace Formula

/-- A syntax error points at what it reports: its offset is on a character boundary of the source or
at its end, and what it names stands there, unless it reports that the source ended too early. -/
theorem parse_error_pointsInto {source : String} {error : SyntaxError}
    (fails : parse source = .error error) :
    error.PointsInto source ∧ error.start ≤ source.utf8ByteSize ∧
      (⟨error.start⟩ : String.Pos.Raw).IsValid source := by
  have apart := (Input.ofString source).isChain_run
  have points := SyntaxError.PointsInto.of_blames
    (TokenRun.blames_of_groups_eq_error apart (Except.bind_pure_eq_error_iff.mp fails))
  exact ⟨points, points.isValid.le_utf8ByteSize, points.isValid⟩

/-- An equals sign at the end of a text of nine bytes, a separator behind a name of two, and a name of
two bytes with a space after it at the end of a text of eight. -/
theorem parse_error_pointsInto_accents :
    (parse "\u00e9==1, b=" = .error (.invalidToken "=" 9) ∧
      (SyntaxError.invalidToken "=" 9).PointsInto "\u00e9==1, b=" ∧
      (⟨9⟩ : String.Pos.Raw).IsValid "\u00e9==1, b=") ∧
    (parse "\u00e9,b==1" = .error (.unexpectedToken "," 2) ∧
      (SyntaxError.unexpectedToken "," 2).PointsInto "\u00e9,b==1" ∧
      (⟨2⟩ : String.Pos.Raw).IsValid "\u00e9,b==1") ∧
    (parse "a==1;\u00e9 " = .error (.operatorExpected "\u00e9" 8) ∧
      (SyntaxError.operatorExpected "\u00e9" 8).PointsInto "a==1;\u00e9 " ∧
      (⟨8⟩ : String.Pos.Raw).IsValid "a==1;\u00e9 ") := by
  have loneEqual : parse "\u00e9==1, b=" = .error (.invalidToken "=" 9) := by decide +kernel
  have unexpected : parse "\u00e9,b==1" = .error (.unexpectedToken "," 2) := by decide +kernel
  have expected : parse "a==1;\u00e9 " = .error (.operatorExpected "\u00e9" 8) := by decide +kernel
  have first := parse_error_pointsInto loneEqual
  have second := parse_error_pointsInto unexpected
  have third := parse_error_pointsInto expected
  exact ⟨⟨loneEqual, first.1, first.2.2⟩, ⟨unexpected, second.1, second.2.2⟩,
    ⟨expected, third.1, third.2.2⟩⟩

end Formula

end Criteria
