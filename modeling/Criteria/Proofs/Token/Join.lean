import Criteria.Proofs.Token.Sequence
import Mathlib.Data.List.DropRight

/-! # Tokens of joined texts

A semicolon after a text is a token by itself, unless a backslash stands directly before it or only
blanks with a tab among them have been left before it. The tokens before it are those of the text
alone, and the tokens after it are those of what follows, further on.
-/

namespace Criteria

open Text

namespace Text

/-- A separator written after the text is neither escaped nor taken for the character that tabs at
the end of the text lead to. -/
structure EndsPlainly (text : List Char) : Prop where
  backslash : text.getLast? ≠ some '\\'
  tab : '\t' ∉ text.rtakeWhile isBlank

theorem EndsPlainly.of_suffix {text rest : List Char} (plain : EndsPlainly text)
    (suffix : rest <:+ text) : EndsPlainly rest := by
  obtain ⟨front, rfl⟩ := suffix
  refine ⟨fun last => plain.backslash (by rw [List.getLast?_append, last]; rfl), fun tab => ?_⟩
  apply plain.tab
  rw [List.rtakeWhile, List.mem_reverse] at tab ⊢
  rw [List.reverse_append, List.takeWhile_append]
  split_ifs
  · exact List.mem_append_left _ (List.takeWhile_sublist _ |>.subset tab)
  · exact tab

/-- A name or value ends before a semicolon where it ends before the end of the text. -/
theorem identSpan_append_semicolon {text : List Char} (plain : text.getLast? ≠ some '\\')
    (more : List Char) :
    identSpan (text ++ ';' :: more) = ((identSpan text).1, (identSpan text).2 ++ ';' :: more) := by
  have split := identSpan_append text
  have spans := isSpan_identSpan text
  rw [identSpan_eq_iff, ← List.append_assoc, split]
  refine ⟨rfl, spans.inside, fun char begins => ?_⟩
  cases remains : (identSpan text).2 with
  | nil =>
    rw [remains] at begins split
    cases begins
    rw [continues_iff_of_isSeparator rfl]
    rwa [← split, List.append_nil] at plain
  | cons first others =>
    rw [remains] at begins spans
    exact spans.stops char begins

/-- Where a name reaches the end of a text that ends plainly, there is more to it than blanks,
unless it begins with a space. -/
theorem identName_ne_nil {first : Char} {others : List Char} (plain : EndsPlainly (first :: others))
    (visible : first ≠ ' ') (whole : (identSpan (first :: others)).2 = []) :
    identName (first :: others) ≠ [] := by
  intro nothing
  have all : (identSpan (first :: others)).1 = first :: others := by
    have split := identSpan_append (first :: others)
    rwa [whole, List.append_nil] at split
  rw [identName, all] at nothing
  have blanks := isBlank_of_unescape (trim_eq_nil_iff.mp nothing)
  have tab : first = '\t' := by
    simpa [isBlank, visible] using blanks first (List.mem_cons_self ..)
  apply plain.tab
  rw [List.rtakeWhile_eq_self_iff.mpr blanks, tab]
  exact List.mem_cons_self ..

end Text

/-- No operator goes on with a semicolon. -/
theorem Operator.ofPair?_semicolon (char : Char) : ofPair? char ';' = none := by
  unfold ofPair?
  split
  case h_11 => rfl
  all_goals contradiction

/-- The same input with more text after it. -/
def Input.append (input : Input) (more : List Char) : Input :=
  ⟨input.offset, input.rest ++ more⟩

/-- The same input further on. -/
def Input.shift (distance : Nat) (input : Input) : Input :=
  ⟨input.offset + distance, input.rest⟩

/-- The same token further on. -/
def Token.shift (distance : Nat) (token : Token) : Token :=
  { token with start := token.start + distance }

namespace Input

variable {input next : Input} {token : Token}

/-! ### Before the semicolon -/

theorem skipSpaces_append (input : Input) (more : List Char) :
    (input.append (';' :: more)).skipSpaces = input.skipSpaces.append (';' :: more) := by
  obtain ⟨offset, rest⟩ := input
  have spaces : (rest ++ ';' :: more).takeWhile (· = ' ') = rest.takeWhile (· = ' ') ∧
      (rest ++ ';' :: more).dropWhile (· = ' ') = rest.dropWhile (· = ' ') ++ ';' :: more := by
    induction rest with
    | nil => simp
    | cons first others ih => by_cases space : first = ' ' <;> simp [space, ih]
  simp only [skipSpaces, append, spaces]

/-- What is left after a name or value stands at the end of the text before it. -/
theorem rest_suffix_of_scanIdent (read : input.scanIdent = (token, next)) :
    next.rest <:+ input.rest := by
  have split : input.afterIdent.rest <:+ input.rest :=
    ⟨(identSpan input.rest).1, identSpan_append input.rest⟩
  cases scanIdent_eq_iff.mp read with
  | eof | ident => exact split
  | invalid _ stops =>
    rw [stops] at split
    exact (List.suffix_cons _ _).trans split

/-- What is left after a token stands at the end of the text before it. -/
theorem rest_suffix_of_scan (scanned : input.scan = (.ok token, next)) : next.rest <:+ input.rest := by
  refine List.IsSuffix.trans ?_ (List.dropWhile_suffix (· = ' '))
  change next.rest <:+ input.skipSpaces.rest
  cases scanHere_eq_ok_iff.mp scanned with
  | eof => exact List.suffix_refl _
  | pair begins =>
    rw [begins]
    exact (List.tail_suffix _).trans (List.suffix_cons _ _)
  | single begins | loneEqual begins =>
    rw [begins]
    exact List.suffix_cons _ _
  | ident _ _ _ _ _ read => exact rest_suffix_of_scanIdent read

/-- The end of a text that ends plainly is reached where there is nothing but spaces. -/
theorem rest_skipSpaces_of_eof (plain : EndsPlainly input.rest)
    (scanned : input.scan = (.ok token, next)) (ends : token.kind = .eof) :
    input.skipSpaces.rest = [] := by
  cases scanHere_eq_ok_iff.mp scanned with
  | eof nothing => exact nothing
  | pair | loneEqual => cases ends
  | single _ _ known => exact absurd ends (TokenKind.ofChar?_ne_eof known)
  | @ident char rest _ _ begins _ _ _ _ read =>
    have suffix : char :: rest <:+ input.rest := begins ▸ List.dropWhile_suffix (· = ' ')
    have visible : char ≠ ' ' := head_skipSpaces_ne_space (by rw [begins]; rfl)
    have more := identName_ne_nil (plain.of_suffix suffix) visible
    rw [← begins] at more
    cases scanIdent_eq_iff.mp read with
    | eof blank remains => exact absurd blank (more remains)
    | invalid | ident => cases ends

/-- A name or value before a semicolon is read as before the end of the text. -/
theorem scanIdent_append (plain : input.rest.getLast? ≠ some '\\') (more : List Char)
    (read : input.scanIdent = (token, next))
    (goesOn : token.kind ≠ .eof ∧ token.kind ≠ .invalid) :
    (input.append (';' :: more)).scanIdent = (token, next.append (';' :: more)) := by
  have span := identSpan_append_semicolon plain more
  cases scanIdent_eq_iff.mp read with
  | eof => exact absurd rfl goesOn.1
  | invalid => exact absurd rfl goesOn.2
  | ident ne_nil =>
    have name : identName (input.append (';' :: more)).rest = identName input.rest := by
      rw [append, identName, span, identName]
    have after : (input.append (';' :: more)).afterIdent = input.afterIdent.append (';' :: more) := by
      simp only [afterIdent, append, span]
    rw [← name, ← after]
    exact scanIdent_eq_iff.mpr (.ident (name ▸ ne_nil))

/-- A token before a semicolon is read as before the end of the text. -/
theorem scan_append (plain : EndsPlainly input.rest) (more : List Char)
    (scanned : input.scan = (.ok token, next)) (goesOn : token.kind ≠ .eof ∧ token.kind ≠ .invalid) :
    (input.append (';' :: more)).scan = (.ok token, next.append (';' :: more)) := by
  have plainHere : input.skipSpaces.rest.getLast? ≠ some '\\' :=
    (plain.of_suffix (List.dropWhile_suffix (· = ' '))).backslash
  have pair {char : Char} {rest : List Char} :
      (rest ++ ';' :: more).head?.bind (Operator.ofPair? char) =
        rest.head?.bind (Operator.ofPair? char) := by
    cases rest with
    | nil => exact Operator.ofPair?_semicolon char
    | cons next others => rfl
  have longer {text : List Char} (begins : input.skipSpaces.rest = text) :
      (input.skipSpaces.append (';' :: more)).rest = text ++ ';' :: more := by rw [append, begins]
  rw [scan, skipSpaces_append]
  apply scanHere_eq_ok_iff.mpr
  cases scanHere_eq_ok_iff.mp scanned with
  | eof => exact absurd rfl goesOn.1
  | @pair char rest operator begins spelled =>
    cases rest with
    | nil => contradiction
    | cons second others => exact .pair (longer begins) spelled
  | single begins noPair known => exact .single (longer begins) (pair.trans noPair) known
  | loneEqual => exact absurd rfl goesOn.2
  | ident begins noPair unknown noOpener noEqual read =>
    exact .ident (longer begins) (pair.trans noPair) unknown noOpener noEqual
      (scanIdent_append plainHere more read goesOn)

/-- Where the end of the text would be read, the semicolon is. -/
theorem scan_append_of_eof (plain : EndsPlainly input.rest) (more : List Char)
    (scanned : input.scan = (.ok token, next)) (ends : token.kind = .eof) :
    ∃ offset, (input.append (';' :: more)).scan = (.ok ⟨.and, ";", offset⟩, ⟨offset + 1, more⟩) := by
  have nothing := rest_skipSpaces_of_eof plain scanned ends
  refine ⟨input.skipSpaces.offset, ?_⟩
  rw [scan, skipSpaces_append]
  apply scanHere_eq_ok_iff.mpr
  have begins : (input.skipSpaces.append (';' :: more)).rest = ';' :: more := by
    rw [append, nothing, List.nil_append]
  exact .single begins (by cases more <;> rfl) rfl

/-- The tokens of a text that ends plainly are followed by a semicolon and the tokens of what stands
after it. -/
theorem run_append {start : Nat} (plain : EndsPlainly input.rest) (ends : input.run.ending = .eof start)
    (more : List Char) :
    ∃ offset, (input.append (';' :: more)).run =
      ⟨input.run.tokens ++ ⟨.and, ";", offset⟩ :: (Input.mk (offset + 1) more).run.tokens,
        (Input.mk (offset + 1) more).run.ending⟩ := by
  fun_induction Input.run input with
  | case1 => cases ends
  | case2 input token next scanned eof =>
    obtain ⟨offset, scannedAfter⟩ := scan_append_of_eof plain more scanned eof
    exact ⟨offset, run_of_ok scannedAfter⟩
  | case3 input token next scanned unended ih =>
    have goesOn := TokenRun.goesOn_of_ending unended ends
    have longer := TokenRun.cons_of_goesOn goesOn
    rw [longer] at ends
    obtain ⟨offset, run⟩ := ih (plain.of_suffix (rest_suffix_of_scan scanned)) ends
    refine ⟨offset, ?_⟩
    rw [run_of_ok (scan_append plain more scanned goesOn), run, longer, longer]
    rfl

/-! ### After the semicolon -/

variable {distance : Nat}

theorem shift_mk (offset width : Nat) (rest : List Char) :
    (Input.mk (offset + width) rest).shift distance = ⟨offset + distance + width, rest⟩ := by
  rw [shift, Nat.add_right_comm]

theorem skipSpaces_shift (input : Input) :
    (input.shift distance).skipSpaces = input.skipSpaces.shift distance :=
  (shift_mk _ _ _).symm

theorem afterIdent_shift (input : Input) :
    (input.shift distance).afterIdent = input.afterIdent.shift distance :=
  (shift_mk _ _ _).symm

theorem scanIdent_shift (input : Input) :
    (input.shift distance).scanIdent =
      (input.scanIdent.1.shift distance, input.scanIdent.2.shift distance) := by
  have same (input : Input) : (input.shift distance).rest = input.rest := rfl
  unfold scanIdent
  rw [same, afterIdent_shift, same]
  cases identName input.rest with
  | nil =>
    cases input.afterIdent.rest with
    | nil => rfl
    | cons char rest =>
      simp only [Token.shift, shift_mk]
      rfl
  | cons first others => rfl

/-- The same token is read further on. -/
theorem Scanned.shift (scanned : input.Scanned token next) (distance : Nat) :
    (input.shift distance).Scanned (token.shift distance) (next.shift distance) := by
  cases scanned with
  | eof ends => exact .eof ends
  | pair begins spelled =>
    rw [shift_mk]
    exact .pair begins spelled
  | single begins noPair known =>
    rw [shift_mk]
    exact .single begins noPair known
  | loneEqual begins noPair =>
    rw [shift_mk, Token.shift, Nat.add_right_comm]
    exact .loneEqual begins noPair
  | ident begins noPair unknown noOpener noEqual read =>
    exact .ident begins noPair unknown noOpener noEqual (by rw [scanIdent_shift, read])

theorem scan_shift (scanned : input.scan = (.ok token, next)) (distance : Nat) :
    (input.shift distance).scan = (.ok (token.shift distance), next.shift distance) := by
  rw [scan, skipSpaces_shift]
  exact scanHere_eq_ok_iff.mpr ((scanHere_eq_ok_iff.mp scanned).shift distance)

/-- Tokens up to the end of the text are the same further on. -/
theorem run_shift {start : Nat} (ends : input.run.ending = .eof start) (distance : Nat) :
    (input.shift distance).run =
      ⟨input.run.tokens.map (Token.shift distance), .eof (start + distance)⟩ := by
  fun_induction Input.run input with
  | case1 => cases ends
  | case2 input token next scanned eof =>
    cases ends
    rw [run_of_ok (scan_shift scanned distance), TokenRun.cons]
    have same : (token.shift distance).kind = .eof := eof
    simp only [same]
    rfl
  | case3 input token next scanned unended ih =>
    have goesOn := TokenRun.goesOn_of_ending unended ends
    have longer := TokenRun.cons_of_goesOn goesOn
    have longerAfter := TokenRun.cons_of_goesOn
      (show (token.shift distance).kind ≠ .eof ∧ (token.shift distance).kind ≠ .invalid from goesOn)
    rw [longer] at ends ⊢
    rw [run_of_ok (scan_shift scanned distance), ih ends, longerAfter]
    rfl

end Input

end Criteria
