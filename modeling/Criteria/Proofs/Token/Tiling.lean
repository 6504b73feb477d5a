import Criteria.Proofs.Token.Sequence

/-! # Texts and their tokens

The tokens of a text that is read to its end tile it: they stand one after the other where they say,
with nothing but spaces in front of them and nothing but blanks after the last one, each spelled by
the characters up to the next gap. `run_eq_iff` says that no other tokens tile a text than those
that are read, so that a text can be put together again from them, and `separates_iff` that a comma
or semicolon is a token by itself unless it directly follows a backslash.
-/

namespace Criteria

open Text

/-- What a token is spelled by, in front of the rest of a text: separators and operators by
themselves, an operator of one character only where it does not begin a longer one, and a name or
value by all characters that can belong to it. -/
inductive Token.Spells : Token → (span rest : List Char) → Prop
  | and (start : Nat) (rest : List Char) : Spells ⟨.and, ";", start⟩ [';'] rest
  | or (start : Nat) (rest : List Char) : Spells ⟨.or, ",", start⟩ [','] rest
  | operator (operator : Operator) (start : Nat) {rest : List Char}
      (apart : operator = .greater ∨ operator = .less → rest.head? ≠ some '=') :
      Spells ⟨.operator operator, operator.spelling, start⟩ operator.spelling.toList rest
  | ident (start : Nat) {span rest : List Char} (spans : IsSpan span rest)
      (visible : span.head? ≠ some ' ') (ne_nil : trim (unescape span) ≠ []) :
      Spells ⟨.ident, String.ofList (trim (unescape span)), start⟩ span rest

/-- The tokens that stand in a text, the first character of which has the given offset. -/
inductive Tiles : (offset : Nat) → (text : List Char) → List Token → Prop
  | blank {offset : Nat} {text : List Char} (blanks : ∀ char ∈ text, isBlank char = true) :
      Tiles offset text []
  | token {offset : Nat} {gap span rest : List Char} {token : Token} {tokens : List Token}
      (spaces : ∀ char ∈ gap, char = ' ') (starts : token.start = offset + byteLength gap)
      (spells : token.Spells span rest) (later : Tiles (token.start + byteLength span) rest tokens) :
      Tiles offset (gap ++ (span ++ rest)) (token :: tokens)

theorem Token.Spells.goesOn {token : Token} {span rest : List Char} (spells : token.Spells span rest) :
    token.kind ≠ .eof ∧ token.kind ≠ .invalid := by
  cases spells <;> simp

/-! ### Tokens that are read -/

namespace Input

variable {input next : Input} {token : Token}

/-- A text is what is skipped and what is left then. -/
theorem takeWhile_append_skipSpaces (input : Input) :
    input.rest.takeWhile (· = ' ') ++ input.skipSpaces.rest = input.rest :=
  List.takeWhile_append_dropWhile

theorem byteLength_spelling (operator : Operator) {first second : Char}
    (spelled : operator.spelling.toList = [first, second]) :
    byteLength operator.spelling.toList = 2 := by
  cases operator <;> first | rfl | cases spelled

/-- A single character that is a token by itself is spelled so. -/
theorem spells_of_ofChar? {char : Char} {rest : List Char} {kind : TokenKind} (start : Nat)
    (noPair : rest.head?.bind (Operator.ofPair? char) = none)
    (known : TokenKind.ofChar? char = some kind) :
    Token.Spells ⟨kind, char.toString, start⟩ [char] rest ∧ char.utf8Size = 1 := by
  unfold TokenKind.ofChar? at known
  split at known
  · cases known
    exact ⟨.and start rest, rfl⟩
  · cases known
    exact ⟨.or start rest, rfl⟩
  · obtain ⟨operator, single, rfl⟩ := Option.map_eq_some_iff.mp known
    have apart (angle : char = '>' ∨ char = '<') : rest.head? ≠ some '=' := by
      intro equal
      rw [equal] at noPair
      rcases angle with rfl | rfl <;> cases noPair
    unfold Operator.ofChar? at single
    split at single
    · cases single
      exact ⟨.operator .greater start fun _ => apart (.inl rfl), rfl⟩
    · cases single
      exact ⟨.operator .less start fun _ => apart (.inr rfl), rfl⟩
    · cases single

/-- A token that does not end a sequence is spelled by the characters between the spaces that are
skipped and those that are left. -/
theorem spells_of_scanned (scanned : input.Scanned token next)
    (visible : ∀ char ∈ input.rest.head?, char ≠ ' ')
    (goesOn : token.kind ≠ .eof ∧ token.kind ≠ .invalid) :
    ∃ span, input.rest = span ++ next.rest ∧ token.start = input.offset ∧
      next.offset = input.offset + byteLength span ∧ token.Spells span next.rest := by
  cases scanned with
  | eof => exact absurd rfl goesOn.1
  | loneEqual => exact absurd rfl goesOn.2
  | @pair char rest operator begins spelled =>
    cases rest with
    | nil => cases spelled
    | cons second others =>
      have both := Operator.ofPair?_eq_some_iff.mp spelled
      refine ⟨operator.spelling.toList, ?_, rfl, ?_, .operator operator _ ?_⟩
      · rw [begins, both]
        rfl
      · rw [byteLength_spelling operator both]
      · rintro (rfl | rfl) <;> cases both
  | @single char rest kind begins noPair known =>
    obtain ⟨spells, size⟩ := spells_of_ofChar? input.offset noPair known
    exact ⟨[char], begins, rfl, by simp [byteLength, size], spells⟩
  | ident _ _ _ _ _ read =>
    cases scanIdent_eq_iff.mp read with
    | eof => exact absurd rfl goesOn.1
    | invalid => exact absurd rfl goesOn.2
    | ident ne_nil =>
      have split := identSpan_append input.rest
      refine ⟨(identSpan input.rest).1, split.symm, rfl, rfl,
        .ident input.offset (isSpan_identSpan input.rest) ?_ ne_nil⟩
      intro space
      apply visible ' ' _ rfl
      rw [← split, List.head?_append, space]
      rfl

/-- Where the text ends, only blanks are left. -/
theorem blanks_of_scanned (scanned : input.Scanned token next) (ends : token.kind = .eof) :
    (∀ char ∈ input.rest, isBlank char = true) ∧
      token.start = input.offset + byteLength input.rest := by
  cases scanned with
  | eof nothing =>
    rw [nothing]
    exact ⟨by simp, rfl⟩
  | pair | loneEqual => cases ends
  | single _ _ known => exact absurd ends (TokenKind.ofChar?_ne_eof known)
  | ident _ _ _ _ _ read =>
    cases scanIdent_eq_iff.mp read with
    | eof blank remains =>
      have split := identSpan_append input.rest
      have whole : (identSpan input.rest).1 = input.rest := by
        change (identSpan input.rest).2 = [] at remains
        rwa [remains, List.append_nil] at split
      rw [identName, whole] at blank
      refine ⟨isBlank_of_unescape (trim_eq_nil_iff.mp blank), ?_⟩
      rw [afterIdent, whole]
    | invalid | ident => cases ends

/-- The tokens of a text that is read to its end tile it. -/
theorem tiles_of_run {finish : Nat} (ends : input.run.ending = .eof finish) :
    Tiles input.offset input.rest input.run.tokens ∧
      finish = input.offset + byteLength input.rest := by
  fun_induction Input.run input with
  | case1 => cases ends
  | case2 input token next scanned eof =>
    cases ends
    obtain ⟨blanks, start⟩ := blanks_of_scanned (scanHere_eq_ok_iff.mp scanned) eof
    rw [← takeWhile_append_skipSpaces input, byteLength_append, ← Nat.add_assoc]
    refine ⟨.blank fun char member => ?_, start⟩
    rcases List.mem_append.mp member with skipped | left
    · rw [isBlank, List.mem_takeWhile_imp skipped, Bool.true_or]
    · exact blanks char left
  | case3 input token next scanned unended ih =>
    have goesOn := TokenRun.goesOn_of_ending unended ends
    rw [TokenRun.cons_of_goesOn goesOn] at ends ⊢
    obtain ⟨span, split, start, offset, spells⟩ :=
      spells_of_scanned (scanHere_eq_ok_iff.mp scanned) (fun _ => head_skipSpaces_ne_space) goesOn
    obtain ⟨later, finish⟩ := ih ends
    rw [offset, ← start] at later
    have whole := takeWhile_append_skipSpaces input
    rw [split] at whole
    constructor
    · rw [← whole]
      exact .token (fun char member => by simpa using List.mem_takeWhile_imp member) start spells later
    · rw [finish, offset, ← whole, byteLength_append, byteLength_append, skipSpaces]
      simp only [Nat.add_assoc]

/-! ### Tokens that tile a text -/

/-- Spaces in front of a token are skipped. -/
theorem scan_append_of_spaces (offset : Nat) {gap : List Char} (spaces : ∀ char ∈ gap, char = ' ')
    (text : List Char) :
    (Input.mk offset (gap ++ text)).scan = (Input.mk (offset + byteLength gap) text).scan := by
  have skipped : ∀ char ∈ gap, decide (char = ' ') = true := by simpa using spaces
  rw [scan, scan, skipSpaces, skipSpaces]
  simp only [List.takeWhile_append_of_pos skipped, List.dropWhile_append_of_pos skipped,
    byteLength_append, Nat.add_assoc]

/-- A token is read where it is spelled. -/
theorem scan_of_spells {span rest : List Char} (spells : token.Spells span rest) :
    (Input.mk token.start (span ++ rest)).scan = (.ok token, ⟨token.start + byteLength span, rest⟩) := by
  cases spells with
  | and => exact scan_and
  | or => exact scan_or
  | operator operator start apart => exact scan_operator operator apart
  | ident start spans visible ne_nil =>
    apply scan_ident ?_ (identSpan_eq_iff.mpr ⟨rfl, spans⟩) rfl ne_nil
    cases span with
    | nil => exact absurd rfl ne_nil
    | cons first others =>
      exact ⟨first, rfl, continues_nil_iff.mp (spans.inside [] first others rfl),
        fun space => visible (congrArg some space)⟩

/-- Where there are only blanks, the text ends. With spaces skipped, they begin with a tab and are
looked at as if they were a name. -/
theorem scan_of_blanks_of_head {start : Nat} {text : List Char}
    (blanks : ∀ char ∈ text, isBlank char = true) (visible : ∀ char ∈ text.head?, char ≠ ' ') :
    ∃ next, (Input.mk start text).scan = (.ok ⟨.eof, "", start + byteLength text⟩, next) := by
  cases text with
  | nil => exact ⟨_, scan_nil⟩
  | cons first others =>
    have tab : first = '\t' := by
      simpa [isBlank, visible first rfl] using blanks first (List.mem_cons_self ..)
    have letters : ∀ char ∈ first :: others, isIdentChar char = true := by
      intro char member
      have blank := blanks char member
      simp only [isBlank, Bool.or_eq_true, decide_eq_true_eq] at blank
      rcases blank with rfl | rfl <;> rfl
    have spans : identSpan (first :: others) = (first :: others, []) :=
      identSpan_eq_iff.mpr ⟨(List.append_nil _).symm, .of_isIdentChar letters⟩
    have nothing : identName (first :: others) = [] := by
      rw [identName, spans]
      exact trim_eq_nil_iff.mpr fun char member => blanks char (mem_of_mem_unescape member)
    have remains : (Input.mk start (first :: others)).afterIdent.rest = [] := congrArg Prod.snd spans
    rw [scan_of_continuesIdent (by rw [tab]; rfl) (visible first rfl),
      scanIdent_eq_iff.mpr (.eof nothing remains), afterIdent, spans]
    exact ⟨_, rfl⟩

theorem scan_of_blanks {offset : Nat} {text : List Char}
    (blanks : ∀ char ∈ text, isBlank char = true) :
    ∃ next, (Input.mk offset text).scan = (.ok ⟨.eof, "", offset + byteLength text⟩, next) := by
  have spaces : ∀ char ∈ text.takeWhile (· = ' '), char = ' ' :=
    fun char member => by simpa using List.mem_takeWhile_imp member
  have left : ∀ char ∈ text.dropWhile (· = ' '), isBlank char = true :=
    fun char member => blanks char ((List.dropWhile_suffix _).subset member)
  have scanned := scan_append_of_spaces offset spaces (text.dropWhile (· = ' '))
  have length := byteLength_append (text.takeWhile (· = ' ')) (text.dropWhile (· = ' '))
  rw [List.takeWhile_append_dropWhile] at scanned length
  rw [scanned, length, ← Nat.add_assoc]
  have visible : ∀ char ∈ (Input.mk offset text).skipSpaces.rest.head?, char ≠ ' ' :=
    fun _ => head_skipSpaces_ne_space
  exact scan_of_blanks_of_head left visible

/-- The tokens that tile a text are read from it. -/
theorem run_of_tiles {offset : Nat} {text : List Char} {tokens : List Token}
    (tiles : Tiles offset text tokens) :
    (Input.mk offset text).run = ⟨tokens, .eof (offset + byteLength text)⟩ := by
  induction tiles with
  | blank blanks =>
    obtain ⟨next, scanned⟩ := scan_of_blanks blanks
    rw [run_of_ok scanned]
    rfl
  | @token offset gap span rest token tokens spaces starts spells later ih =>
    have scanned := scan_append_of_spaces offset spaces (span ++ rest)
    rw [← starts, scan_of_spells spells] at scanned
    rw [run_of_ok scanned, ih, TokenRun.cons_of_goesOn spells.goesOn, starts, byteLength_append,
      byteLength_append]
    simp only [Nat.add_assoc]

/-- A text that is read to its end is tiled by its tokens, and by no others. -/
theorem run_eq_iff {offset finish : Nat} {text : List Char} {tokens : List Token} :
    (Input.mk offset text).run = ⟨tokens, .eof finish⟩ ↔
      Tiles offset text tokens ∧ finish = offset + byteLength text := by
  constructor
  · intro same
    have ends : (Input.mk offset text).run.ending = .eof finish := congrArg TokenRun.ending same
    have tiled := tiles_of_run ends
    rwa [same] at tiled
  · rintro ⟨tiles, rfl⟩
    exact run_of_tiles tiles

end Input

/-! ### Separators -/

theorem Text.byteLength_pos {text : List Char} (ne_nil : text ≠ []) : 0 < byteLength text := by
  cases text with
  | nil => contradiction
  | cons first others => exact Nat.add_pos_left first.utf8Size_pos _

namespace Token.Spells

variable {token : Token} {span rest : List Char} (spells : token.Spells span rest)

include spells

theorem ne_nil : span ≠ [] := by
  cases spells with
  | and | or => simp
  | operator operator =>
    obtain ⟨first, others, spelled, _⟩ := operator.spelling_toList_eq_cons
    simp [spelled]
  | ident _ _ _ ne_nil =>
    rintro rfl
    exact ne_nil rfl

/-- A separator in what spells a token is that token, or belongs to a name or value after a
backslash. -/
theorem cases_of_isSeparator {before after : List Char} {char : Char}
    (split : span = before ++ char :: after) (separator : isSeparator char = true) :
    before = [] ∧ TokenKind.ofChar? char = some token.kind ∨
      token.kind = .ident ∧ before.getLast? = some '\\' := by
  cases spells with
  | and | or =>
    cases before with
    | nil =>
      obtain ⟨rfl, _⟩ := List.cons_eq_cons.mp split
      exact .inl ⟨rfl, rfl⟩
    | cons => simp at split
  | operator operator =>
    have other : ∀ char ∈ operator.spelling.toList, isSeparator char = false := by
      cases operator <;> simp [Operator.spelling, isSeparator]
    have inside : char ∈ operator.spelling.toList := by simp [split]
    rw [other char inside] at separator
    cases separator
  | ident _ spans =>
    exact .inr ⟨rfl, (continues_iff_of_isSeparator separator).mp (spans.inside _ _ _ split)⟩

/-- No token ends in a backslash before a separator. -/
theorem getLast?_ne {char : Char} (follows : rest.head? = some char)
    (separator : isSeparator char = true) : span.getLast? ≠ some '\\' := by
  cases spells with
  | and | or => simp
  | operator operator =>
    cases operator <;> decide
  | ident _ spans =>
    intro escaped
    exact spans.stops char follows ((continues_iff_of_isSeparator separator).mpr escaped)

/-- Whether a separator behind a token is escaped does not depend on the token. -/
theorem escapes_iff {before after : List Char} {char : Char} (split : rest = before ++ char :: after)
    (separator : isSeparator char = true) (gap : List Char) :
    (gap ++ (span ++ before)).getLast? ≠ some '\\' ↔ before.getLast? ≠ some '\\' := by
  cases before with
  | nil =>
    have ends := spells.getLast?_ne (by rw [split]; rfl) separator
    rw [List.append_nil, List.getLast?_append_of_ne_nil _ spells.ne_nil]
    simp [ends]
  | cons first others =>
    rw [← List.append_assoc, List.getLast?_append_of_ne_nil _ (List.cons_ne_nil _ _)]

end Token.Spells

namespace Tiles

variable {offset : Nat} {text : List Char} {tokens : List Token}

/-- No token stands before the text that the tokens tile. -/
theorem le_start (tiles : Tiles offset text tokens) : ∀ token ∈ tokens, offset ≤ token.start := by
  induction tiles with
  | blank => simp
  | token spaces starts _ _ ih =>
    rw [List.forall_mem_cons]
    refine ⟨starts ▸ Nat.le_add_right _ _, fun token later => ?_⟩
    have := ih token later
    omega

/-- A comma or semicolon is a token by itself unless it directly follows a backslash. -/
theorem separates_iff (tiles : Tiles offset text tokens) {before after : List Char} {char : Char}
    (split : text = before ++ char :: after) (separator : isSeparator char = true) :
    (∃ token ∈ tokens, TokenKind.ofChar? char = some token.kind ∧
      token.start = offset + byteLength before) ↔ before.getLast? ≠ some '\\' := by
  induction tiles generalizing before with
  | blank blanks =>
    have blank := blanks char (by simp [split])
    simp only [isSeparator, Bool.or_eq_true, decide_eq_true_eq] at separator
    rcases separator with rfl | rfl <;> cases blank
  | @token offset gap span rest token tokens spaces starts spells later ih =>
    rcases List.cases_of_append_eq split with ⟨more, inGap⟩ | ⟨between, rfl, visible⟩
    · have space := spaces char (by simp [inGap])
      subst space
      cases separator
    rcases List.cases_of_append_eq visible with ⟨more, rfl⟩ | ⟨between, rfl, remains⟩
    · rcases spells.cases_of_isSeparator rfl separator with ⟨rfl, known⟩ | ⟨ident, escaped⟩
      · have noBackslash : (gap ++ []).getLast? ≠ some '\\' := by
          rw [List.append_nil]
          intro last
          exact absurd (spaces _ (List.mem_of_getLast? last)) (by decide)
        simp only [noBackslash, ne_eq, not_false_eq_true, iff_true]
        exact ⟨token, List.mem_cons_self .., known, by rw [starts, List.append_nil]⟩
      · have last : (gap ++ between).getLast? = some '\\' := by
          rw [List.getLast?_append, escaped]
          rfl
        simp only [last, ne_eq, not_true_eq_false, iff_false]
        rintro ⟨other, member, known, start⟩
        rcases List.mem_cons.mp member with rfl | among
        · exact TokenKind.ofChar?_ne_ident known ident
        · -- the tokens that follow stand behind the whole name
          have behind := later.le_start other among
          have size := char.utf8Size_pos
          simp only [byteLength_append, byteLength] at behind start
          omega
    · have behind := byteLength_pos spells.ne_nil
      have start : offset + byteLength (gap ++ (span ++ between)) =
          token.start + byteLength span + byteLength between := by
        rw [starts, byteLength_append, byteLength_append, Nat.add_assoc, Nat.add_assoc]
      rw [start, spells.escapes_iff remains separator gap, ← ih remains]
      constructor
      · rintro ⟨other, member, known, place⟩
        rcases List.mem_cons.mp member with rfl | among
        · omega
        · exact ⟨other, among, known, place⟩
      · rintro ⟨other, among, rest⟩
        exact ⟨other, List.mem_cons_of_mem _ among, rest⟩

end Tiles

end Criteria
