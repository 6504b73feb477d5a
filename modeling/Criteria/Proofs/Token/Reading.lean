import Criteria.Proofs.Text.Canonical
import Criteria.Token.Run

/-! # What one step of reading gives

Each kind of token is read where its text is written, and what follows stays unread: separators by
themselves, operators where no longer one begins, names and values where they end. Conversely the
names and values of a run are canonical.
-/

namespace Criteria

open Text

/-! ### Which characters begin which tokens -/

/-- What may begin a name or value begins no operator of two characters. -/
theorem Operator.ofPair?_of_continuesIdent {first second : Char}
    (continues : continuesIdent first = true) : ofPair? first second = none := by
  unfold ofPair?
  split
  case h_11 => rfl
  all_goals exact absurd continues (by decide)

/-- `>` and `<` only begin the longer operators that end in `=`. -/
theorem Operator.ofPair?_of_ne_equal {first next : Char} (angle : first = '>' ∨ first = '<')
    (noEqual : next ≠ '=') : ofPair? first next = none := by
  unfold ofPair?
  split
  case h_11 => rfl
  all_goals simp at angle noEqual

theorem Operator.ofChar?_of_continuesIdent {char : Char} (continues : continuesIdent char = true) :
    ofChar? char = none := by
  unfold ofChar?
  split
  case h_3 => rfl
  all_goals exact absurd continues (by decide)

theorem TokenKind.ofChar?_of_continuesIdent {char : Char} (continues : continuesIdent char = true) :
    ofChar? char = none := by
  unfold ofChar?
  split
  case h_3 => rw [Operator.ofChar?_of_continuesIdent continues]; rfl
  all_goals exact absurd continues (by decide)

theorem TokenKind.ofChar?_ne_eof {char : Char} {kind : TokenKind} (begins : ofChar? char = some kind) :
    kind ≠ .eof := by
  unfold ofChar? at begins
  split at begins
  · cases begins
    simp
  · cases begins
    simp
  · obtain ⟨operator, _, rfl⟩ := Option.map_eq_some_iff.mp begins
    simp

theorem TokenKind.ofChar?_ne_ident {char : Char} {kind : TokenKind}
    (begins : ofChar? char = some kind) : kind ≠ .ident := by
  unfold ofChar? at begins
  split at begins
  · obtain rfl := Option.some.inj begins
    simp
  · obtain rfl := Option.some.inj begins
    simp
  · obtain ⟨operator, _, rfl⟩ := Option.map_eq_some_iff.mp begins
    simp

theorem OperatorOpener.ofChar?_of_continuesIdent {char : Char}
    (continues : continuesIdent char = true) : ofChar? char = none := by
  unfold ofChar?
  split
  case h_4 => rfl
  all_goals exact absurd continues (by decide)

/-- An operator begins with a character that ends every name or value before it. -/
theorem Operator.spelling_toList_eq_cons (operator : Operator) :
    ∃ first others, operator.spelling.toList = first :: others ∧
      continuesIdent first = false ∧ isSeparator first = false := by
  cases operator <;> exact ⟨_, _, rfl, by decide, by decide⟩

/-- A run with one more token before it holds that token, if it holds any, and those of the run. -/
theorem TokenRun.mem_tokens_cons {first token : Token} {run : TokenRun}
    (member : token ∈ (cons first run).tokens) : token = first ∨ token ∈ run.tokens := by
  unfold cons at member
  split at member
  · contradiction
  · contradiction
  · exact List.mem_cons.mp member

namespace Input

/-- How a token is read at the first character of an input, and what is left after it. -/
inductive Scanned (input : Input) : Token → Input → Prop
  | eof (ends : input.rest = []) : Scanned input ⟨.eof, "", input.offset⟩ input
  | pair {char : Char} {rest : List Char} {operator : Operator} (begins : input.rest = char :: rest)
      (spelled : rest.head?.bind (Operator.ofPair? char) = some operator) :
      Scanned input ⟨.operator operator, operator.spelling, input.offset⟩
        ⟨input.offset + 2, rest.tail⟩
  | single {char : Char} {rest : List Char} {kind : TokenKind} (begins : input.rest = char :: rest)
      (noPair : rest.head?.bind (Operator.ofPair? char) = none)
      (known : TokenKind.ofChar? char = some kind) :
      Scanned input ⟨kind, char.toString, input.offset⟩ ⟨input.offset + 1, rest⟩
  | loneEqual {rest : List Char} (begins : input.rest = '=' :: rest)
      (noPair : rest.head?.bind (Operator.ofPair? '=') = none) :
      Scanned input ⟨.invalid, (rest.head?.getD '=').toString, input.offset + 1⟩
        ⟨input.offset + 1, rest⟩
  | ident {char : Char} {rest : List Char} {token : Token} {next : Input}
      (begins : input.rest = char :: rest)
      (noPair : rest.head?.bind (Operator.ofPair? char) = none)
      (unknown : TokenKind.ofChar? char = none) (noOpener : OperatorOpener.ofChar? char = none)
      (noEqual : char ≠ '=') (read : input.scanIdent = (token, next)) : Scanned input token next

theorem scanHere_eq_ok_iff {input next : Input} {token : Token} :
    input.scanHere = (.ok token, next) ↔ input.Scanned token next := by
  constructor
  · intro scanned
    unfold scanHere at scanned
    split at scanned
    · rename_i ends
      cases scanned
      exact .eof ends
    · rename_i begins
      split at scanned
      · rename_i spelled
        cases scanned
        exact .pair begins spelled
      · rename_i noPair
        split at scanned
        · rename_i known
          cases scanned
          exact .single begins noPair known
        · rename_i unknown
          split at scanned
          · cases scanned
          · rename_i noOpener
            split at scanned
            · rename_i equal
              subst equal
              cases scanned
              exact .loneEqual begins noPair
            · rename_i noEqual
              obtain ⟨same, rest⟩ := Prod.mk.inj scanned
              exact .ident begins noPair unknown noOpener noEqual
                (Prod.ext (Except.ok.inj same) rest)
  · intro scanned
    unfold scanHere
    cases scanned with
    | eof ends => simp only [ends]
    | pair begins spelled => simp only [begins, spelled]
    | single begins noPair known => simp only [begins, noPair, known]
    | loneEqual begins noPair =>
      simp only [begins, noPair]
      rfl
    | ident begins noPair unknown noOpener noEqual read =>
      simp only [begins, noPair, unknown, noOpener, if_neg noEqual, read]
      rfl

/-- How a name or value is read, and what is read instead where there are only blanks. -/
inductive ScannedIdent (input : Input) : Token → Input → Prop
  | eof (blank : identName input.rest = []) (ends : input.afterIdent.rest = []) :
      ScannedIdent input ⟨.eof, "", input.afterIdent.offset⟩ input.afterIdent
  | invalid {char : Char} {rest : List Char} (blank : identName input.rest = [])
      (stops : input.afterIdent.rest = char :: rest) :
      ScannedIdent input ⟨.invalid, char.toString, input.afterIdent.offset⟩
        ⟨input.afterIdent.offset + char.utf8Size, rest⟩
  | ident (ne_nil : identName input.rest ≠ []) :
      ScannedIdent input ⟨.ident, String.ofList (identName input.rest), input.offset⟩
        input.afterIdent

theorem scanIdent_eq_iff {input next : Input} {token : Token} :
    input.scanIdent = (token, next) ↔ input.ScannedIdent token next := by
  constructor
  · intro read
    unfold scanIdent at read
    cases named : identName input.rest with
    | nil =>
      rw [named] at read
      cases remains : input.afterIdent.rest with
      | nil =>
        rw [remains] at read
        cases read
        exact .eof named remains
      | cons char rest =>
        rw [remains] at read
        cases read
        exact .invalid named remains
    | cons first others =>
      rw [named] at read
      cases read
      rw [← named]
      exact .ident (by simp [named])
  · intro scanned
    unfold scanIdent
    cases scanned with
    | eof blank ends => simp only [blank, ends]
    | invalid blank stops => simp only [blank, stops]
    | ident ne_nil =>
      obtain ⟨first, others, named⟩ := List.exists_cons_of_ne_nil ne_nil
      simp only [named]

variable {offset : Nat} {rest : List Char}

theorem skipSpaces_of_head {input : Input} (visible : ∀ char ∈ input.rest.head?, char ≠ ' ') :
    input.skipSpaces = input := by
  obtain ⟨offset, rest⟩ := input
  cases rest with
  | nil => rfl
  | cons first others => simp [skipSpaces, byteLength, visible first rfl]

theorem head_skipSpaces_ne_space {input : Input} {char : Char} (begins : char ∈ input.skipSpaces.rest.head?) :
    char ≠ ' ' := by
  have stopped := List.head?_dropWhile_not (· = ' ') input.rest
  have head : (input.rest.dropWhile (· = ' ')).head? = some char := begins
  rw [head] at stopped
  simpa using stopped

theorem scan_of_head_ne_space {text : List Char} (visible : ∀ char ∈ text.head?, char ≠ ' ') :
    (Input.mk offset text).scan = (Input.mk offset text).scanHere := by
  rw [scan, skipSpaces_of_head visible]

theorem scan_nil : (Input.mk offset []).scan = (.ok ⟨.eof, "", offset⟩, ⟨offset, []⟩) := rfl

theorem scan_and :
    (Input.mk offset (';' :: rest)).scan = (.ok ⟨.and, ";", offset⟩, ⟨offset + 1, rest⟩) := by
  rw [scan_of_head_ne_space (by simp)]
  cases rest <;> rfl

theorem scan_or :
    (Input.mk offset (',' :: rest)).scan = (.ok ⟨.or, ",", offset⟩, ⟨offset + 1, rest⟩) := by
  rw [scan_of_head_ne_space (by simp)]
  cases rest <;> rfl

/-- An operator is read unless what follows makes it a longer one. -/
theorem scan_operator (operator : Operator)
    (apart : operator = .greater ∨ operator = .less → rest.head? ≠ some '=') :
    (Input.mk offset (operator.spelling.toList ++ rest)).scan =
      (.ok ⟨.operator operator, operator.spelling, offset⟩,
        ⟨offset + byteLength operator.spelling.toList, rest⟩) := by
  cases operator
  case greater | less =>
    -- These two begin a longer operator, which `apart` excludes.
    cases rest with
    | nil => rfl
    | cons next others =>
      have noEqual : next ≠ '=' := fun equal => apart (by simp) (congrArg some equal)
      have noPair (first : Char) (angle : first = '>' ∨ first = '<') :
          Operator.ofPair? first next = none := Operator.ofPair?_of_ne_equal angle noEqual
      rw [scan_of_head_ne_space (by simp [Operator.spelling])]
      simp [scanHere, Operator.spelling, noPair, TokenKind.ofChar?, Operator.ofChar?]
      rfl
  all_goals rfl

/-- At a character that may begin a name or value, nothing else is read. -/
theorem scan_of_continuesIdent {char : Char} (continues : continuesIdent char = true)
    (visible : char ≠ ' ') :
    (Input.mk offset (char :: rest)).scan =
      Prod.map .ok id (Input.mk offset (char :: rest)).scanIdent := by
  have noPair : rest.head?.bind (Operator.ofPair? char) = none := by
    cases rest with
    | nil => rfl
    | cons next others => exact Operator.ofPair?_of_continuesIdent continues
  have noEqual : char ≠ '=' := by
    rintro rfl
    exact absurd continues (by decide)
  rw [scan_of_head_ne_space (by simpa using visible), scanHere]
  simp only [noPair, TokenKind.ofChar?_of_continuesIdent continues,
    OperatorOpener.ofChar?_of_continuesIdent continues, if_neg noEqual]

/-- A name or value is read as far as its characters reach, without its escapes and outer blanks. -/
theorem scan_ident {span name : List Char}
    (begins : ∃ char ∈ span.head?, continuesIdent char = true ∧ char ≠ ' ')
    (spans : identSpan (span ++ rest) = (span, rest)) (named : trim (unescape span) = name)
    (ne_nil : name ≠ []) :
    (Input.mk offset (span ++ rest)).scan =
      (.ok ⟨.ident, String.ofList name, offset⟩, ⟨offset + byteLength span, rest⟩) := by
  obtain ⟨char, first, continues, visible⟩ := begins
  obtain ⟨others, rfl⟩ := List.head?_eq_some_iff.mp first
  have read : identName (char :: others ++ rest) = name := by rw [identName, spans, named]
  rw [List.cons_append, scan_of_continuesIdent continues visible, ← List.cons_append]
  obtain ⟨letter, letters, rfl⟩ := List.exists_cons_of_ne_nil ne_nil
  simp only [scanIdent, read, afterIdent, spans]
  rfl

/-- A name or value that has been read is canonical. -/
theorem isCanonical_of_scan {input next : Input} {token : Token}
    (scanned : input.scan = (.ok token, next)) (ident : token.kind = .ident) :
    IsCanonical token.text.toList := by
  cases scanHere_eq_ok_iff.mp scanned with
  | eof | pair | loneEqual => cases ident
  | single _ _ known => exact absurd ident (TokenKind.ofChar?_ne_ident known)
  | ident _ _ _ _ _ read =>
    cases scanIdent_eq_iff.mp read with
    | eof | invalid => cases ident
    | ident ne_nil =>
      rw [String.toList_ofList]
      exact isCanonical_identName ne_nil

/-- All names and values of a run are canonical. -/
theorem isCanonical_of_mem_run {input : Input} {token : Token} (member : token ∈ input.run.tokens)
    (ident : token.kind = .ident) : IsCanonical token.text.toList := by
  fun_induction Input.run input with
  | case1 => contradiction
  | case2 => contradiction
  | case3 input first next scanned _ ih =>
    rcases TokenRun.mem_tokens_cons member with rfl | member
    · exact isCanonical_of_scan scanned ident
    · exact ih member

end Input

end Criteria
