import Criteria.Text.Escape
import Criteria.Token

/-! # Reading one token

`Input.scan` reads the next token of a text and returns what is left. Spaces before a token are
skipped. Operators are matched longest first; everything that is neither operator nor separator
accumulates into a name or value, up to the first character that cannot belong to one.

`rest_length_lt_of_scan` says that a token other than the end of the text uses up some of it, which
is why reading a whole text terminates.
-/

namespace Criteria

namespace Text

/-- The characters that names and values are made of, besides backslashes and escaped separators. -/
def isIdentChar (char : Char) : Bool :=
  char.isAlphanum || char ∈ [':', '.', ' ', '/', '_', '-', '*', '+', '\t'] || 0x80 ≤ char.toNat

/-- Split off the longest beginning of a text that belongs to one name or value. A separator belongs
to it directly after a backslash. -/
def identSpan : List Char → List Char × List Char
  | '\\' :: char :: rest =>
    if isSeparator char then
      Prod.map ('\\' :: char :: ·) id (identSpan rest)
    else
      Prod.map ('\\' :: ·) id (identSpan (char :: rest))
  | char :: rest =>
    if char = '\\' || isIdentChar char then
      Prod.map (char :: ·) id (identSpan rest)
    else
      ([], char :: rest)
  | [] => ([], [])

/-- A text is its first name or value and what remains after it. -/
theorem identSpan_append (text : List Char) : (identSpan text).1 ++ (identSpan text).2 = text := by
  fun_induction identSpan text <;> simp_all

/-- The name or value that a text begins with, without its escapes and outer blanks. -/
def identName (text : List Char) : List Char :=
  trim (unescape (identSpan text).1)

/-- The number of bytes that characters take in UTF-8. -/
def byteLength : List Char → Nat
  | [] => 0
  | char :: rest => char.utf8Size + byteLength rest

theorem byteLength_append (first second : List Char) :
    byteLength (first ++ second) = byteLength first + byteLength second := by
  induction first with
  | nil => simp [byteLength]
  | cons char rest ih => simp only [List.cons_append, byteLength, ih, Nat.add_assoc]

end Text

/-- The unread part of a text and its byte offset. -/
structure Input where
  offset : Nat
  rest : List Char
deriving DecidableEq

namespace Input

/-- A text of which nothing has been read. -/
def ofString (text : String) : Input :=
  ⟨0, text.toList⟩

/-- The input after the spaces at its beginning. -/
def skipSpaces (input : Input) : Input where
  offset := input.offset + Text.byteLength (input.rest.takeWhile (· = ' '))
  rest := input.rest.dropWhile (· = ' ')

/-- The input after the longest beginning that belongs to one name or value. -/
def afterIdent (input : Input) : Input where
  offset := input.offset + Text.byteLength (Text.identSpan input.rest).1
  rest := (Text.identSpan input.rest).2

/-- Read a name or value. Where only blanks stand before the end of the text, the text ends; where
only blanks stand before a character of no token, that character is invalid. -/
def scanIdent (input : Input) : Token × Input :=
  match Text.identName input.rest with
  | [] =>
    match input.afterIdent.rest with
    | [] => (⟨.eof, "", input.afterIdent.offset⟩, input.afterIdent)
    | char :: rest =>
      (⟨.invalid, char.toString, input.afterIdent.offset⟩,
        ⟨input.afterIdent.offset + char.utf8Size, rest⟩)
  | name => (⟨.ident, String.ofList name, input.offset⟩, input.afterIdent)

/-- Read the token that begins at the first character. A lone `=` is invalid; it is reported at, and
with, the character after it, which stays unread. -/
def scanHere (input : Input) : Except LexicalError Token × Input :=
  match input.rest with
  | [] => (.ok ⟨.eof, "", input.offset⟩, input)
  | char :: rest =>
    match rest.head?.bind (Operator.ofPair? char) with
    | some operator =>
      (.ok ⟨.operator operator, operator.spelling, input.offset⟩, ⟨input.offset + 2, rest.tail⟩)
    | none =>
      match TokenKind.ofChar? char with
      | some kind => (.ok ⟨kind, char.toString, input.offset⟩, ⟨input.offset + 1, rest⟩)
      | none =>
        match OperatorOpener.ofChar? char with
        | some opener =>
          (.error (.incompleteOperator opener input.offset), ⟨input.offset + 1, rest⟩)
        | none =>
          if char = '=' then
            (.ok ⟨.invalid, (rest.head?.getD char).toString, input.offset + 1⟩,
              ⟨input.offset + 1, rest⟩)
          else
            Prod.map .ok id input.scanIdent

/-- Read the next token. -/
def scan (input : Input) : Except LexicalError Token × Input :=
  input.skipSpaces.scanHere

theorem rest_length_skipSpaces_le (input : Input) :
    input.skipSpaces.rest.length ≤ input.rest.length :=
  (List.dropWhile_suffix _).length_le

theorem rest_length_afterIdent (input : Input) :
    (Text.identSpan input.rest).1.length + input.afterIdent.rest.length = input.rest.length := by
  rw [← List.length_append]
  exact congrArg List.length (Text.identSpan_append input.rest)

/-- A name, a value or an invalid character uses up some of the text. -/
theorem rest_length_lt_of_scanIdent {input : Input} (more : input.scanIdent.1.kind ≠ .eof) :
    input.scanIdent.2.rest.length < input.rest.length := by
  have split := input.rest_length_afterIdent
  unfold scanIdent at more ⊢
  cases named : Text.identName input.rest with
  | nil =>
    cases remains : input.afterIdent.rest with
    | nil => simp [named, remains] at more
    | cons char rest =>
      rw [remains, List.length_cons] at split
      simp only
      omega
  | cons first others =>
    have span : (Text.identSpan input.rest).1.length ≠ 0 := by
      intro empty
      rw [Text.identName, List.length_eq_zero_iff.mp empty] at named
      cases named
    simp only
    omega

/-- Every token but the end of the text uses up some of it. -/
theorem rest_length_lt_of_scan {input next : Input} {token : Token}
    (scanned : input.scan = (.ok token, next)) (more : token.kind ≠ .eof) :
    next.rest.length < input.rest.length := by
  refine Nat.lt_of_lt_of_le ?_ input.rest_length_skipSpaces_le
  unfold scan scanHere at scanned
  split at scanned
  · cases scanned
    exact absurd rfl more
  · rename_i char rest begins
    rw [begins, List.length_cons]
    split at scanned
    · cases scanned
      simp only [List.length_tail]
      omega
    · split at scanned
      · cases scanned
        exact Nat.lt_succ_self _
      · split at scanned
        · cases scanned
        · split at scanned
          · cases scanned
            exact Nat.lt_succ_self _
          · have token_eq := Except.ok.inj (congrArg Prod.fst scanned)
            have next_eq : input.skipSpaces.scanIdent.2 = next := congrArg Prod.snd scanned
            rw [← next_eq, ← List.length_cons, ← begins]
            exact rest_length_lt_of_scanIdent (token_eq ▸ more)

end Input

end Criteria
