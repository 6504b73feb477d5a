import Criteria.Proofs.Query.Balance
import Criteria.Proofs.Query.Scanner

/-! # Literals in shown queries

Shown with its arguments, a query is still read as its author meant it: a scanner of the dialect
finds one literal for each text and byte string among the arguments, with that content and nothing
else, and the code around the literals does not depend on what is in them. It is assumed that the
text of the query has no quotes of its own, and no two placeholders without anything between them,
since a literal right behind another one would be read as part of it.
-/

namespace List

theorem map_intercalate {α β : Type} (function : α → β) (separator : List α)
    (items : List (List α)) :
    (separator.intercalate items).map function =
      (separator.map function).intercalate (items.map (·.map function)) := by
  induction items with
  | nil => rfl
  | cons item rest ih =>
    cases rest with
    | nil => simp
    | cons next others =>
      rw [intercalate_cons_cons, map_append, map_append, ih]
      exact intercalate_cons_cons.symm

/-- If nothing is kept of the separator, what is kept of the items is left. -/
theorem filterMap_intercalate {α β : Type} {function : α → Option β} {separator : List α}
    (dropped : separator.filterMap function = []) (items : List (List α)) :
    (separator.intercalate items).filterMap function = items.flatMap (·.filterMap function) := by
  induction items with
  | nil => rfl
  | cons item rest ih =>
    cases rest with
    | nil => simp
    | cons next others =>
      rw [intercalate_cons_cons, filterMap_append, filterMap_append, dropped, append_nil, ih]
      exact flatMap_cons.symm

end List

namespace Criteria

/-! ### Arguments -/

namespace Argument

/-- What is written in digits, between quotes, as a null, or as a list of these. -/
inductive IsQuotable : Argument → Prop
  | int (value : Int64) : IsQuotable (int value)
  | text (value : String) : IsQuotable (text value)
  | bytes (value : ByteArray) : IsQuotable (bytes value)
  | null : IsQuotable null
  | list {items : List Argument} (each : ∀ item ∈ items, IsQuotable item) : IsQuotable (list items)

/-- An upper-case hexadecimal digit. -/
def hexDigit (value : Nat) : Char :=
  ['0', '1', '2', '3', '4', '5', '6', '7', '8', '9', 'A', 'B', 'C', 'D', 'E', 'F'].getD value '0'

/-- The digits of a byte string, two for each byte, the higher one first. -/
def hexDigits (bytes : ByteArray) : List Char :=
  bytes.toList.flatMap fun byte => [hexDigit (byte.toNat / 16), hexDigit (byte.toNat % 16)]

mutual

/-- The contents of the literals of an argument: its texts, and the digits of its byte strings. -/
def contents : Argument → List (List Char)
  | text value => [value.toList]
  | bytes value => [hexDigits value]
  | list items => allContents items
  | _ => []

/-- The contents of the literals of several arguments. -/
def allContents : List Argument → List (List Char)
  | [] => []
  | argument :: rest => contents argument ++ allContents rest

end

mutual

/-- The argument without its texts and byte strings. -/
def erased : Argument → Argument
  | text _ => text ""
  | bytes _ => bytes .empty
  | list items => list (allErased items)
  | other => other

/-- Several arguments without their texts and byte strings. -/
def allErased : List Argument → List Argument
  | [] => []
  | argument :: rest => erased argument :: allErased rest

end

mutual

/-- What a scanner should make of the literal of an argument, in every dialect. -/
def lexemes [TimestampFormat] : Argument → List Lexeme
  | int value => (toString value.toInt).toList.map .code
  | float value => (Number.floatText value).toList.map .code
  | text value => [.literal value.toList]
  | bytes value => [.code 'X', .literal (hexDigits value)]
  | timestamp value => [.literal value.text.toList]
  | null => "NULL".toList.map .code
  | list items => [.code ','].intercalate (allLexemes items)

/-- The lexemes of several arguments. -/
def allLexemes [TimestampFormat] : List Argument → List (List Lexeme)
  | [] => []
  | argument :: rest => lexemes argument :: allLexemes rest

end

theorem allContents_eq (arguments : List Argument) :
    allContents arguments = arguments.flatMap contents := by
  induction arguments with
  | nil => rfl
  | cons argument rest ih => rw [allContents, ih, List.flatMap_cons]

theorem allErased_eq (arguments : List Argument) : allErased arguments = arguments.map erased := by
  induction arguments with
  | nil => rfl
  | cons argument rest ih => rw [allErased, ih, List.map_cons]

theorem allLexemes_eq [TimestampFormat] (arguments : List Argument) :
    allLexemes arguments = arguments.map lexemes := by
  induction arguments with
  | nil => rfl
  | cons argument rest ih => rw [allLexemes, ih, List.map_cons]

variable {argument : Argument}

theorem IsQuotable.erased (quotable : argument.IsQuotable) : argument.erased.IsQuotable := by
  induction quotable with
  | int value => exact .int value
  | text value => exact .text ""
  | bytes value => exact .bytes .empty
  | null => exact .null
  | list each ih =>
    rw [Argument.erased, allErased_eq]
    exact .list (List.forall_mem_map.mpr ih)

/-- Erasing an argument empties its literals, and changes nothing else. -/
theorem IsQuotable.lexemes_erased [TimestampFormat] (quotable : argument.IsQuotable) :
    argument.erased.lexemes = argument.lexemes.map Lexeme.erased := by
  induction quotable with
  | int value | null => simp [Argument.erased, lexemes, Lexeme.erased]
  | text value => rfl
  | bytes value => simp [Argument.erased, lexemes, Lexeme.erased, hexDigits]
  | @list items each ih =>
    rw [Argument.erased, lexemes, lexemes, allErased_eq, allLexemes_eq, allLexemes_eq,
      List.map_intercalate, List.map_map, List.map_map]
    exact congrArg _ (List.map_congr_left ih)

/-- The contents of the lexemes are those of the argument. -/
theorem IsQuotable.contents_lexemes [TimestampFormat] (quotable : argument.IsQuotable) :
    argument.lexemes.filterMap Lexeme.content? = argument.contents := by
  induction quotable with
  | int value | null => simp [contents, lexemes, Lexeme.content?]
  | text value => rfl
  | bytes value => rfl
  | @list items each ih =>
    rw [lexemes, contents, allLexemes_eq, allContents_eq, List.filterMap_intercalate rfl,
      List.flatMap_map]
    exact List.flatMap_congr ih

theorem hexByte_eq (byte : UInt8) :
    hexByte byte = [hexDigit (byte.toNat / 16), hexDigit (byte.toNat % 16)] := by
  have table : ∀ value < 256,
      hexByte (UInt8.ofNat value) = [hexDigit (value / 16), hexDigit (value % 16)] := by
    decide +kernel
  simpa using table byte.toNat byte.toNat_lt

theorem hexDigit_ne (value : Nat) : hexDigit value ≠ '\'' ∧ hexDigit value ≠ '\\' := by
  by_cases small : value < 16
  · have table : ∀ value < 16, hexDigit value ≠ '\'' ∧ hexDigit value ≠ '\\' := by decide
    exact table value small
  · rw [hexDigit, List.getD_eq_getElem?_getD, List.getElem?_eq_none (Nat.not_lt.mp small)]
    decide

/-- The digits of a byte string are quoted as they are. -/
theorem flatMap_quotedChar_hexDigits (dialect : Dialect) (bytes : ByteArray) :
    (hexDigits bytes).flatMap dialect.quotedChar = hexDigits bytes := by
  apply dialect.flatMap_quotedChar_of_plain
  all_goals
    intro special
    simp only [hexDigits, List.mem_flatMap, List.mem_cons, List.not_mem_nil, or_false] at special
    obtain ⟨byte, _, high | low⟩ := special
  · exact (hexDigit_ne _).1 high.symm
  · exact (hexDigit_ne _).1 low.symm
  · exact (hexDigit_ne _).2 high.symm
  · exact (hexDigit_ne _).2 low.symm

/-- A byte string is shown as a letter in front of its quoted digits. -/
theorem toList_literal_bytes [TimestampFormat] (dialect : Dialect) (bytes : ByteArray) :
    ((Argument.bytes bytes).literal dialect).toList =
      'X' :: (dialect.quoted (String.ofList (hexDigits bytes))).toList := by
  have digits : bytes.toList.flatMap hexByte = hexDigits bytes :=
    List.flatMap_congr fun byte _ => hexByte_eq byte
  simp [literal, Dialect.quoted, digits, flatMap_quotedChar_hexDigits]

/-- A timestamp is read as the literal that it stands in, for nothing in it has to be quoted. -/
theorem reads_timestamp [TimestampFormat] (dialect : Dialect) (value : Timestamp) :
    dialect.Reads ((Argument.timestamp value).literal dialect).toList
      (Argument.timestamp value).lexemes := by
  have plain : value.text.toList.flatMap dialect.quotedChar = value.text.toList :=
    dialect.flatMap_quotedChar_of_plain (TimestampFormat.quote_not_mem value)
      (TimestampFormat.backslash_not_mem value)
  have quoted : dialect.quoted value.text = (Argument.timestamp value).literal dialect := by
    rw [Dialect.quoted, plain, String.ofList_toList, literal]
  rw [← quoted, lexemes]
  exact .quoted value.text

/-- Outside of literals, the literal of an argument is read as it should be. -/
theorem IsQuotable.reads [TimestampFormat] (quotable : argument.IsQuotable) (dialect : Dialect) :
    dialect.Reads (argument.literal dialect).toList argument.lexemes := by
  induction quotable with
  | int value => exact .code fun quote => absurd (isDigit_of_mem_toString quote) (by decide)
  | text value => exact .quoted value
  | bytes value =>
    rw [toList_literal_bytes]
    have digits : dialect.Reads _ _ := .quoted (String.ofList (hexDigits value))
    rw [String.toList_ofList] at digits
    exact .code_cons (by decide) digits
  | null => exact show dialect.Reads "NULL".toList _ from .code (by decide)
  | @list items each ih =>
    rw [literal, lexemes, literals_eq_map, allLexemes_eq, String.toList_intercalate, List.map_map]
    exact .commas ih

end Argument

/-! ### Queries -/

namespace Query

/-- What a scanner should make of a text in which arguments are shown in the place of placeholders. -/
def lexemes [TimestampFormat] : List Char → List Argument → List Lexeme
  | [], _ => []
  | '?' :: rest, argument :: arguments => argument.lexemes ++ lexemes rest arguments
  | char :: rest, arguments => .code char :: lexemes rest arguments

/-- The query without the texts and byte strings among its arguments. -/
def erased (query : Query) : Query where
  text := query.text
  arguments := query.arguments.map Argument.erased

variable {text : List Char} {arguments : List Argument}

theorem lexemes_map_erased [TimestampFormat] (quotable : ∀ argument ∈ arguments, argument.IsQuotable) :
    lexemes text (arguments.map Argument.erased) = (lexemes text arguments).map Lexeme.erased := by
  fun_induction lexemes text arguments with
  | case1 => rfl
  | case2 rest argument arguments ih =>
    obtain ⟨first, others⟩ := List.forall_mem_cons.mp quotable
    rw [List.map_cons, lexemes, ih others, first.lexemes_erased, List.map_append]
  | case3 char rest arguments other ih =>
    rw [lexemes, ih quotable]
    · rfl
    · intro argument others split
      obtain ⟨first, rest, rfl, _, _⟩ := List.map_eq_cons_iff.mp split
      exact other _ _ rfl

theorem contents_lexemes [TimestampFormat] (quotable : ∀ argument ∈ arguments, argument.IsQuotable) :
    (lexemes text arguments).filterMap Lexeme.content? =
      (arguments.take (placeholders text)).flatMap Argument.contents := by
  fun_induction lexemes text arguments with
  | case1 => rfl
  | case2 rest argument arguments ih =>
    obtain ⟨first, others⟩ := List.forall_mem_cons.mp quotable
    have counted : placeholders ('?' :: rest) = placeholders rest + 1 := List.count_cons_self
    rw [counted, List.take_succ_cons, List.filterMap_append, first.contents_lexemes, ih others,
      List.flatMap_cons]
  | case3 char rest arguments other ih =>
    rw [List.filterMap_cons_none rfl, ih quotable]
    by_cases mark : char = '?'
    · subst mark
      cases arguments with
      | nil => simp
      | cons argument others => exact absurd rfl (other argument others rfl)
    · rw [placeholders, placeholders, List.count_cons_of_ne mark]

/-- What is no placeholder, or has no piece left for it, stays in front. -/
theorem fill_cons {char : Char} {pieces : List (List Char)} (stays : char = '?' → pieces = []) :
    fill (char :: text) pieces = char :: fill text pieces := by
  by_cases mark : char = '?'
  · rw [stays mark, mark, fill, if_pos rfl]
  · cases pieces <;> simp [fill, mark]

/-- Filling does not change what a text starts with, unless that is a placeholder. -/
theorem head?_fill {pieces : List (List Char)} (unmarked : text.head? ≠ some '?') :
    (fill text pieces).head? = text.head? := by
  cases text with
  | nil => rfl
  | cons char rest =>
    rw [fill_cons fun mark => absurd (congrArg some mark) unmarked]
    rfl

/-- Filled with the literals of arguments, a text is read as it should be. -/
theorem reads_fill [TimestampFormat] (unquoted : '\'' ∉ text) (apart : ¬ ['?', '?'] <:+: text)
    (quotable : ∀ argument ∈ arguments, argument.IsQuotable) (dialect : Dialect) :
    dialect.Reads (fill text (arguments.map fun argument => (argument.literal dialect).toList))
      (lexemes text arguments) := by
  fun_induction lexemes text arguments with
  | case1 => exact .nil
  | case2 rest argument arguments ih =>
    obtain ⟨first, others⟩ := List.forall_mem_cons.mp quotable
    have unquotedRest : '\'' ∉ rest := fun quote => unquoted (List.mem_cons_of_mem _ quote)
    have apartRest : ¬ ['?', '?'] <:+: rest := fun inside => apart (List.infix_cons inside)
    -- the literal may end in a quote, so what comes next must not start with one
    have follows : (fill rest (arguments.map fun argument => (argument.literal dialect).toList)).head? ≠
        some '\'' := by
      rw [head?_fill]
      · exact fun quote => unquotedRest (List.mem_of_head? quote)
      · intro mark
        obtain ⟨others, rfl⟩ := List.head?_eq_some_iff.mp mark
        exact apart (List.prefix_append ['?', '?'] others).isInfix
    exact (first.reads dialect).append (ih unquotedRest apartRest others) follows
  | case3 char rest arguments other ih =>
    rw [List.mem_cons, not_or] at unquoted
    have stays : char = '?' →
        arguments.map (fun argument => (argument.literal dialect).toList) = [] := by
      intro mark
      cases arguments with
      | nil => rfl
      | cons argument others => exact absurd mark (other argument others rfl)
    rw [fill_cons stays]
    exact .code_cons (Ne.symm unquoted.1)
      (ih unquoted.2 (fun inside => apart (List.infix_cons inside)) quotable)

/-- Surplus pieces are dropped. -/
theorem fill_take (text : List Char) (pieces : List (List Char)) :
    fill text (pieces.take (placeholders text)) = fill text pieces := by
  induction text generalizing pieces with
  | nil => rfl
  | cons char rest ih =>
    by_cases mark : char = '?'
    · subst mark
      have counted : placeholders ('?' :: rest) = placeholders rest + 1 := List.count_cons_self
      cases pieces with
      | nil => rw [List.take_nil]
      | cons piece pieces => simp only [counted, List.take_succ_cons, fill, ↓reduceIte, ih]
    · have counted : placeholders (char :: rest) = placeholders rest := List.count_cons_of_ne mark
      rw [counted, fill_cons (absurd · mark), fill_cons (absurd · mark), ih]

/-- Arguments in a query without quotes of its own, and with something between its placeholders,
stay inside their literals in every dialect: the scanner ends outside of literals, finds as contents
the texts and the digits of the byte strings that are shown, in order, and finds the same around them
as it does if the texts and byte strings are empty. Surplus arguments are dropped, and what follows
the last placeholder that has an argument stays as it is. -/
theorem scan_render [TimestampFormat] {query : Query} (unquoted : '\'' ∉ query.text.toList)
    (apart : ¬ ['?', '?'] <:+: query.text.toList)
    (quotable : ∀ argument ∈ query.arguments, argument.IsQuotable) :
    (∃ found, (∀ dialect : Dialect,
        dialect.scan none (query.render dialect).toList = some found ∧
        dialect.scan none (query.erased.render dialect).toList = some (found.map Lexeme.erased)) ∧
      found.filterMap Lexeme.content? =
        (query.arguments.take (placeholders query.text.toList)).flatMap Argument.contents) ∧
    ∀ dialect : Dialect,
      query.render dialect = Query.render dialect
        ⟨query.text, query.arguments.take (placeholders query.text.toList)⟩ ∧
      ∀ front back, query.text = front ++ back →
        placeholders front.toList = query.arguments.length →
        query.render dialect = Query.render dialect ⟨front, query.arguments⟩ ++ back := by
  have scans {dialect : Dialect} {text : String} {lexemes : List Lexeme}
      (reads : dialect.Reads text.toList lexemes) : dialect.scan none text.toList = some lexemes := by
    simpa [Dialect.scan] using reads [] (by simp)
  refine ⟨⟨lexemes query.text.toList query.arguments, fun dialect => ⟨?_, ?_⟩,
    contents_lexemes quotable⟩, fun dialect => ⟨?_, ?_⟩⟩
  · apply scans
    rw [render, String.toList_ofList]
    exact reads_fill unquoted apart quotable dialect
  · have erasedQuotable : ∀ argument ∈ query.erased.arguments, argument.IsQuotable :=
      List.forall_mem_map.mpr fun argument member => (quotable argument member).erased
    apply scans
    rw [render, String.toList_ofList, ← lexemes_map_erased quotable]
    exact reads_fill unquoted apart erasedQuotable dialect
  · rw [render, render, List.map_take, fill_take]
  · intro front back split counted
    have balanced : placeholders front.toList =
        (query.arguments.map fun argument => (argument.literal dialect).toList).length := by
      rw [counted, List.length_map]
    have filled := fill_append front.toList back.toList _ [] balanced
    rw [List.append_nil, fill_nil] at filled
    rw [render, split, String.toList_append, filled, String.ofList_append, String.ofList_toList]
    rfl

/-- Texts that end in quotes and backslashes, a byte string, and an argument too many. -/
def quotes : Query where
  text := "name IN (?) AND mark=? OR raw=? OR n=?x"
  arguments := [.list [.text "it's", .list [.text "a\\", .int (-3)]], .text "'\\'",
    .bytes ⟨#[10, 255]⟩, .null, .text "dropped"]

theorem scan_render_quotes :
    '\'' ∉ quotes.text.toList ∧ ¬ ['?', '?'] <:+: quotes.text.toList ∧
      (∀ argument ∈ quotes.arguments, argument.IsQuotable) ∧
      quotes.render .mysql =
        "name IN ('it\\'s','a\\\\',-3) AND mark='\\'\\\\\\'' OR raw=X'0AFF' OR n=NULLx" ∧
      quotes.render .standard =
        "name IN ('it''s','a\\',-3) AND mark='''\\''' OR raw=X'0AFF' OR n=NULLx" ∧
      ∃ found, (∀ dialect : Dialect, dialect.scan none (quotes.render dialect).toList = some found) ∧
        found.filterMap Lexeme.content? =
          ["it's".toList, "a\\".toList, "'\\'".toList, "0AFF".toList] := by
  have unquoted : '\'' ∉ quotes.text.toList := by decide +kernel
  have apart : ¬ ['?', '?'] <:+: quotes.text.toList := by decide +kernel
  have quotable : ∀ argument ∈ quotes.arguments, argument.IsQuotable := by
    have inner : ∀ item ∈ [Argument.text "a\\", .int (-3)], item.IsQuotable := by
      simp [Argument.IsQuotable.text, Argument.IsQuotable.int]
    have outer : ∀ item ∈ [Argument.text "it's", .list [.text "a\\", .int (-3)]], item.IsQuotable := by
      simp [Argument.IsQuotable.text, Argument.IsQuotable.list inner]
    simp [quotes, Argument.IsQuotable.text, Argument.IsQuotable.bytes, Argument.IsQuotable.null,
      Argument.IsQuotable.list outer]
  obtain ⟨⟨found, scans, contents⟩, _⟩ := scan_render unquoted apart quotable
  exact ⟨unquoted, apart, quotable, by decide +kernel, by decide +kernel, found,
    fun dialect => (scans dialect).1, contents.trans (by decide +kernel)⟩

-- without anything between the placeholders, the standard reads two literals as one
example : Dialect.standard.scan none
    (Query.render .standard ⟨"??", [.text "a", .text "b"]⟩).toList = some [.literal "a'b".toList] := by
  decide +kernel

end Query

end Criteria
