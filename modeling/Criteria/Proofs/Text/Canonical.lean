import Criteria.Clause
import Criteria.Token.Scan
import Mathlib.Data.List.DropRight
import Mathlib.Tactic.SplitIfs

/-! # Canonical names and values

A text is canonical if reading can give it as a name or value: it is not empty, has no blanks at its
edges, and consists of the characters that names and values are made of. Escaping a canonical text
and reading it back gives the same text, whatever follows, as long as that cannot belong to it.
-/

namespace Criteria.Text

/-- What a name or value looks like once it has been read. -/
structure IsCanonical (text : List Char) : Prop where
  ne_nil : text ≠ []
  head : ∀ char ∈ text.head?, isBlank char = false
  last : ∀ char ∈ text.getLast?, isBlank char = false
  chars : ∀ char ∈ text, isIdentChar char = true ∨ char = '\\' ∨ isSeparator char = true

/-- Whether a text is canonical, as a computation. -/
def isCanonical (text : List Char) : Bool :=
  !text.isEmpty && text.head?.all (!isBlank ·) && text.getLast?.all (!isBlank ·) &&
    text.all fun char => isIdentChar char || char == '\\' || isSeparator char

theorem isCanonical_iff {text : List Char} : isCanonical text = true ↔ IsCanonical text := by
  simp only [isCanonical, Bool.and_eq_true, Bool.not_eq_true', List.isEmpty_eq_false_iff,
    Option.all_eq_true, List.all_eq_true, Bool.or_eq_true, beq_iff_eq, or_assoc, and_assoc]
  exact ⟨fun ⟨ne_nil, head, last, chars⟩ => ⟨ne_nil, head, last, chars⟩,
    fun ⟨ne_nil, head, last, chars⟩ => ⟨ne_nil, head, last, chars⟩⟩

instance (text : List Char) : Decidable (IsCanonical text) :=
  decidable_of_iff _ isCanonical_iff

/-! ### Trimming -/

theorem trim_eq_rdropWhile (text : List Char) :
    trim text = (text.dropWhile isBlank).rdropWhile isBlank := rfl

theorem mem_of_mem_trim {text : List Char} {char : Char} (member : char ∈ trim text) :
    char ∈ text :=
  (List.dropWhile_suffix isBlank).subset ((List.rdropWhile_prefix isBlank _).subset member)

private theorem isBlank_of_mem_head?_dropWhile {text : List Char} {char : Char}
    (first : char ∈ (text.dropWhile isBlank).head?) : isBlank char = false := by
  have stopped := List.head?_dropWhile_not isBlank text
  rw [Option.mem_def.mp first] at stopped
  simpa using stopped

theorem isBlank_of_mem_head?_trim {text : List Char} {char : Char}
    (first : char ∈ (trim text).head?) : isBlank char = false := by
  obtain ⟨dropped, split⟩ := List.rdropWhile_prefix isBlank (text.dropWhile isBlank)
  have kept : char ∈ (text.dropWhile isBlank).head? := by
    rw [← split, ← trim_eq_rdropWhile, List.head?_append, Option.mem_def.mp first]
    rfl
  exact isBlank_of_mem_head?_dropWhile kept

theorem isBlank_of_mem_getLast?_trim {text : List Char} {char : Char}
    (last : char ∈ (trim text).getLast?) : isBlank char = false := by
  rw [trim, List.getLast?_reverse] at last
  exact isBlank_of_mem_head?_dropWhile last

/-- Nothing is trimmed from a text without blanks at its edges. -/
theorem trim_of_edges {text : List Char} (head : ∀ char ∈ text.head?, isBlank char = false)
    (last : ∀ char ∈ text.getLast?, isBlank char = false) : trim text = text := by
  have front : text.dropWhile isBlank = text := by
    cases text with
    | nil => rfl
    | cons first others =>
      exact List.dropWhile_cons_of_neg (by simp [head first rfl])
  rw [trim_eq_rdropWhile, front, List.rdropWhile_eq_self_iff]
  intro nonempty
  simp [last _ (List.getLast_mem_getLast? nonempty)]

/-- A blank at the end of a text is trimmed. -/
theorem trim_concat_of_edges {text : List Char} {blank : Char} (blanks : isBlank blank = true)
    (ne_nil : text ≠ []) (head : ∀ char ∈ text.head?, isBlank char = false)
    (last : ∀ char ∈ text.getLast?, isBlank char = false) : trim (text ++ [blank]) = text := by
  obtain ⟨first, others, rfl⟩ := List.exists_cons_of_ne_nil ne_nil
  have front : (first :: others ++ [blank]).dropWhile isBlank = first :: others ++ [blank] :=
    List.dropWhile_cons_of_neg (by simp [head first rfl])
  rw [trim_eq_rdropWhile, front, List.rdropWhile_concat_pos _ _ _ blanks]
  rw [List.rdropWhile_eq_self_iff]
  intro nonempty
  simp [last _ (List.getLast_mem_getLast? nonempty)]

/-- Blanks, and only they, are trimmed to nothing. -/
theorem trim_eq_nil_iff {text : List Char} : trim text = [] ↔ ∀ char ∈ text, isBlank char = true := by
  constructor
  · intro nothing
    rw [trim_eq_rdropWhile, List.rdropWhile_eq_nil_iff] at nothing
    have stopped := List.head?_dropWhile_not isBlank text
    cases dropped : text.dropWhile isBlank with
    | nil => exact List.dropWhile_eq_nil_iff.mp dropped
    | cons first others =>
      rw [dropped] at nothing stopped
      simp [nothing first (List.mem_cons_self ..)] at stopped
  · intro blanks
    rw [trim, List.dropWhile_eq_nil_iff.mpr blanks]
    rfl

/-! ### Unescaping -/

theorem mem_of_mem_unescape {text : List Char} {char : Char} (member : char ∈ unescape text) :
    char ∈ text := by
  fun_induction unescape text with
  | case1 next rest separator ih =>
    rcases List.mem_cons.mp member with rfl | member
    · exact List.mem_cons_of_mem _ (List.mem_cons_self ..)
    · exact List.mem_cons_of_mem _ (List.mem_cons_of_mem _ (ih member))
  | case2 next rest ordinary ih =>
    rcases List.mem_cons.mp member with rfl | member
    · exact List.mem_cons_self ..
    · exact List.mem_cons_of_mem _ (ih member)
  | case3 first rest alone ih =>
    rcases List.mem_cons.mp member with rfl | member
    · exact List.mem_cons_self ..
    · exact List.mem_cons_of_mem _ (ih member)
  | case4 => exact member

/-- Unescaping does not make blanks of anything else. -/
theorem isBlank_of_unescape {text : List Char}
    (blanks : ∀ char ∈ unescape text, isBlank char = true) : ∀ char ∈ text, isBlank char = true := by
  fun_induction unescape text with
  | case1 next rest separator ih =>
    have blank := blanks next (List.mem_cons_self ..)
    simp only [isSeparator, Bool.or_eq_true, decide_eq_true_eq] at separator
    rcases separator with rfl | rfl <;> exact absurd blank (by decide)
  | case2 next rest ordinary ih => exact absurd (blanks '\\' (List.mem_cons_self ..)) (by decide)
  | case3 first rest alone ih =>
    obtain ⟨head, tail⟩ := List.forall_mem_cons.mp blanks
    exact List.forall_mem_cons.mpr ⟨head, ih tail⟩
  | case4 => exact blanks

/-- Unescaping works on two texts one by one, unless a backslash at the end of the first escapes a
separator at the beginning of the second. -/
theorem unescape_append {first second : List Char}
    (apart : ∀ char ∈ second.head?, isSeparator char = true → first.getLast? ≠ some '\\') :
    unescape (first ++ second) = unescape first ++ unescape second := by
  fun_induction unescape first with
  | case1 next rest separator ih =>
    rw [List.cons_append, List.cons_append, unescape_backslash_separator _ separator, ih]
    · rfl
    · intro char begins separates last
      exact apart char begins separates (by simp [List.getLast?_cons, last])
  | case2 next rest ordinary ih =>
    rw [List.cons_append, List.cons_append,
      unescape_backslash_of_not_separator _ (by simpa using ordinary), ← List.cons_append, ih]
    · rfl
    · intro char begins separates last
      exact apart char begins separates (by rw [List.getLast?_cons_cons]; exact last)
  | case3 char rest alone ih =>
    by_cases backslash : char = '\\'
    · -- Only a lone backslash is left here, which `apart` keeps from escaping anything.
      subst backslash
      obtain rfl : rest = [] := by
        cases rest with
        | nil => rfl
        | cons next others => exact (alone next others rfl rfl).elim
      cases second with
      | nil => rfl
      | cons next others =>
        have ordinary : isSeparator next = false :=
          Bool.eq_false_iff.mpr fun separates => apart next rfl separates rfl
        exact unescape_backslash_of_not_separator _ ordinary
    · rw [List.cons_append, unescape_cons_of_ne _ backslash, ih]
      · rfl
      · intro next begins separates last
        exact apart next begins separates (by simp [List.getLast?_cons, last])
  | case4 => rfl

/-! ### The beginning that belongs to a name or value -/

/-- The characters with which a name or value begins and goes on. A separator is none of them: it
belongs to a name or value only after a backslash. -/
def continuesIdent (char : Char) : Bool :=
  char = '\\' || isIdentChar char

theorem identSpan_cons_of_ne {char : Char} (rest : List Char) (ordinary : char ≠ '\\') :
    identSpan (char :: rest) =
      if isIdentChar char then Prod.map (char :: ·) id (identSpan rest) else ([], char :: rest) := by
  rw [identSpan]
  · simp [ordinary]
  · intro _ _ backslash
    exact absurd backslash ordinary

theorem identSpan_backslash_separator {char : Char} (rest : List Char)
    (separator : isSeparator char = true) :
    identSpan ('\\' :: char :: rest) = Prod.map ('\\' :: char :: ·) id (identSpan rest) := by
  rw [identSpan, if_pos separator]

theorem identSpan_backslash {rest : List Char}
    (ordinary : ∀ char ∈ rest.head?, isSeparator char = false) :
    identSpan ('\\' :: rest) = Prod.map ('\\' :: ·) id (identSpan rest) := by
  cases rest with
  | nil => rfl
  | cons char rest => rw [identSpan, if_neg (by simp [ordinary char rfl])]

theorem identSpan_of_head {rest : List Char}
    (stops : ∀ char ∈ rest.head?, continuesIdent char = false) : identSpan rest = ([], rest) := by
  cases rest with
  | nil => rfl
  | cons char rest =>
    have stop := stops char rfl
    simp only [continuesIdent, Bool.or_eq_false_iff, decide_eq_false_iff_not] at stop
    rw [identSpan_cons_of_ne _ stop.1, stop.2]
    rfl

/-- A name or value has no other characters than those of canonical texts. -/
theorem chars_identSpan {text : List Char} {char : Char} (member : char ∈ (identSpan text).1) :
    isIdentChar char = true ∨ char = '\\' ∨ isSeparator char = true := by
  fun_induction identSpan text with
  | case1 next rest separator ih =>
    simp only [Prod.map_fst, List.mem_cons] at member
    rcases member with rfl | rfl | member
    · exact .inr (.inl rfl)
    · exact .inr (.inr separator)
    · exact ih member
  | case2 next rest ordinary ih =>
    rcases List.mem_cons.mp member with rfl | member
    · exact .inr (.inl rfl)
    · exact ih member
  | case3 first rest alone continues ih =>
    rcases List.mem_cons.mp member with rfl | member
    · rcases Bool.or_eq_true_iff.mp continues with backslash | ident
      · exact .inr (.inl (of_decide_eq_true backslash))
      · exact .inl ident
    · exact ih member
  | case4 first rest alone stops => contradiction
  | case5 => contradiction

/-- A text that belongs to one name or value as a whole extends the one that begins after it, unless
its last backslash escapes the separator there. -/
theorem identSpan_append_of_whole {span rest : List Char} (whole : (identSpan span).2 = [])
    (apart : ∀ char ∈ rest.head?, isSeparator char = true → span.getLast? ≠ some '\\') :
    identSpan (span ++ rest) = Prod.map (span ++ ·) id (identSpan rest) := by
  fun_induction identSpan span with
  | case1 next others separator ih =>
    have shorter := ih whole fun char begins separates last =>
      apart char begins separates (by simp [List.getLast?_cons, last])
    rw [List.cons_append, List.cons_append, identSpan_backslash_separator _ separator, shorter]
    rfl
  | case2 next others ordinary ih =>
    have shorter := ih whole fun char begins separates last =>
      apart char begins separates (by rw [List.getLast?_cons_cons]; exact last)
    rw [List.cons_append, identSpan_backslash, shorter]
    · rfl
    · intro char begins
      cases begins
      simpa using ordinary
  | case3 first others alone continues ih =>
    by_cases backslash : first = '\\'
    · subst backslash
      obtain rfl : others = [] := by
        cases others with
        | nil => rfl
        | cons next others => exact (alone next others rfl rfl).elim
      rw [List.cons_append, identSpan_backslash]
      · rfl
      · intro char begins
        exact Bool.eq_false_iff.mpr fun separates => apart char begins separates rfl
    · have ident : isIdentChar first = true := by simpa [backslash] using continues
      have shorter := ih whole fun char begins separates last =>
        apart char begins separates (by simp [List.getLast?_cons, last])
      rw [List.cons_append, identSpan_cons_of_ne _ backslash, if_pos ident, shorter]
      rfl
  | case4 first others alone stops => cases whole
  | case5 => rfl

/-- Escaped text belongs to one name or value as a whole. -/
theorem identSpan_escape {text : List Char}
    (chars : ∀ char ∈ text, isIdentChar char = true ∨ char = '\\' ∨ isSeparator char = true) :
    identSpan (escape text) = (escape text, []) := by
  induction text with
  | nil => rfl
  | cons char rest ih =>
    have shorter := ih fun other member => chars other (List.mem_cons_of_mem _ member)
    by_cases separator : isSeparator char = true
    · rw [escape, if_pos separator, identSpan_backslash_separator _ separator, shorter]
      rfl
    · rw [escape, if_neg separator]
      by_cases backslash : char = '\\'
      · subst backslash
        rw [identSpan_backslash, shorter]
        · rfl
        · intro next begins
          obtain ⟨others, begins⟩ := List.head?_eq_some_iff.mp begins
          exact escape_head begins
      · have ident : isIdentChar char = true := by
          simpa [backslash, separator] using chars char (List.mem_cons_self ..)
        rw [identSpan_cons_of_ne _ backslash, if_pos ident, shorter]
        rfl

/-- What is read as a name or value is canonical, unless there is nothing to read. -/
theorem isCanonical_identName {text : List Char} (ne_nil : identName text ≠ []) :
    IsCanonical (identName text) where
  ne_nil := ne_nil
  head _ first := isBlank_of_mem_head?_trim first
  last _ last := isBlank_of_mem_getLast?_trim last
  chars _ member := chars_identSpan (mem_of_mem_unescape (mem_of_mem_trim member))

namespace IsCanonical

variable {text rest : List Char}

/-- Where a canonical text is written, nothing else can begin. -/
theorem exists_mem_head?_escape (canonical : IsCanonical text) :
    ∃ char ∈ (escape text).head?, continuesIdent char = true ∧ char ≠ ' ' := by
  obtain ⟨first, others, rfl⟩ := List.exists_cons_of_ne_nil canonical.ne_nil
  by_cases separator : isSeparator first = true
  · exact ⟨'\\', by simp [escape, separator], rfl, by decide⟩
  · refine ⟨first, by simp [escape, separator], ?_, ?_⟩
    · rcases canonical.chars first (List.mem_cons_self ..) with ident | backslash | separates
      · simp [continuesIdent, ident]
      · simp [continuesIdent, backslash]
      · exact absurd separates separator
    · rintro rfl
      exact absurd (canonical.head ' ' rfl) (by decide)

/-- A canonical name is read back from where it is written, before a character that begins no
separator and does not belong to it. -/
theorem identSpan_escape_append (canonical : IsCanonical text)
    (stops : ∀ char ∈ rest.head?, continuesIdent char = false ∧ isSeparator char = false) :
    identSpan (escape text ++ rest) = (escape text, rest) := by
  rw [identSpan_append_of_whole, identSpan_of_head fun char begins => (stops char begins).1]
  · simp
  · rw [identSpan_escape canonical.chars]
  · intro char begins separates
    rw [(stops char begins).2] at separates
    cases separates

theorem trim_unescape_escape (canonical : IsCanonical text) :
    trim (unescape (escape text)) = text := by
  rw [unescape_escape, trim_of_edges canonical.head canonical.last]

end IsCanonical

end Criteria.Text

namespace Criteria.Clause

open Text

/-- A guarded text never escapes what is written after it. -/
theorem getLast?_guarded (text : List Char) : (guarded text).getLast? ≠ some '\\' := by
  unfold guarded
  split_ifs with backslash
  · simp
  · exact backslash

theorem head?_guarded (text : List Char) : (guarded text).head? = text.head? := by
  unfold guarded
  split_ifs with backslash
  · cases text with
    | nil => contradiction
    | cons first others => rfl
  · rfl

theorem identSpan_guarded {text : List Char} (whole : (identSpan text).2 = []) :
    (identSpan (guarded text)).2 = [] := by
  unfold guarded
  split_ifs
  · rw [identSpan_append_of_whole whole]
    · rfl
    · intro char begins separates
      cases begins
      cases separates
  · exact whole

/-- The space after a backslash is trimmed when the text is read. -/
theorem trim_unescape_guarded_escape {text : List Char} (canonical : IsCanonical text) :
    trim (unescape (guarded (escape text))) = text := by
  unfold guarded
  split_ifs
  · rw [unescape_append, unescape_escape]
    · exact trim_concat_of_edges rfl canonical.ne_nil canonical.head canonical.last
    · intro char begins separates
      cases begins
      cases separates
  · exact canonical.trim_unescape_escape

/-- A canonical value is read back from where it is written, before a separator or anything else
that does not belong to it. -/
theorem identSpan_guarded_escape_append {text rest : List Char} (canonical : IsCanonical text)
    (stops : ∀ char ∈ rest.head?, continuesIdent char = false) :
    identSpan (guarded (escape text) ++ rest) = (guarded (escape text), rest) := by
  rw [identSpan_append_of_whole, identSpan_of_head stops]
  · simp
  · exact identSpan_guarded (by rw [identSpan_escape canonical.chars])
  · exact fun _ _ _ => getLast?_guarded _

end Criteria.Clause
