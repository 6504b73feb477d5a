import Criteria.Proofs.Token.Tiling
import Mathlib.Logic.Function.Basic

/-! # Spaces between tokens

Spaces may be inserted in all places of a text but those that lie within a token: before the first one,
between two of them, after the last one, and where a token has nothing but blanks on one side. They are
skipped, or become part of a name or value, from which they are trimmed; so the tokens are the same,
only further on.
-/

namespace Criteria

open Text

namespace Text

/-- The text with extra spaces in it: as many as `extra` gives for a place before the character with
that index, and for the place after the last one. -/
def spread (extra : Nat → Nat) : List Char → List Char
  | [] => List.replicate (extra 0) ' '
  | char :: rest =>
    List.replicate (extra 0) ' ' ++ char :: spread (fun place => extra (place + 1)) rest

/-- The extra spaces in places further on than behind the first characters. -/
def beyond (extra : Nat → Nat) (count : Nat) : Nat → Nat :=
  Function.update (fun place => extra (count + place)) 0 0

/-- On one side of the place before the character with an index, the text has nothing but blanks. -/
def IsOuter (text : List Char) (place : Nat) : Prop :=
  (∀ char ∈ text.take place, isBlank char = true) ∨ ∀ char ∈ text.drop place, isBlank char = true

instance (text : List Char) (place : Nat) : Decidable (IsOuter text place) :=
  decidable_of_iff ((text.take place).all isBlank = true ∨ (text.drop place).all isBlank = true)
    (by simp only [IsOuter, List.all_eq_true])

variable {extra : Nat → Nat} {place : Nat}

/-! ### Texts with extra spaces -/

theorem beyond_zero (extra : Nat → Nat) (count : Nat) : beyond extra count 0 = 0 :=
  Function.update_self ..

theorem of_beyond_ne_zero {count : Nat} (inserted : beyond extra count place ≠ 0) :
    extra (count + place) ≠ 0 := by
  rcases Nat.eq_zero_or_pos place with rfl | after
  · exact absurd (beyond_zero extra count) inserted
  · rwa [beyond, Function.update_of_ne after.ne'] at inserted

/-- Spaces in the place between two texts are counted with the first one. -/
theorem spread_append (extra : Nat → Nat) (first second : List Char) :
    spread extra (first ++ second) = spread extra first ++ spread (beyond extra first.length) second := by
  induction first generalizing extra with
  | nil => cases second <;> simp [spread, beyond]
  | cons char others ih =>
    have further : beyond (fun place => extra (place + 1)) others.length =
        beyond extra (char :: others).length := by
      simp only [beyond, List.length_cons, Nat.add_right_comm]
    simp only [List.cons_append, spread, ih, further, List.append_assoc]

/-- Where no spaces are inserted before its characters, a text stays as it is. -/
theorem spread_of_none {text : List Char} (none : ∀ place < text.length, extra place = 0) :
    spread extra text = text ++ List.replicate (extra text.length) ' ' := by
  induction text generalizing extra with
  | nil => rfl
  | cons char others ih =>
    have shorter := ih fun place below => none (place + 1) (Nat.succ_lt_succ below)
    rw [spread, none 0 (Nat.succ_pos _), shorter, List.length_cons]
    rfl

/-- All that is inserted is spaces. -/
theorem mem_spread {text : List Char} {char : Char} (member : char ∈ spread extra text) :
    char = ' ' ∨ char ∈ text := by
  induction text generalizing extra with
  | nil => exact .inl (List.mem_replicate.mp member).2
  | cons first others ih =>
    rw [spread, List.mem_append, List.mem_cons, List.mem_replicate] at member
    rcases member with ⟨_, rfl⟩ | rfl | later
    · exact .inl rfl
    · exact .inr List.mem_cons_self
    · exact (ih later).imp id (List.mem_cons_of_mem _)

theorem isBlank_of_mem_spread {text : List Char} (blanks : ∀ char ∈ text, isBlank char = true) :
    ∀ char ∈ spread extra text, isBlank char = true := by
  intro char member
  rcases mem_spread member with rfl | inside
  · rfl
  · exact blanks char inside

theorem head?_spread (none : extra 0 = 0) (text : List Char) :
    (spread extra text).head? = text.head? := by
  cases text <;> simp [spread, none]

theorem length_le_spread (text : List Char) : text.length ≤ (spread extra text).length := by
  induction text generalizing extra with
  | nil => exact Nat.zero_le _
  | cons char others ih =>
    rw [spread, List.length_append, List.length_cons, List.length_cons]
    exact (Nat.succ_le_succ ih).trans (Nat.le_add_left _ _)

/-! ### Texts with blanks around them -/

/-- Blanks around a text that has none at its edges. -/
structure IsPadded (lead core trail : List Char) : Prop where
  lead : ∀ char ∈ lead, isBlank char = true
  trail : ∀ char ∈ trail, isBlank char = true
  ne_nil : core ≠ []
  head : ∀ char ∈ core.head?, isBlank char = false
  last : ∀ char ∈ core.getLast?, isBlank char = false

/-- A text that is not blank is padded. -/
theorem exists_isPadded {text : List Char} (visible : trim text ≠ []) :
    ∃ lead core trail, text = lead ++ (core ++ trail) ∧ IsPadded lead core trail := by
  refine ⟨text.takeWhile isBlank, trim text, (text.dropWhile isBlank).rtakeWhile isBlank, ?_, ?_⟩
  · rw [trim_eq_rdropWhile, List.rdropWhile_append_rtakeWhile, List.takeWhile_append_dropWhile]
  · exact ⟨fun _ => List.mem_takeWhile_imp, fun _ => List.mem_rtakeWhile_imp, visible,
      fun _ => isBlank_of_mem_head?_trim, fun _ => isBlank_of_mem_getLast?_trim⟩

/-- No backslash is lost where there are only blanks. -/
theorem unescape_of_blanks {text : List Char} (blanks : ∀ char ∈ text, isBlank char = true) :
    unescape text = text := by
  induction text with
  | nil => rfl
  | cons char others ih =>
    obtain ⟨blank, blanksLater⟩ := List.forall_mem_cons.mp blanks
    rw [unescape_cons_of_ne _ (by rintro rfl; cases blank), ih blanksLater]

/-- Blanks in front of a text are trimmed. -/
theorem trim_append_of_blanks_front {blanks : List Char}
    (all : ∀ char ∈ blanks, isBlank char = true) (text : List Char) :
    trim (blanks ++ text) = trim text := by
  rw [trim, trim, List.dropWhile_append_of_pos all]

/-- Blanks after a text are trimmed. -/
theorem trim_append_of_blanks (text : List Char) {blanks : List Char}
    (all : ∀ char ∈ blanks, isBlank char = true) : trim (text ++ blanks) = trim text := by
  have reversed : ∀ char ∈ blanks.reverse, isBlank char = true := by simpa using all
  rw [trim, trim, List.dropWhile_append]
  split_ifs with nothing
  · rw [List.dropWhile_eq_nil_iff.mpr all, List.isEmpty_iff.mp nothing]
  · rw [List.reverse_append, List.dropWhile_append_of_pos reversed]

namespace IsPadded

variable {lead core trail : List Char} (padded : IsPadded lead core trail)

include padded

/-- The places with blanks on one side are those outside the core. -/
theorem cases_of_isOuter (outer : IsOuter (lead ++ (core ++ trail)) place) :
    place ≤ lead.length ∨ lead.length + core.length ≤ place := by
  by_contra inside
  obtain ⟨after, before⟩ := not_or.mp inside
  rcases outer with front | back
  · obtain ⟨first, others, rfl⟩ := List.exists_cons_of_ne_nil padded.ne_nil
    obtain ⟨count, rfl⟩ := Nat.exists_eq_add_of_lt (Nat.lt_of_not_le after)
    have blank := front first (by
      rw [Nat.add_assoc, List.take_length_add_append, List.cons_append, List.take_succ_cons]
      simp)
    rw [padded.head first rfl] at blank
    cases blank
  · obtain ⟨others, last, rfl⟩ := (List.eq_nil_or_concat' core).resolve_left padded.ne_nil
    have blank := back last (by
      have bound : place ≤ (lead ++ others).length := by
        simp only [List.length_append, List.length_singleton] at before ⊢
        omega
      rw [List.append_assoc, ← List.append_assoc, List.drop_append_of_le_length bound]
      simp)
    rw [padded.last last (by simp)] at blank
    cases blank

/-- Spaces outside of its core only make the text more padded. -/
theorem exists_spread (outer : ∀ place, extra place ≠ 0 → IsOuter (lead ++ (core ++ trail)) place) :
    ∃ wider longer, spread extra (lead ++ (core ++ trail)) = wider ++ (core ++ longer) ∧
      IsPadded wider core longer ∧ trail.length ≤ longer.length := by
  have inside (place : Nat) (below : place < core.length) :
      beyond extra lead.length place = 0 := by
    by_contra inserted
    have after : place ≠ 0 := fun zero => inserted (by rw [zero, beyond_zero])
    have cut := padded.cases_of_isOuter (outer _ (of_beyond_ne_zero inserted))
    omega
  rw [spread_append, spread_append, spread_of_none inside, List.append_assoc]
  refine ⟨_, _, rfl, ⟨isBlank_of_mem_spread padded.lead, fun char member => ?_, padded.ne_nil,
    padded.head, padded.last⟩, ?_⟩
  · rcases List.mem_append.mp member with space | inTrail
    · rw [(List.mem_replicate.mp space).2]
      rfl
    · exact isBlank_of_mem_spread padded.trail char inTrail
  · rw [List.length_append]
    exact (length_le_spread trail).trans (Nat.le_add_left _ _)

/-- The blanks around a name or value do not count. -/
theorem trim_unescape : trim (unescape (lead ++ (core ++ trail))) = trim (unescape core) := by
  have leadApart : ∀ char ∈ (core ++ trail).head?, isSeparator char = true →
      lead.getLast? ≠ some '\\' := by
    intro _ _ _ escaped
    cases padded.lead _ (List.mem_of_getLast? escaped)
  have trailApart : ∀ char ∈ trail.head?, isSeparator char = true → core.getLast? ≠ some '\\' := by
    intro char begins separator
    have blank := padded.trail char (List.mem_of_mem_head? begins)
    simp only [isBlank, isSeparator, Bool.or_eq_true, decide_eq_true_eq] at blank separator
    rcases blank with rfl | rfl <;> rcases separator with impossible | impossible <;>
      cases impossible
  rw [unescape_append leadApart, unescape_append trailApart, unescape_of_blanks padded.lead,
    unescape_of_blanks padded.trail, trim_append_of_blanks_front padded.lead,
    trim_append_of_blanks _ padded.trail]

end IsPadded

/-- Blanks further back make no difference to whether a name or value goes on. -/
theorem Continues.of_blanks {blanks before : List Char} {char : Char}
    (continues : Continues (blanks ++ before) char)
    (all : ∀ char ∈ blanks, isBlank char = true) : Continues before char := by
  cases before with
  | cons first others => exact (continues_append blanks (List.cons_ne_nil _ _)).mp continues
  | nil =>
    rw [List.append_nil] at continues
    rcases continues with ident | backslash | ⟨_, escaped⟩
    · exact .inl ident
    · exact .inr (.inl backslash)
    · cases all _ (List.mem_of_getLast? escaped)

theorem isIdentChar_of_isBlank {char : Char} (blank : isBlank char = true) :
    isIdentChar char = true := by
  simp only [isBlank, Bool.or_eq_true, decide_eq_true_eq] at blank
  rcases blank with rfl | rfl <;> rfl

/-- A name or value goes on over other blanks around its core, and ends where it has ended before. -/
theorem IsSpan.pad {lead core trail wider longer rest body : List Char}
    (spans : IsSpan (lead ++ (core ++ trail)) rest) (padded : IsPadded lead core trail)
    (other : IsPadded wider core longer) (kept : trail.length ≤ longer.length)
    (same : body.head? = rest.head?) : IsSpan (wider ++ (core ++ longer)) body where
  inside before char after split := by
    rcases List.cases_of_append_eq split with ⟨more, within⟩ | ⟨front, rfl, within⟩
    · exact .inl (isIdentChar_of_isBlank (other.lead char (by simp [within])))
    · rcases List.cases_of_append_eq within with ⟨more, inCore⟩ | ⟨between, _, within⟩
      · have continues := spans.inside (lead ++ front) char (more ++ trail) (by simp [inCore])
        exact (continues.of_blanks padded.lead).append wider
      · exact .inl (isIdentChar_of_isBlank (other.trail char (by simp [within])))
  stops char begins continues := by
    rw [same] at begins
    apply spans.stops char begins
    refine Continues.append ?_ lead
    rcases continues.of_blanks other.lead with ident | backslash | ⟨separator, escaped⟩
    · exact .inl ident
    · exact .inr (.inl backslash)
    · refine .inr (.inr ⟨separator, ?_⟩)
      cases longer with
      | nil =>
        obtain rfl := List.eq_nil_of_length_eq_zero (Nat.le_zero.mp kept)
        exact escaped
      | cons first others =>
        rw [List.getLast?_append_of_ne_nil _ (List.cons_ne_nil _ _)] at escaped
        cases other.trail _ (List.mem_of_getLast? escaped)

end Text

/-! ### Tokens with spaces around them -/

/-- The place before the character with an index is not within one of the tokens that stand in the
text, the first character of which has the given offset, or only among the blanks at an edge of it. -/
def IsBetween (offset : Nat) (text : List Char) (tokens : List Token) (place : Nat) : Prop :=
  ∀ token ∈ tokens, ∀ front span rest, text = front ++ (span ++ rest) →
    token.start = offset + byteLength front → token.Spells span rest →
      IsOuter span (place - front.length)

namespace Token

/-- What a token is, wherever it stands. -/
def unplaced (token : Token) : Token :=
  { token with start := 0 }

/-- The number of characters that a token has at the beginning of a text. -/
def width (token : Token) (text : List Char) : Nat :=
  match token.kind with
  | .ident => (identSpan text).1.length
  | _ => token.text.toList.length

namespace Spells

variable {token : Token} {span rest : List Char}

theorem length_eq (spells : token.Spells span rest) : span.length = token.width (span ++ rest) := by
  cases spells with
  | and | or => simp [width]
  | operator => rfl
  | ident _ spans => rw [width, identSpan_eq_iff.mpr ⟨rfl, spans⟩]

/-- Spaces around characters that are no blanks are left in front of the next token. -/
theorem spread_of_isOuter {extra : Nat → Nat} (visible : ∀ char ∈ span, isBlank char = false)
    (ne_nil : span ≠ []) (none : extra 0 = 0) (outer : ∀ place, extra place ≠ 0 → IsOuter span place) :
    spread extra span = span ++ List.replicate (extra span.length) ' ' := by
  have padded : IsPadded [] span [] :=
    ⟨by simp, by simp, ne_nil, fun char first => visible char (List.mem_of_mem_head? first),
      fun char last => visible char (List.mem_of_getLast? last)⟩
  refine spread_of_none fun place below => ?_
  by_contra inserted
  have outerHere : IsOuter ([] ++ (span ++ [])) place := by simpa using outer place inserted
  have cut := padded.cases_of_isOuter outerHere
  have after : place ≠ 0 := fun zero => inserted (by rw [zero, none])
  simp only [List.length_nil] at cut
  omega

/-- Spaces around a token become part of it or are left in front of the next one. -/
theorem exists_spread {body : List Char} {extra : Nat → Nat} (spells : token.Spells span rest)
    (same : body.head? = rest.head?) (none : extra 0 = 0)
    (outer : ∀ place, extra place ≠ 0 → IsOuter span place) (start : Nat) :
    ∃ within left, spread extra span = within ++ left ∧ (∀ char ∈ left, char = ' ') ∧
      Spells ⟨token.kind, token.text, start⟩ within (left ++ body) := by
  have spaces (count : Nat) (char : Char) (member : char ∈ List.replicate count ' ') : char = ' ' :=
    (List.mem_replicate.mp member).2
  cases spells with
  | and =>
    have visible : ∀ char ∈ [';'], isBlank char = false := List.forall_mem_singleton.mpr rfl
    exact ⟨[';'], _, spread_of_isOuter visible (by simp) none outer, spaces _, .and start _⟩
  | or =>
    have visible : ∀ char ∈ [','], isBlank char = false := List.forall_mem_singleton.mpr rfl
    exact ⟨[','], _, spread_of_isOuter visible (by simp) none outer, spaces _, .or start _⟩
  | operator operator _ apart =>
    have visible : ∀ char ∈ operator.spelling.toList, isBlank char = false := by
      cases operator <;> simp [Operator.spelling, isBlank]
    have ne_nil : operator.spelling.toList ≠ [] := (Spells.operator operator start apart).ne_nil
    refine ⟨_, _, spread_of_isOuter visible ne_nil none outer, spaces _,
      .operator operator start fun angle => ?_⟩
    cases extra operator.spelling.toList.length with
    | zero => exact same ▸ apart angle
    | succ count => simp [List.replicate_succ]
  | ident _ spans visible ne_nil =>
    refine ⟨spread extra span, [], (List.append_nil _).symm, by simp, ?_⟩
    rw [← head?_spread none] at visible
    have trimmed : trim span ≠ [] := fun blank => ne_nil <| by
      rwa [unescape_of_blanks (trim_eq_nil_iff.mp blank)]
    obtain ⟨lead, core, trail, rfl, padded⟩ := exists_isPadded trimmed
    obtain ⟨wider, longer, spreads, other, kept⟩ := padded.exists_spread outer
    have unchanged : trim (unescape (wider ++ (core ++ longer))) =
        trim (unescape (lead ++ (core ++ trail))) := by
      rw [other.trim_unescape, padded.trim_unescape]
    rw [spreads] at visible ⊢
    rw [← unchanged] at ne_nil ⊢
    exact .ident start (spans.pad padded other kept same) visible ne_nil

end Spells

end Token

/-- Whether a place is within a token can be seen from where the token begins and how wide it is. -/
theorem isBetween_of_widths {offset place : Nat} {text : List Char} {tokens : List Token}
    (widths : ∀ token ∈ tokens, ∀ index ≤ text.length,
      token.start = offset + byteLength (text.take index) →
        IsOuter ((text.drop index).take (token.width (text.drop index))) (place - index)) :
    IsBetween offset text tokens place := by
  rintro token member front span rest rfl starts spells
  have outer := widths token member front.length (by simp) (by rw [List.take_left]; exact starts)
  rwa [List.drop_left, ← spells.length_eq, List.take_left] at outer

/-- What holds of a place and the tokens of a text holds of it and those behind the first one. -/
theorem IsBetween.behind {offset place : Nat} {gap span rest : List Char} {token : Token}
    {tokens : List Token} (starts : token.start = offset + byteLength gap)
    (between : IsBetween offset (gap ++ (span ++ rest)) (token :: tokens)
      (gap.length + (span.length + place))) :
    IsBetween (token.start + byteLength span) rest tokens place := by
  intro later member front laterSpan laterRest split laterStarts spells
  have whole : gap ++ (span ++ rest) = gap ++ (span ++ front) ++ (laterSpan ++ laterRest) := by
    simp [split]
  have wholeStarts : later.start = offset + byteLength (gap ++ (span ++ front)) := by
    rw [laterStarts, starts, byteLength_append, byteLength_append, Nat.add_assoc, Nat.add_assoc]
  have outer := between later (List.mem_cons_of_mem _ member) _ _ _ whole wholeStarts spells
  have further : gap.length + (span.length + place) - (gap ++ (span ++ front)).length =
      place - front.length := by
    simp only [List.length_append]
    omega
  rwa [further] at outer

namespace Tiles

variable {offset : Nat} {text : List Char} {tokens : List Token}

/-- There may be spaces in front of tokens. -/
theorem append_spaces {gap : List Char} (spaces : ∀ char ∈ gap, char = ' ')
    (tiles : Tiles (offset + byteLength gap) text tokens) : Tiles offset (gap ++ text) tokens := by
  cases tiles with
  | blank blanks =>
    refine .blank fun char member => ?_
    rcases List.mem_append.mp member with space | blank
    · rw [spaces char space]
      rfl
    · exact blanks char blank
  | @token _ between _ _ _ _ spacesLater starts spells later =>
    rw [← List.append_assoc]
    refine .token (fun char member => ?_) ?_ spells later
    · exact (List.mem_append.mp member).elim (spaces char) (spacesLater char)
    · rw [starts, byteLength_append, Nat.add_assoc]

/-- A text with extra spaces between its tokens is tiled by the same tokens, further on. -/
theorem spread (tiles : Tiles offset text tokens) {extra : Nat → Nat}
    (between : ∀ place, extra place ≠ 0 → IsBetween offset text tokens place) (start : Nat) :
    ∃ others, Tiles start (spread extra text) others ∧
      others.map Token.unplaced = tokens.map Token.unplaced := by
  induction tiles generalizing extra start with
  | blank blanks => exact ⟨[], .blank (isBlank_of_mem_spread blanks), rfl⟩
  | @token offset gap span rest token tokens spaces starts spells later ih =>
    -- Spaces that are inserted at the end of the gap are counted with it, those at the end of the
    -- token with the token.
    let around := beyond extra gap.length
    let behind := beyond around span.length
    have gapSpaces (char : Char) (member : char ∈ Text.spread extra gap) : char = ' ' :=
      (mem_spread member).elim id (spaces char)
    have outer (place : Nat) (inserted : around place ≠ 0) : IsOuter span place := by
      have side := between _ (of_beyond_ne_zero inserted) token List.mem_cons_self gap span rest rfl
        starts spells
      rwa [Nat.add_sub_cancel_left] at side
    obtain ⟨within, left, divided, leftSpaces, spellsAfter⟩ :=
      spells.exists_spread (head?_spread (beyond_zero around span.length) rest)
        (beyond_zero extra gap.length) outer (start + byteLength (Text.spread extra gap))
    have betweenLater (place : Nat) (inserted : behind place ≠ 0) :
        IsBetween (token.start + byteLength span) rest tokens place :=
      (between _ (of_beyond_ne_zero (of_beyond_ne_zero inserted))).behind starts
    obtain ⟨others, tiles, same⟩ := ih betweenLater
      (start + byteLength (Text.spread extra gap) + byteLength within + byteLength left)
    refine ⟨⟨token.kind, token.text, start + byteLength (Text.spread extra gap)⟩ :: others, ?_, ?_⟩
    · rw [spread_append, spread_append, divided, List.append_assoc]
      exact .token gapSpaces rfl spellsAfter (tiles.append_spaces leftSpaces)
    · rw [List.map_cons, List.map_cons, same]
      rfl

end Tiles

end Criteria
