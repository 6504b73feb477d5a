import Criteria.Proofs.Formula.Grammar
import Criteria.Proofs.Formula.Groups
import Criteria.Proofs.Token.Sequence

/-! # Reading follows the grammar

Reading accepts the tokens of a text exactly if they are a sentence and the text ends after them. It
gives the groups of the sentence. In all other cases it reports the first thing with which no
sentence goes on, by the kind of what would have been due there.
-/

namespace Criteria

/-- What may stand in the way of a sentence: a token, or the way in which the tokens end. -/
inductive Obstacle where
  | token (token : Token)
  | ending (ending : Ending)

/-- The first thing with which no sentence goes on, after the tokens before it. The end of the text
is one unless the tokens before it are a sentence. -/
inductive TokenRun.StopsAt (run : TokenRun) : List Token → Obstacle → Prop
  | token {before after : List Token} {token : Token} (split : run.tokens = before ++ token :: after)
      (viable : IsViable before) (stuck : ¬IsViable (before ++ [token])) :
      StopsAt run before (.token token)
  | ending (viable : IsViable run.tokens)
      (stuck : ∀ start, run.ending = .eof start → ¬IsSentence run.tokens) :
      StopsAt run run.tokens (.ending run.ending)

/-- How an obstacle after the given tokens is reported. -/
inductive Obstacle.Reported (before : List Token) : Obstacle → SyntaxError → Prop
  | lexical {error : LexicalError} : Reported before (.ending (.failed error)) (.lexical error)
  | invalid {text : String} {start : Nat} :
      Reported before (.ending (.invalid text start)) (.invalidToken text start)
  | ended {name : Token} {start : Nat} (due : OperatorDue before)
      (last : before.getLast? = some name) :
      Reported before (.ending (.eof start)) (.operatorExpected name.text start)
  | unexpected {token : Token} (due : OperatorDue before) :
      Reported before (.token token) (.unexpectedToken token.text token.start)
  | identExpected {token : Token} (other : ¬OperatorDue before) :
      Reported before (.token token) (.identExpected token.text token.start)

/-- The report of the first thing with which no sentence goes on. -/
def TokenRun.Fault (run : TokenRun) (error : SyntaxError) : Prop :=
  ∃ before obstacle, run.StopsAt before obstacle ∧ obstacle.Reported before error

namespace TokenRun

variable {run : TokenRun} {tokens : List Token} {ending : Ending} {error other : SyntaxError}

/-! ### There is one fault at most -/

/-- Where one token stops a run, all that is read of it begins no sentence. -/
theorem not_isViable_append_cons {before after : List Token} {token : Token}
    (stuck : ¬IsViable (before ++ [token])) : ¬IsViable (before ++ token :: after) := by
  intro viable
  rw [← List.singleton_append, ← List.append_assoc] at viable
  exact stuck viable.of_append

private theorem StopsAt.eq_of_le {before further after rest : List Token} {first second : Token}
    (stuck : ¬IsViable (before ++ [first])) (viable : IsViable (before ++ further))
    (same : first :: after = further ++ second :: rest) : further = [] ∧ first = second := by
  cases further with
  | nil => exact ⟨rfl, (List.cons.inj same).1⟩
  | cons head others =>
    obtain ⟨rfl, _⟩ := List.cons.inj same
    exact absurd viable (not_isViable_append_cons stuck)

theorem StopsAt.unique {before others : List Token} {first second : Obstacle}
    (stops : run.StopsAt before first) (otherStops : run.StopsAt others second) :
    before = others ∧ first = second := by
  cases stops with
  | token split viable stuck =>
    cases otherStops with
    | token otherSplit otherViable otherStuck =>
      rcases List.append_eq_append_iff.mp (split.symm.trans otherSplit) with
        ⟨further, rfl, same⟩ | ⟨further, rfl, same⟩
      · obtain ⟨rfl, rfl⟩ := StopsAt.eq_of_le stuck otherViable same
        exact ⟨(List.append_nil _).symm, rfl⟩
      · obtain ⟨rfl, rfl⟩ := StopsAt.eq_of_le otherStuck viable same
        exact ⟨List.append_nil _, rfl⟩
    | ending whole _ =>
      rw [split] at whole
      exact absurd whole (not_isViable_append_cons stuck)
  | ending whole _ =>
    cases otherStops with
    | token split _ stuck =>
      rw [split] at whole
      exact absurd whole (not_isViable_append_cons stuck)
    | ending => exact ⟨rfl, rfl⟩

theorem Fault.unique (fault : run.Fault error) (otherFault : run.Fault other) : error = other := by
  obtain ⟨before, obstacle, stops, reported⟩ := fault
  obtain ⟨_, _, otherStops, otherReported⟩ := otherFault
  obtain ⟨rfl, rfl⟩ := stops.unique otherStops
  cases reported with
  | lexical | invalid =>
    cases otherReported
    rfl
  | ended _ last =>
    cases otherReported with
    | ended _ otherLast =>
      cases last.symm.trans otherLast
      rfl
  | unexpected due =>
    cases otherReported with
    | unexpected => rfl
    | identExpected undue => exact absurd due undue
  | identExpected undue =>
    cases otherReported with
    | unexpected due => exact absurd due undue
    | identExpected => rfl

/-- Nothing stops a run that is a sentence. -/
theorem not_fault_of_isSentence {start : Nat} (ends : run.ending = .eof start)
    (sentence : IsSentence run.tokens) : ¬run.Fault error := by
  rintro ⟨before, obstacle, stops, _⟩
  cases stops with
  | token split _ stuck =>
    rw [split] at sentence
    exact not_isViable_append_cons stuck sentence.isViable
  | ending _ stuck => exact stuck start ends sentence

/-! ### Errors -/

/-- What stops a run stops it as well after tokens that change nothing in what may follow. -/
theorem Fault.append_left (front : List Token)
    (viable : ∀ others : List Token,
      (∀ first ∈ others.head?, first ∈ tokens.head? ∨ first.kind ≠ .ident) →
        (IsViable (front ++ others) ↔ IsViable others))
    (sentence : IsSentence (front ++ tokens) → IsSentence tokens)
    (fault : Fault ⟨tokens, ending⟩ error) : Fault ⟨front ++ tokens, ending⟩ error := by
  obtain ⟨before, obstacle, stops, reported⟩ := fault
  have begins {first : Token} {before after : List Token} (split : tokens = before ++ after)
      (head : first ∈ before.head?) : first ∈ tokens.head? := by
    rw [split, List.head?_append, Option.mem_def.mp head]
    rfl
  have due {before after : List Token} (split : tokens = before ++ after) :
      OperatorDue (front ++ before) ↔ OperatorDue before := by
    refine exists_congr fun comparison => exists_congr fun operator => and_congr_right fun compares => ?_
    rw [List.append_assoc]
    apply viable
    intro first head
    cases before with
    | nil =>
      obtain rfl := Option.some.inj head
      exact .inr (by simp [compares])
    | cons next others => exact .inl (begins split head)
  have reportedAfter {before after : List Token} {obstacle : Obstacle}
      (split : tokens = before ++ after) (reported : obstacle.Reported before error) :
      obstacle.Reported (front ++ before) error := by
    cases reported with
    | lexical => exact .lexical
    | invalid => exact .invalid
    | ended operatorDue last =>
      exact .ended ((due split).mpr operatorDue) (by rw [List.getLast?_append, last]; rfl)
    | unexpected operatorDue => exact .unexpected ((due split).mpr operatorDue)
    | identExpected undue => exact .identExpected (undue ∘ (due split).mp)
  cases stops with
  | @token _ after token split viableBefore stuck =>
    have longer : front ++ tokens = front ++ before ++ token :: after := by
      rw [List.append_assoc]
      exact congrArg (front ++ ·) split
    have split' : tokens = before ++ [token] ++ after := by simpa using split
    refine ⟨front ++ before, _, .token longer ?_ ?_, reportedAfter split reported⟩
    · exact (viable _ fun first head => .inl (begins split head)).mpr viableBefore
    · rw [List.append_assoc, viable _ fun first head => .inl (begins split' head)]
      exact stuck
  | ending viableTokens stuck =>
    have whole : tokens = tokens ++ [] := (List.append_nil _).symm
    refine ⟨front ++ tokens, _, .ending ?_ ?_, reportedAfter whole reported⟩
    · exact (viable _ fun first head => .inl head).mpr viableTokens
    · exact fun start ends => stuck start ends ∘ sentence

/-- A token that no sentence can have there is the fault. -/
private theorem fault_of_not_isViable (before : List Token) {after : List Token} {token : Token}
    (viable : IsViable before) (stuck : ¬IsViable (before ++ [token]))
    (reported : (Obstacle.token token).Reported before error) :
    Fault ⟨before ++ token :: after, ending⟩ error :=
  ⟨before, _, .token rfl viable stuck, reported⟩

/-- Where the tokens break off, that is the fault. -/
private theorem fault_of_resolve {α : Type} {atEof : Nat → Except SyntaxError α}
    (viable : IsViable tokens) (fails : ending.resolve atEof = .error error)
    (eof : ∀ start, ending = .eof start → atEof start = .error error →
      Fault ⟨tokens, .eof start⟩ error) : Fault ⟨tokens, ending⟩ error := by
  cases ending with
  | eof start => exact eof start rfl fails
  | invalid text start =>
    cases fails
    exact ⟨tokens, _, .ending viable (by simp), .invalid⟩
  | failed error =>
    cases fails
    exact ⟨tokens, _, .ending viable (by simp), .lexical⟩

/-- After a separator, the same stops a run. -/
theorem Fault.after_separator {separator : Token}
    (separates : separator.kind = .and ∨ separator.kind = .or) (fault : Fault ⟨tokens, ending⟩ error) :
    Fault ⟨separator :: tokens, ending⟩ error :=
  fault.append_left [separator] (fun _ _ => isViable_separator_cons_iff separates)
    (isSentence_separator_cons_iff separates).mp

/-- After a clause, the same stops a run that does not begin with a name. -/
theorem Fault.after_clause {name comparison value : Token} {operator : Operator}
    (ident : name.kind = .ident) (compares : comparison.kind = .operator operator)
    (given : value.kind = .ident) (apart : ∀ next ∈ tokens.head?, next.kind ≠ .ident)
    (fault : Fault ⟨tokens, ending⟩ error) :
    Fault ⟨name :: comparison :: value :: tokens, ending⟩ error := by
  refine fault.append_left [name, comparison, value] (fun others head => ?_) fun sentence => ?_
  · refine isViable_clause_append_iff ident compares given fun next begins => ?_
    exact (head next begins).elim (apart next) id
  · exact ((isSentence_clause_append_iff ident compares given).mp sentence).2

/-- Reading fails with the fault of what it reads. -/
theorem fault_of_groups_eq_error
    (apart : tokens.IsChain fun first second => first.kind = .ident → second.kind ≠ .ident)
    (fails : groups ending tokens = .error error) : Fault ⟨tokens, ending⟩ error := by
  fun_induction TokenRun.groups ending tokens with
  | case1 => exact fault_of_resolve isViable_nil fails fun _ _ accepted => by cases accepted
  | case2 separator rest kind ih =>
    exact (ih apart.tail (Except.bind_pure_eq_error_iff.mp fails)).after_separator (.inl kind)
  | case3 separator rest kind ih => exact (ih apart.tail fails).after_separator (.inr kind)
  | case4 name ident =>
    refine fault_of_resolve (isViable_name ident) fails fun start _ reported => ?_
    cases reported
    have unfinished : ¬IsSentence [name] := fun sentence => by
      obtain ⟨_, _, _, single | ⟨_, _, more, _⟩⟩ := (isSentence_name_cons_iff ident).mp sentence
      · cases single
      · cases more
    exact ⟨[name], _, .ending (isViable_name ident) fun _ _ => unfinished,
      .ended (operatorDue_name ident) rfl⟩
  | case5 name ident comparison rest unread =>
    cases fails
    exact fault_of_not_isViable [name] (isViable_name ident)
      (not_isViable_name_cons ident unread) (.unexpected (operatorDue_name ident))
  | case6 name ident comparison operator reads =>
    refine fault_of_resolve (isViable_name_operator ident (TokenKind.operator?_eq_some_iff.mp reads))
      fails fun _ _ accepted => by cases accepted
  | case7 name ident comparison operator reads value rest given ih =>
    have others : ∀ next ∈ rest.head?, next.kind ≠ .ident :=
      fun next begins => apart.tail.tail.rel_head? begins given
    exact (ih apart.tail.tail.tail (Except.bind_pure_eq_error_iff.mp fails)).after_clause ident
      (TokenKind.operator?_eq_some_iff.mp reads) given others
  | case8 name ident comparison operator reads value rest other =>
    cases fails
    exact fault_of_not_isViable [name, comparison]
      (isViable_name_operator ident (TokenKind.operator?_eq_some_iff.mp reads))
      (not_isViable_name_operator_cons ident other)
      (.identExpected (not_operatorDue_name_operator ident))
  | case9 token rest notAnd notOr notIdent =>
    cases fails
    exact fault_of_not_isViable [] isViable_nil
      (not_isViable_cons ⟨fun separates => separates.elim notAnd notOr, notIdent⟩)
      (.identExpected not_operatorDue_nil)

/-! ### Groups -/

/-- What is read as groups is a sentence with these groups. -/
theorem ReadsGroups.exists_phrases {read : OpenGroups}
    (apart : tokens.IsChain fun first second => first.kind = .ident → second.kind ≠ .ident)
    (reads : ReadsGroups tokens read) :
    ∃ phrases, Phrase.AreSentence phrases ∧ phrases.flatMap Phrase.tokens = tokens ∧
      Phrase.groups phrases = read.first :: read.others := by
  induction reads with
  | nil => exact ⟨[], Phrase.areSentence_nil, rfl, rfl⟩
  | and kind _ ih =>
    obtain ⟨phrases, sentence, rfl, same⟩ := ih apart.tail
    refine ⟨_, Phrase.areSentence_separator_cons (.inl kind) sentence, rfl, ?_⟩
    rw [Phrase.groups_cons, same]
    simp [Phrase.closes, kind, OpenGroups.close]
  | or kind _ ih =>
    obtain ⟨phrases, sentence, rfl, same⟩ := ih apart.tail
    refine ⟨_, Phrase.areSentence_separator_cons (.inr kind) sentence, rfl, ?_⟩
    rw [Phrase.groups_cons, same]
    simp [Phrase.closes, kind, Phrase.clause?]
  | valueless ident compares =>
    exact ⟨[.clause ⟨_, _, _, none, ident, compares, by simp⟩],
      Phrase.areSentence_clause_singleton _, rfl, rfl⟩
  | @clause name comparison value operator tokens groups ident compares given _ ih =>
    obtain ⟨phrases, sentence, rfl, same⟩ := ih apart.tail.tail.tail
    refine ⟨.clause ⟨name, comparison, operator, some value, ident, compares, by simpa⟩ :: phrases,
      Phrase.areSentence_clause_cons rfl ?_ sentence, rfl, ?_⟩
    · exact fun next begins => apart.tail.tail.rel_head? begins given
    · rw [Phrase.groups_cons, same]
      rfl

/-- A sentence is read as its groups. -/
theorem readsGroups_flatMap_tokens {phrases : List Phrase} (sentence : Phrase.AreSentence phrases) :
    ∃ read, ReadsGroups (phrases.flatMap Phrase.tokens) read ∧
      Phrase.groups phrases = read.first :: read.others := by
  induction phrases with
  | nil => exact ⟨.empty, .nil, rfl⟩
  | cons phrase rest ih =>
    obtain ⟨_, complete, others⟩ := Phrase.areSentence_cons_iff.mp sentence
    obtain ⟨read, readRest, same⟩ := ih others
    rw [Phrase.groups_cons, same]
    cases phrase with
    | separator token separates =>
      rcases separates with kind | kind
      · exact ⟨_, .and kind readRest, by simp [Phrase.closes, kind, OpenGroups.close]⟩
      · exact ⟨_, .or kind readRest, by simp [Phrase.closes, kind, Phrase.clause?]⟩
    | clause written =>
      obtain ⟨name, comparison, operator, value?, ident, compares, given⟩ := written
      cases value? with
      | none =>
        obtain rfl : rest = [] := by
          by_contra more
          simpa [Phrase.IsComplete] using complete more
        cases readRest
        exact ⟨_, .valueless ident compares, rfl⟩
      | some value => exact ⟨_, .clause ident compares (given value rfl) readRest, rfl⟩

end TokenRun

namespace Formula

/-- Reading goes through the tokens that a text gives one after the other. It accepts them exactly
if they are a sentence that ends with the text, and gives the groups between the semicolons of the
sentence, in which no clause is lost or moved. Otherwise it reports the first thing with which no
sentence goes on. -/
theorem parse_sentence (source : String) :
    (TokenStream.ofString source).Reads (tokens source) ∧
      (∀ formula, parse source = .ok formula ↔
        ∃ start phrases, (tokens source).ending = .eof start ∧ Phrase.AreSentence phrases ∧
          phrases.flatMap Phrase.tokens = (tokens source).tokens ∧ formula = ofPhrases phrases) ∧
      (∀ phrases, (ofPhrases phrases).groups.flatten = phrases.filterMap Phrase.clause?) ∧
      ∀ error, parse source = .error error ↔ (tokens source).Fault error := by
  have apart := (Input.ofString source).isChain_run
  have formula_eq {read : OpenGroups} {phrases : List Phrase}
      (same : Phrase.groups phrases = read.first :: read.others) :
      read.formula = ofPhrases phrases := by rw [ofPhrases, same, OpenGroups.formula]
  have accepts (formula : Formula) : parse source = .ok formula ↔
      ∃ start phrases, (tokens source).ending = .eof start ∧ Phrase.AreSentence phrases ∧
        phrases.flatMap Phrase.tokens = (tokens source).tokens ∧ formula = ofPhrases phrases := by
    rw [parse_eq_ok_iff]
    constructor
    · rintro ⟨⟨start, ends⟩, read, reads, rfl⟩
      obtain ⟨phrases, sentence, written, same⟩ := reads.exists_phrases apart
      exact ⟨start, phrases, ends, sentence, written, formula_eq same⟩
    · rintro ⟨start, phrases, ends, sentence, written, rfl⟩
      obtain ⟨read, reads, same⟩ := TokenRun.readsGroups_flatMap_tokens sentence
      rw [← written]
      exact ⟨⟨start, ends⟩, read, reads, (formula_eq same).symm⟩
  have rejects {error : SyntaxError} (fails : parse source = .error error) :
      (tokens source).Fault error :=
    TokenRun.fault_of_groups_eq_error apart (Except.bind_pure_eq_error_iff.mp fails)
  refine ⟨TokenStream.reads_run _ _, accepts, flatten_ofPhrases, fun error => ⟨rejects, ?_⟩⟩
  intro fault
  cases read : parse source with
  | ok formula =>
    obtain ⟨start, phrases, ends, sentence, written, _⟩ := (accepts formula).mp read
    exact absurd fault (TokenRun.not_fault_of_isSentence ends ⟨phrases, sentence, written⟩)
  | error other => rw [fault.unique (rejects read)]

end Formula

end Criteria
