import Criteria.Proofs.Formula.Canonical

/-! # What groups are read from

`ReadsGroups` lists the ways in which tokens are read as groups. `groups_eq_ok_iff` says that they
are all the ways; what is proved of tokens that can be read goes through these cases.
-/

namespace Criteria

theorem TokenKind.operator?_eq_some_iff {kind : TokenKind} {operator : Operator} :
    kind.operator? = some operator ↔ kind = .operator operator := by
  cases kind <;> simp [operator?]

namespace TokenRun

/-- How tokens at the end of a text are read as groups. -/
inductive ReadsGroups : List Token → OpenGroups → Prop
  | nil : ReadsGroups [] .empty
  | and {separator : Token} {tokens : List Token} {groups : OpenGroups}
      (kind : separator.kind = .and) (rest : ReadsGroups tokens groups) :
      ReadsGroups (separator :: tokens) groups.close
  | or {separator : Token} {tokens : List Token} {groups : OpenGroups}
      (kind : separator.kind = .or) (rest : ReadsGroups tokens groups) :
      ReadsGroups (separator :: tokens) groups
  | valueless {name comparison : Token} {operator : Operator} (ident : name.kind = .ident)
      (compares : comparison.kind = .operator operator) :
      ReadsGroups [name, comparison] (.consClause (.ofRaw name.text operator "") .empty)
  | clause {name comparison value : Token} {operator : Operator} {tokens : List Token}
      {groups : OpenGroups} (ident : name.kind = .ident)
      (compares : comparison.kind = .operator operator) (given : value.kind = .ident)
      (rest : ReadsGroups tokens groups) :
      ReadsGroups (name :: comparison :: value :: tokens)
        (groups.consClause (.ofRaw name.text operator value.text))

variable {ending : Ending} {tokens : List Token} {read : OpenGroups}

private theorem readsGroups_of_groups (succeeds : groups ending tokens = .ok read) :
    (∃ start, ending = .eof start) ∧ ReadsGroups tokens read := by
  fun_induction TokenRun.groups ending tokens generalizing read with
  | case1 =>
    obtain ⟨start, ends, accepted⟩ := Ending.resolve_eq_ok_iff.mp succeeds
    cases accepted
    exact ⟨⟨start, ends⟩, .nil⟩
  | case2 separator rest kind ih =>
    obtain ⟨others, readRest, rfl⟩ := Except.bind_pure_eq_ok_iff.mp succeeds
    exact (ih readRest).imp id (.and kind)
  | case3 separator rest kind ih => exact (ih succeeds).imp id (.or kind)
  | case4 =>
    obtain ⟨_, _, refused⟩ := Ending.resolve_eq_ok_iff.mp succeeds
    cases refused
  | case5 => contradiction
  | case6 name ident comparison operator reads =>
    obtain ⟨start, ends, accepted⟩ := Ending.resolve_eq_ok_iff.mp succeeds
    cases accepted
    exact ⟨⟨start, ends⟩, .valueless ident (TokenKind.operator?_eq_some_iff.mp reads)⟩
  | case7 name ident comparison operator reads value rest given ih =>
    obtain ⟨others, readRest, rfl⟩ := Except.bind_pure_eq_ok_iff.mp succeeds
    exact (ih readRest).imp id (.clause ident (TokenKind.operator?_eq_some_iff.mp reads) given)
  | case8 => contradiction
  | case9 => contradiction

private theorem groups_of_readsGroups (start : Nat) (reads : ReadsGroups tokens read) :
    groups (.eof start) tokens = .ok read := by
  induction reads with
  | nil => rfl
  | and kind _ ih =>
    rw [groups.eq_def]
    simp only [kind, ih]
    rfl
  | or kind _ ih =>
    rw [groups.eq_def]
    simp only [kind, ih]
  | valueless ident compares =>
    rw [groups.eq_def]
    simp only [ident, TokenKind.operator?_eq_some_iff.mpr compares]
    rfl
  | clause ident compares given _ ih =>
    rw [groups.eq_def]
    simp only [ident, TokenKind.operator?_eq_some_iff.mpr compares, given, if_true, ih]
    rfl

theorem groups_eq_ok_iff :
    groups ending tokens = .ok read ↔ (∃ start, ending = .eof start) ∧ ReadsGroups tokens read := by
  refine ⟨readsGroups_of_groups, ?_⟩
  rintro ⟨⟨start, rfl⟩, reads⟩
  exact groups_of_readsGroups start reads

end TokenRun

/-- A filter is read as the groups that its tokens are read as. -/
theorem Formula.parse_eq_ok_iff {source : String} {formula : Formula} :
    parse source = .ok formula ↔
      (∃ start, (tokens source).ending = .eof start) ∧
        ∃ read, TokenRun.ReadsGroups (tokens source).tokens read ∧ formula = read.formula := by
  unfold parse TokenRun.formula
  rw [Except.bind_pure_eq_ok_iff]
  simp only [TokenRun.groups_eq_ok_iff, and_assoc, exists_and_left]

end Criteria
