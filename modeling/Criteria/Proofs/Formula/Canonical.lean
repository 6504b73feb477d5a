import Criteria.Formula.Parser
import Criteria.Proofs.Except
import Criteria.Proofs.Token.Reading

/-! # Canonical formulas

Reading a filter gives clauses as the filter states them: no mapping has touched them yet, names and
values are canonical, and only the very last value may be missing. Such formulas are legible. They
are canonical if they have no empty group either, since reading drops these.
-/

namespace Criteria

open Text

/-- A clause that a filter can state. Its value may be missing in a final position only. -/
def Clause.IsLegible (clause : Clause) (final : Prop) : Prop :=
  ∃ name operator raw, clause = .ofRaw name operator raw ∧ IsCanonical name.toList ∧
    (IsCanonical raw.toList ∨ raw = "" ∧ final)

namespace Formula

/-- Every clause can be stated where it stands; nothing follows the one whose value may be missing,
be it a clause or a group. -/
def IsLegible (formula : Formula) : Prop :=
  ∀ front before clause after back,
    formula.groups = front ++ (before ++ clause :: after) :: back →
      clause.IsLegible (after = [] ∧ back = [])

/-- A formula that reading a filter can give. -/
structure IsCanonical (formula : Formula) : Prop where
  legible : formula.IsLegible
  nonempty : ∀ group ∈ formula.groups, group ≠ []

/-! ### Legible formulas, clause by clause -/

theorem isLegible_nil : IsLegible ⟨[]⟩ := by
  intro front before clause after back split
  simp at split

/-- The groups after the first of a legible formula are legible. -/
theorem IsLegible.tail {group : List Clause} {back : List (List Clause)}
    (legible : IsLegible ⟨group :: back⟩) : IsLegible ⟨back⟩ :=
  fun front before clause after rest split =>
    legible (group :: front) before clause after rest (congrArg (List.cons group) split)

theorem isLegible_nil_cons {back : List (List Clause)} :
    IsLegible ⟨[] :: back⟩ ↔ IsLegible ⟨back⟩ := by
  refine ⟨IsLegible.tail, ?_⟩
  · intro legible front before clause after rest split
    cases front with
    | nil => simp at split
    | cons group front =>
      exact legible front before clause after rest (List.cons.inj split).2

theorem isLegible_cons_cons {clause : Clause} {after : List Clause} {back : List (List Clause)} :
    IsLegible ⟨(clause :: after) :: back⟩ ↔
      clause.IsLegible (after = [] ∧ back = []) ∧ IsLegible ⟨after :: back⟩ := by
  constructor
  · intro legible
    refine ⟨legible [] [] clause after back rfl, ?_⟩
    intro front before other rest last split
    cases front with
    | nil =>
      obtain ⟨group, rfl⟩ := List.cons.inj split
      subst group
      exact legible [] (clause :: before) other rest back rfl
    | cons group front =>
      obtain ⟨rfl, rfl⟩ := List.cons.inj split
      exact legible ((clause :: after) :: front) before other rest last rfl
  · rintro ⟨first, legible⟩ front before other rest last split
    cases front with
    | nil =>
      obtain ⟨group, rfl⟩ := List.cons.inj split
      cases before with
      | nil =>
        obtain ⟨rfl, rfl⟩ := List.cons.inj group
        exact first
      | cons head before =>
        obtain ⟨rfl, rfl⟩ := List.cons.inj group
        exact legible [] before other rest back rfl
    | cons group front =>
      obtain ⟨rfl, rfl⟩ := List.cons.inj split
      exact legible (after :: front) before other rest last rfl

/-- Clauses that can be stated where they stand are as filters state them. -/
theorem IsLegible.clause {formula : Formula} (legible : formula.IsLegible) {clause : Clause}
    (member : clause ∈ formula.groups.flatten) : clause.IsLegible True := by
  obtain ⟨group, groupMember, clauseMember⟩ := List.mem_flatten.mp member
  obtain ⟨front, back, split⟩ := List.append_of_mem groupMember
  obtain ⟨before, after, rfl⟩ := List.append_of_mem clauseMember
  obtain ⟨name, operator, raw, stated, nameCanonical, value⟩ :=
    legible front before clause after back split
  exact ⟨name, operator, raw, stated, nameCanonical, value.imp id fun ⟨missing, _⟩ => ⟨missing, trivial⟩⟩

private theorem isLegible_cons_of_shrinks {group : List Clause} {back kept : List (List Clause)}
    (legible : IsLegible ⟨group :: back⟩) (shrinks : back = [] → kept = [])
    (rest : IsLegible ⟨kept⟩) : IsLegible ⟨group :: kept⟩ := by
  induction group with
  | nil => exact isLegible_nil_cons.mpr rest
  | cons clause after ih =>
    obtain ⟨⟨name, operator, raw, stated, nameCanonical, value⟩, others⟩ :=
      isLegible_cons_cons.mp legible
    refine isLegible_cons_cons.mpr ⟨⟨name, operator, raw, stated, nameCanonical, ?_⟩, ih others⟩
    exact value.imp id fun ⟨missing, final, last⟩ => ⟨missing, final, shrinks last⟩

/-- Dropping the empty groups makes a legible formula canonical. -/
theorem IsLegible.compact {formula : Formula} (legible : formula.IsLegible) :
    formula.compact.IsCanonical := by
  refine ⟨?_, ?_⟩
  · obtain ⟨groups⟩ := formula
    change IsLegible ⟨groups.filter (!·.isEmpty)⟩
    induction groups with
    | nil => exact legible
    | cons group back ih =>
      cases group with
      | nil => exact ih (isLegible_nil_cons.mp legible)
      | cons clause after =>
        exact isLegible_cons_of_shrinks legible (fun last => by rw [last]; rfl) (ih legible.tail)
  · intro group kept
    simpa using (List.mem_filter.mp kept).2

/-- Nothing is dropped from a canonical formula. -/
theorem IsCanonical.compact_eq {formula : Formula} (canonical : formula.IsCanonical) :
    formula.compact = formula := by
  have kept : formula.groups.filter (!·.isEmpty) = formula.groups :=
    List.filter_eq_self.mpr fun group member => by simpa using canonical.nonempty group member
  rw [compact, kept]

end Formula

theorem Ending.resolve_eq_ok_iff {α : Type} {ending : Ending} {atEof : Nat → Except SyntaxError α}
    {result : α} :
    ending.resolve atEof = .ok result ↔ ∃ start, ending = .eof start ∧ atEof start = .ok result := by
  cases ending <;> simp [resolve]

namespace TokenRun

/-- Groups read from canonical names and values are legible. -/
theorem isLegible_of_groups {ending : Ending} {tokens : List Token} {groups : OpenGroups}
    (canonical : ∀ token ∈ tokens, token.kind = .ident → IsCanonical token.text.toList)
    (read : TokenRun.groups ending tokens = .ok groups) :
    Formula.IsLegible ⟨groups.first :: groups.others⟩ := by
  fun_induction TokenRun.groups ending tokens generalizing groups with
  | case1 =>
    obtain ⟨_, _, ended⟩ := Ending.resolve_eq_ok_iff.mp read
    cases ended
    exact Formula.isLegible_nil_cons.mpr Formula.isLegible_nil
  | case2 separator rest _ ih =>
    obtain ⟨others, readRest, closed⟩ := Except.bind_eq_ok_iff.mp read
    obtain rfl := Except.pure_eq_ok_iff.mp closed
    have legible := ih (fun token member => canonical token (List.mem_cons_of_mem _ member)) readRest
    exact Formula.isLegible_nil_cons.mpr legible
  | case3 separator rest _ ih =>
    exact ih (fun token member => canonical token (List.mem_cons_of_mem _ member)) read
  | case4 =>
    obtain ⟨_, _, ended⟩ := Ending.resolve_eq_ok_iff.mp read
    cases ended
  | case5 => contradiction
  | case6 name ident comparison operator _ =>
    obtain ⟨_, _, ended⟩ := Ending.resolve_eq_ok_iff.mp read
    cases ended
    have nameCanonical := canonical name (List.mem_cons_self ..) ident
    refine Formula.isLegible_cons_cons.mpr ⟨?_, Formula.isLegible_nil_cons.mpr Formula.isLegible_nil⟩
    exact ⟨_, _, _, rfl, nameCanonical, .inr ⟨rfl, rfl, rfl⟩⟩
  | case7 name ident comparison operator _ value rest valueIdent ih =>
    obtain ⟨others, readRest, added⟩ := Except.bind_eq_ok_iff.mp read
    obtain rfl := Except.pure_eq_ok_iff.mp added
    have nameCanonical := canonical name (by simp) ident
    have valueCanonical := canonical value (by simp) valueIdent
    have legible := ih (fun token member => canonical token (by simp [member])) readRest
    exact Formula.isLegible_cons_cons.mpr
      ⟨⟨_, _, _, rfl, nameCanonical, .inl valueCanonical⟩, legible⟩
  | case8 => contradiction
  | case9 => contradiction

end TokenRun

namespace Formula

/-- Reading any text gives a canonical formula. -/
theorem isCanonical_of_parse {source : String} {formula : Formula}
    (read : parse source = .ok formula) : formula.IsCanonical := by
  obtain ⟨groups, readGroups, compacted⟩ := Except.bind_eq_ok_iff.mp read
  obtain rfl := Except.pure_eq_ok_iff.mp compacted
  apply IsLegible.compact
  apply TokenRun.isLegible_of_groups ?_ readGroups
  intro token member ident
  exact Input.isCanonical_of_mem_run member ident

end Formula

end Criteria
