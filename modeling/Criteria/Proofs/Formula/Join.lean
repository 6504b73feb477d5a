import Criteria.Proofs.Formula.Groups
import Criteria.Proofs.Token.Join

/-! # Joined filters

A filter after a semicolon adds its groups to those of the filter before it, unless that one ends in
a way that lets it go on: with a backslash, with a tab among its last blanks, or without its last
value.
-/

namespace Criteria

open Text

/-- The groups of both, those of the first before those of the second. -/
def OpenGroups.append (groups others : OpenGroups) : OpenGroups :=
  ⟨groups.first, groups.others ++ others.first :: others.others⟩

theorem OpenGroups.formula_append (groups others : OpenGroups) :
    (groups.append others).formula = ⟨groups.formula.groups ++ others.formula.groups⟩ := by
  rw [formula, Formula.compact, append, ← List.cons_append, List.filter_append]
  rfl

/-- The clauses of all groups. -/
def OpenGroups.clauses (groups : OpenGroups) : List Clause :=
  (groups.first :: groups.others).flatten

theorem OpenGroups.flatten_formula (groups : OpenGroups) :
    groups.formula.groups.flatten = groups.clauses :=
  List.flatten_filter_not_isEmpty

namespace TokenRun.ReadsGroups

variable {tokens later : List Token} {groups others : OpenGroups}

/-- Groups do not depend on where their tokens stand. -/
theorem map_shift (reads : ReadsGroups tokens groups) (distance : Nat) :
    ReadsGroups (tokens.map (Token.shift distance)) groups := by
  induction reads with
  | nil => exact .nil
  | and kind _ ih => exact .and kind ih
  | or kind _ ih => exact .or kind ih
  | valueless ident compares => exact .valueless ident compares
  | clause ident compares given _ ih => exact .clause ident compares given ih

/-- After a semicolon, further groups are read as they are read alone, unless the value before it is
missing. -/
theorem append_and {separator : Token} (closes : separator.kind = .and)
    (valued : ∀ clause ∈ groups.clauses.getLast?, clause.value ≠ .raw "")
    (reads : ReadsGroups tokens groups) (readsLater : ReadsGroups later others) :
    ReadsGroups (tokens ++ separator :: later) (groups.append others) := by
  induction reads with
  | nil => exact .and closes readsLater
  | and kind _ ih => exact .and kind (ih valued)
  | or kind _ ih => exact .or kind (ih valued)
  | valueless => exact absurd rfl (valued _ rfl)
  | @clause name comparison value operator tokens groups ident compares given _ ih =>
    refine .clause ident compares given (ih fun clause last => valued clause ?_)
    have longer : (groups.consClause (.ofRaw name.text operator value.text)).clauses =
        .ofRaw name.text operator value.text :: groups.clauses := rfl
    rw [longer, List.getLast?_cons, Option.mem_def.mp last]
    rfl

end TokenRun.ReadsGroups

namespace Formula

/-- A filter that a semicolon may be put after is followed by the groups of what comes after it. -/
theorem parse_join {first second : String} {formula other : Formula}
    (read : parse first = .ok formula) (readOther : parse second = .ok other)
    (plain : EndsPlainly first.toList)
    (valued : ∀ clause ∈ formula.groups.flatten.getLast?, clause.value ≠ .raw "") :
    parse (first ++ ";" ++ second) = .ok ⟨formula.groups ++ other.groups⟩ := by
  obtain ⟨⟨start, ends⟩, groups, reads, rfl⟩ := parse_eq_ok_iff.mp read
  obtain ⟨⟨otherStart, otherEnds⟩, others, readsOther, rfl⟩ := parse_eq_ok_iff.mp readOther
  have written : Input.ofString (first ++ ";" ++ second) =
      (Input.ofString first).append (';' :: second.toList) := by
    simp [Input.ofString, Input.append]
  obtain ⟨offset, run⟩ := Input.run_append plain ends second.toList
  have shifted : (Input.mk (offset + 1) second.toList).run =
      ⟨(tokens second).tokens.map (Token.shift (offset + 1)), .eof (otherStart + (offset + 1))⟩ := by
    have further := Input.run_shift otherEnds (offset + 1)
    rwa [Input.shift, Input.ofString, Nat.zero_add] at further
  rw [shifted, ← written] at run
  refine parse_eq_ok_iff.mpr ⟨⟨_, congrArg TokenRun.ending run⟩, groups.append others, ?_,
    (groups.formula_append others).symm⟩
  rw [OpenGroups.flatten_formula] at valued
  rw [tokens, run]
  exact reads.append_and rfl valued (readsOther.map_shift _)

end Formula

end Criteria
