import Criteria.Proofs.Formula.Canonical

/-! # Writing and reading formulas

A legible formula is read back from its own text, except for its empty groups. The text is read from
left to right: `Input.groups` is what the rest of a text adds to the groups still being read, and
each separator and each clause written before that rest adds what it says.
-/

namespace Criteria

open Text

theorem Clause.toList_text_ofRaw (name : String) (operator : Operator) (raw : String) :
    (ofRaw name operator raw).text.toList =
      escape name.toList ++ (operator.spelling.toList ++ guarded (escape raw.toList)) := by
  rw [text, String.toList_ofList, List.append_assoc]
  rfl

/-- The groups that the rest of a text is read as. -/
def Input.groups (input : Input) : Except SyntaxError OpenGroups :=
  TokenRun.groups input.run.ending input.run.tokens

namespace Input

variable {offset : Nat} {rest : List Char} {groups : OpenGroups}

theorem groups_nil : (Input.mk offset []).groups = .ok .empty := by
  rw [Input.groups, run_of_ok scan_nil]
  rfl

theorem groups_and (read : (Input.mk (offset + 1) rest).groups = .ok groups) :
    (Input.mk offset (';' :: rest)).groups = .ok groups.close := by
  rw [Input.groups] at read
  rw [Input.groups, run_of_ok scan_and]
  simp only [TokenRun.cons, TokenRun.groups, read]
  rfl

theorem groups_or (read : (Input.mk (offset + 1) rest).groups = .ok groups) :
    (Input.mk offset (',' :: rest)).groups = .ok groups := by
  rw [Input.groups] at read
  rw [Input.groups, run_of_ok scan_or]
  simpa only [TokenRun.cons, TokenRun.groups] using read

/-- A canonical name is read where it is written, before a character that belongs to no name. -/
theorem scan_name {name : List Char} (canonical : IsCanonical name)
    (stops : ∀ char ∈ rest.head?, continuesIdent char = false ∧ isSeparator char = false) :
    (Input.mk offset (escape name ++ rest)).scan =
      (.ok ⟨.ident, String.ofList name, offset⟩, ⟨offset + byteLength (escape name), rest⟩) :=
  scan_ident canonical.exists_mem_head?_escape (canonical.identSpan_escape_append stops)
    canonical.trim_unescape_escape canonical.ne_nil

/-- A canonical value is read where it is written, before a character that belongs to no value. -/
theorem scan_value {value : List Char} (canonical : IsCanonical value)
    (stops : ∀ char ∈ rest.head?, continuesIdent char = false) :
    (Input.mk offset (Clause.guarded (escape value) ++ rest)).scan =
      (.ok ⟨.ident, String.ofList value, offset⟩,
        ⟨offset + byteLength (Clause.guarded (escape value)), rest⟩) := by
  refine scan_ident ?_ (Clause.identSpan_guarded_escape_append canonical stops)
    (Clause.trim_unescape_guarded_escape canonical) canonical.ne_nil
  rw [Clause.head?_guarded]
  exact canonical.exists_mem_head?_escape

/-- A name is read up to the operator after it. -/
theorem run_name {name : List Char} (operator : Operator) (canonical : IsCanonical name) :
    (Input.mk offset (escape name ++ (operator.spelling.toList ++ rest))).run =
      .cons ⟨.ident, String.ofList name, offset⟩
        (Input.mk (offset + byteLength (escape name)) (operator.spelling.toList ++ rest)).run := by
  refine run_of_ok (scan_name canonical fun char begins => ?_)
  obtain ⟨first, others, spelled, stops⟩ := operator.spelling_toList_eq_cons
  rw [spelled] at begins
  cases begins
  exact stops

/-- A clause adds itself to the first of the groups that follow it. -/
theorem groups_clause {name raw : String} (operator : Operator)
    (nameCanonical : IsCanonical name.toList) (rawCanonical : IsCanonical raw.toList)
    (stops : ∀ char ∈ rest.head?, continuesIdent char = false)
    (read : ∀ offset, (Input.mk offset rest).groups = .ok groups) :
    (Input.mk offset ((Clause.ofRaw name operator raw).text.toList ++ rest)).groups =
      .ok (groups.consClause (.ofRaw name operator raw)) := by
  have apart : ∀ char ∈ (Clause.guarded (escape raw.toList) ++ rest).head?, char ≠ '=' := by
    obtain ⟨first, begins, continues, _⟩ := rawCanonical.exists_mem_head?_escape
    rw [← Clause.head?_guarded] at begins
    rw [List.head?_append, Option.mem_def.mp begins]
    rintro char found rfl
    cases found
    exact absurd continues (by decide)
  simp only [Input.groups] at read ⊢
  rw [Clause.toList_text_ofRaw, List.append_assoc, List.append_assoc, run_name operator nameCanonical,
    run_of_ok (scan_operator operator fun _ equal => apart _ equal rfl), run_of_ok (scan_value rawCanonical stops)]
  simp only [TokenRun.cons, TokenRun.groups, TokenKind.operator?, ↓reduceIte, read,
    String.ofList_toList]
  rfl

/-- A clause without a value may end the text. -/
theorem groups_valueless {name : String} (operator : Operator)
    (nameCanonical : IsCanonical name.toList) :
    (Input.mk offset (Clause.ofRaw name operator "").text.toList).groups =
      .ok (OpenGroups.empty.consClause (.ofRaw name operator "")) := by
  rw [Clause.toList_text_ofRaw, Input.groups]
  change TokenRun.groups (Input.run ⟨offset, _ ++ (_ ++ [])⟩).ending
    (Input.run ⟨offset, _ ++ (_ ++ [])⟩).tokens = _
  rw [run_name operator nameCanonical, run_of_ok (scan_operator operator fun _ => by simp), run_of_ok scan_nil]
  simp only [TokenRun.cons, TokenRun.groups, TokenKind.operator?, Ending.resolve,
    String.ofList_toList]

end Input

namespace Formula

theorem groupText_cons (clause : Clause) (after : List Clause) :
    groupText (clause :: after) =
      clause.text ++ ((if after = [] then "" else ",") ++ groupText after) := by
  cases after with
  | nil => simp [groupText]
  | cons next others => simp [groupText, String.intercalate_cons_cons, String.append_assoc]

theorem text_cons (group : List Clause) (back : List (List Clause)) :
    text ⟨group :: back⟩ = groupText group ++ ((if back = [] then "" else ";") ++ text ⟨back⟩) := by
  cases back with
  | nil => simp [text]
  | cons next others => simp [text, String.intercalate_cons_cons, String.append_assoc]

/-- After an empty group follows a semicolon, if there are more groups. -/
theorem toList_text_nil_cons (next : List Clause) (back : List (List Clause)) :
    (text ⟨[] :: next :: back⟩).toList = ';' :: (text ⟨next :: back⟩).toList := by
  rw [text_cons, if_neg (List.cons_ne_nil _ _)]
  simp [groupText]

/-- What is written after the first clause of a formula: a comma if its group goes on, and the rest
of the formula. -/
def textAfter (after : List Clause) (back : List (List Clause)) : List Char :=
  (if after = [] then [] else [',']) ++ (text ⟨after :: back⟩).toList

theorem toList_text_cons_cons (clause : Clause) (after : List Clause) (back : List (List Clause)) :
    (text ⟨(clause :: after) :: back⟩).toList = clause.text.toList ++ textAfter after back := by
  rw [textAfter, text_cons, text_cons, groupText_cons]
  split_ifs <;> simp

/-- What is written after a clause belongs to none of its texts. -/
private theorem continuesIdent_of_mem_head?_textAfter {after : List Clause}
    {back : List (List Clause)} :
    ∀ char ∈ (textAfter after back).head?, continuesIdent char = false := by
  rintro char begins
  cases after with
  | nil =>
    cases back with
    | nil => contradiction
    | cons next others =>
      rw [textAfter, toList_text_nil_cons] at begins
      cases begins
      rfl
  | cons next others =>
    cases begins
    rfl

/-- A group is read back where it is written if what follows it is. -/
private theorem groups_text_group {after : List Clause} {back : List (List Clause)}
    (legible : IsLegible ⟨after :: back⟩)
    (closed : ∀ offset, (Input.mk offset (text ⟨[] :: back⟩).toList).groups = .ok ⟨[], back⟩) :
    ∀ offset, (Input.mk offset (text ⟨after :: back⟩).toList).groups = .ok ⟨after, back⟩ := by
  induction after with
  | nil => exact closed
  | cons clause after ih =>
    intro offset
    obtain ⟨stated, others⟩ := isLegible_cons_cons.mp legible
    have read (offset : Nat) :
        (Input.mk offset (textAfter after back)).groups = .ok ⟨after, back⟩ := by
      cases after with
      | nil => exact ih others offset
      | cons next more => exact Input.groups_or (ih others (offset + 1))
    obtain ⟨name, operator, raw, rfl, nameCanonical, value⟩ := stated
    rw [toList_text_cons_cons]
    rcases value with rawCanonical | ⟨rfl, rfl, rfl⟩
    · exact Input.groups_clause operator nameCanonical rawCanonical
        continuesIdent_of_mem_head?_textAfter read
    · have nothing : textAfter [] [] = [] := rfl
      rw [nothing, List.append_nil]
      exact Input.groups_valueless operator nameCanonical

/-- Where a legible formula is written, it is read back. -/
theorem groups_text {group : List Clause} {back : List (List Clause)}
    (legible : IsLegible ⟨group :: back⟩) :
    ∀ offset, (Input.mk offset (text ⟨group :: back⟩).toList).groups = .ok ⟨group, back⟩ := by
  induction back generalizing group with
  | nil => exact groups_text_group legible fun _ => Input.groups_nil
  | cons next back ih =>
    apply groups_text_group legible
    intro offset
    rw [toList_text_nil_cons]
    exact Input.groups_and (ih legible.tail (offset + 1))

/-- A legible formula is read back from its text without its empty groups. -/
theorem parse_text {formula : Formula} (legible : formula.IsLegible) :
    parse formula.text = .ok formula.compact := by
  obtain ⟨groups⟩ := formula
  have read : ∃ read : OpenGroups, (Input.ofString (text ⟨groups⟩)).groups = .ok read ∧
      read.formula = compact ⟨groups⟩ := by
    cases groups with
    | nil => exact ⟨.empty, Input.groups_nil, rfl⟩
    | cons group back => exact ⟨⟨group, back⟩, groups_text legible 0, rfl⟩
  obtain ⟨read, readGroups, compacted⟩ := read
  exact Except.bind_eq_ok_iff.mpr ⟨read, readGroups, congrArg Except.ok compacted⟩

/-- Reading gives canonical formulas only, and gives every canonical formula back from its own text.
Of a formula with empty groups, it gives back all the others. -/
theorem parse_text_round_trip :
    (∀ source formula, parse source = .ok formula → formula.IsCanonical) ∧
    (∀ formula : Formula, formula.IsCanonical → parse formula.text = .ok formula) ∧
    (∀ formula : Formula, formula.IsLegible → parse formula.text = .ok formula.compact) ∧
    ∀ formula : Formula, parse formula.text = .ok formula ↔ formula.IsCanonical := by
  have exact_of_canonical (formula : Formula) (canonical : formula.IsCanonical) :
      parse formula.text = .ok formula := by
    rw [parse_text canonical.legible, canonical.compact_eq]
  exact ⟨fun _ _ read => isCanonical_of_parse read, exact_of_canonical,
    fun _ legible => parse_text legible,
    fun formula => ⟨fun read => isCanonical_of_parse read, exact_of_canonical formula⟩⟩

/-- Backslashes before an operator, a separator and the end of a group, a separator inside a value,
an empty group and a missing value. -/
def entangled : Formula :=
  ⟨[[.ofRaw "a\\" .equal "x\\"], [], [.ofRaw "名" .less "\\,é\t; \\", .ofRaw "z" .atLeast ""]]⟩

theorem parse_text_entangled :
    entangled.IsLegible ∧ parse entangled.text = .ok entangled.compact ∧
      entangled.compact.IsCanonical ∧
      parse entangled.compact.text = .ok entangled.compact := by
  have legible : entangled.IsLegible := by
    refine isLegible_cons_cons.mpr ⟨⟨_, _, _, rfl, by decide, .inl (by decide)⟩, ?_⟩
    refine isLegible_nil_cons.mpr (isLegible_nil_cons.mpr ?_)
    refine isLegible_cons_cons.mpr ⟨⟨_, _, _, rfl, by decide, .inl (by decide)⟩, ?_⟩
    refine isLegible_cons_cons.mpr ⟨⟨_, _, _, rfl, by decide, .inr ⟨rfl, rfl, rfl⟩⟩, ?_⟩
    exact isLegible_nil_cons.mpr isLegible_nil
  have read : parse entangled.text = .ok entangled.compact :=
    parse_text_round_trip.2.2.1 entangled legible
  have canonical : entangled.compact.IsCanonical := parse_text_round_trip.1 _ _ read
  exact ⟨legible, read, canonical, (parse_text_round_trip.2.2.2 _).mpr canonical⟩

end Formula

end Criteria
