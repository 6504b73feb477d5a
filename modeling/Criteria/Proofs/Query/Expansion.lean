import Criteria.Proofs.Query.Balance
import Mathlib.Data.List.Forall2

/-! # Expanding queries

The text of a balanced query falls into segments with a placeholder between neighbours. Expansion
keeps the segments and puts in the place of each placeholder what its argument is expanded to; it
refuses nothing but a difference in number.

Expansion does not show: in every dialect a query is shown as its expansion is, up to its empty
lists. Both facts are proved for a single argument and carried over to `interleave`, the segments
with queries between them.
-/

namespace Criteria

/-! ### Single values and flat lists -/

namespace Argument

variable {argument : Argument}

/-- A value by itself, not a list. -/
def IsSingle (argument : Argument) : Prop :=
  ∀ items, argument ≠ .list items

theorem IsSingle.marks_eq (single : argument.IsSingle) : argument.marks = "?" := by
  cases argument with
  | list items => exact absurd rfl (single items)
  | int _ | float _ | text _ | bytes _ | timestamp _ | null => rfl

theorem IsSingle.values_eq (single : argument.IsSingle) : argument.values = [argument] := by
  cases argument with
  | list items => exact absurd rfl (single items)
  | int _ | float _ | text _ | bytes _ | timestamp _ | null => rfl

/-- A single value or a list of single values. -/
def IsFlat (argument : Argument) : Prop :=
  ∀ value ∈ argument.values, value.IsSingle

theorem IsSingle.isFlat (single : argument.IsSingle) : argument.IsFlat := by
  intro value member
  rw [single.values_eq] at member
  rwa [List.mem_singleton.mp member]

/-- The argument at a placeholder of its own. -/
def bound (argument : Argument) : Query :=
  ⟨"?", [argument]⟩

/-- What an argument is expanded to. An empty list leaves a null, any other list as many placeholders
as it has items, with commas between them, and a single value keeps its placeholder. -/
inductive ExpandsTo : Argument → Query → Prop
  | null : ExpandsTo (list []) ⟨"NULL", []⟩
  | items {items : List Argument} (ne_nil : items ≠ []) :
      ExpandsTo (list items) ⟨",".intercalate (List.replicate items.length "?"), items⟩
  | single {argument : Argument} (single : argument.IsSingle) : ExpandsTo argument ⟨"?", [argument]⟩

theorem expandsTo (argument : Argument) : argument.ExpandsTo ⟨argument.marks, argument.values⟩ := by
  cases argument with
  | list items =>
    cases items with
    | nil => exact .null
    | cons item rest => exact .items (List.cons_ne_nil item rest)
  | int _ | float _ | text _ | bytes _ | timestamp _ | null => exact .single (by simp [IsSingle])

theorem isBalanced_bound (argument : Argument) : argument.bound.isBalanced = true :=
  Query.isBalanced_iff.mpr (by simp [bound, Query.placeholders])

end Argument

namespace Query

variable {query first second : Query} {segments : List String} {arguments : List Argument}

/-- No argument is a list that holds another list. -/
def IsFlat (query : Query) : Prop :=
  ∀ argument ∈ query.arguments, argument.IsFlat

/-- Expansion leaves no list behind. -/
theorem IsFlat.isSingle_of_mem_expanded (flat : query.IsFlat) {argument : Argument}
    (member : argument ∈ query.expanded.arguments) : argument.IsSingle := by
  obtain ⟨original, given, value⟩ := List.mem_flatMap.mp member
  exact flat original given argument value

/-- Placeholders put into placeholders leave a text as it is. -/
theorem fill_replicate (text : List Char) (count : Nat) :
    fill text (List.replicate count ['?']) = text := by
  induction text generalizing count with
  | nil => rfl
  | cons char rest ih =>
    by_cases mark : char = '?'
    · cases count with
      | zero => rw [List.replicate_zero, fill_nil]
      | succ count => simp [List.replicate_succ, fill, mark, ih]
    · simp [fill, mark, ih]

/-- Expansion leaves a query without lists as it is. -/
theorem expanded_eq_self (single : ∀ argument ∈ query.arguments, argument.IsSingle) :
    query.expanded = query := by
  have marks : query.arguments.map (fun argument => argument.marks.toList) =
      List.replicate query.arguments.length ['?'] := by
    rw [List.eq_replicate_iff, List.length_map]
    refine ⟨rfl, List.forall_mem_map.mpr fun argument member => ?_⟩
    rw [(single argument member).marks_eq]
    rfl
  have values : query.arguments.flatMap (·.values) = query.arguments := by
    rw [List.flatMap_congr fun argument member => (single argument member).values_eq]
    exact List.flatMap_singleton' _
  change Query.mk _ _ = query
  rw [marks, fill_replicate, values, String.ofList_toList]

/-! ### First characters -/

theorem ofList_cons_eq (char : Char) (rest : List Char) (arguments : List Argument) :
    Query.mk (String.ofList (char :: rest)) arguments =
      ofText (String.singleton char) ++ ⟨String.ofList rest, arguments⟩ := by
  rw [String.ofList_cons]
  rfl

/-- A placeholder in front takes the first argument. -/
theorem ofList_mark_cons_eq (rest : List Char) (argument : Argument) (arguments : List Argument) :
    Query.mk (String.ofList ('?' :: rest)) (argument :: arguments) =
      argument.bound ++ ⟨String.ofList rest, arguments⟩ := by
  rw [String.ofList_cons]
  rfl

theorem push_eq_append_ofText (query : Query) (char : Char) :
    Query.mk (query.text.push char) query.arguments = query ++ ofText (String.singleton char) := by
  change _ = Query.mk _ _
  rw [String.push_eq_append]
  simp only [ofText, List.append_nil]

/-! ### Segments -/

/-- The segments of a text with queries between neighbours. -/
def interleave : List String → List Query → Query
  | segment :: segments, query :: queries => ofText segment ++ query ++ interleave segments queries
  | segment :: _, [] => ofText segment
  | [], _ => ofText ""

theorem interleave_append_head (text segment : String) (segments : List String)
    (queries : List Query) :
    interleave ((text ++ segment) :: segments) queries =
      ofText text ++ interleave (segment :: segments) queries := by
  cases queries with
  | nil => exact (ofText_append_ofText text segment).symm
  | cons query rest => simp only [interleave, ← ofText_append_ofText, append_assoc]

/-- The arguments of a query at its placeholders, between segments without any. -/
structure Divides (segments : List String) (query : Query) : Prop where
  unmarked : ∀ segment ∈ segments, '?' ∉ segment.toList
  length : segments.length = query.arguments.length + 1
  eq_interleave : query = interleave segments (query.arguments.map Argument.bound)

private theorem exists_divides_ofList {text : List Char}
    (balanced : placeholders text = arguments.length) :
    ∃ segments, Divides segments ⟨String.ofList text, arguments⟩ := by
  -- A placeholder in front opens a new segment and takes an argument; any other character is put in
  -- front of the first segment.
  induction text generalizing arguments with
  | nil =>
    obtain rfl : arguments = [] := List.length_eq_zero_iff.mp balanced.symm
    exact ⟨[""], by simp, rfl, rfl⟩
  | cons char rest ih =>
    by_cases mark : char = '?'
    · subst mark
      cases arguments with
      | nil => simp [placeholders] at balanced
      | cons argument arguments =>
        have counted : placeholders rest = arguments.length := by
          simpa [placeholders] using balanced
        obtain ⟨segments, unmarked, length, equal⟩ := ih counted
        refine ⟨"" :: segments, by simpa using unmarked, by simpa using length, ?_⟩
        rw [List.map_cons, interleave, ofText_empty_append, ← equal, ofList_mark_cons_eq]
    · have counted : placeholders rest = arguments.length := by
        simpa [placeholders, mark] using balanced
      obtain ⟨segments, unmarked, length, equal⟩ := ih counted
      cases segments with
      | nil => simp at length
      | cons segment segments =>
        obtain ⟨head, tail⟩ := List.forall_mem_cons.mp unmarked
        refine ⟨(String.singleton char ++ segment) :: segments, ?_, length, ?_⟩
        · refine List.forall_mem_cons.mpr ⟨?_, tail⟩
          simpa [Ne.symm mark] using head
        · rw [interleave_append_head, ← equal, ofList_cons_eq]

/-- A balanced query can be divided at its placeholders. -/
theorem exists_divides (balanced : query.isBalanced = true) : ∃ segments, Divides segments query := by
  obtain ⟨segments, divides⟩ := exists_divides_ofList (isBalanced_iff.mp balanced)
  rw [String.ofList_toList] at divides
  exact ⟨segments, divides⟩

/-! ### Expansion of segments -/

/-- After a balanced query, another one is expanded as if it stood alone. -/
theorem expanded_append (balanced : first.isBalanced = true) (second : Query) :
    (first ++ second).expanded = first.expanded ++ second.expanded := by
  have own : placeholders first.text.toList =
      (first.arguments.map fun argument => argument.marks.toList).length := by
    simpa using isBalanced_iff.mp balanced
  change Query.mk _ _ = Query.mk _ _
  simp only [text_append, arguments_append, String.toList_append, List.map_append,
    fill_append _ _ _ _ own, List.flatMap_append, expanded, String.ofList_append]

theorem expanded_ofText (text : String) : (ofText text).expanded = ofText text := by
  simp [expanded, ofText, fill_nil]

theorem expanded_bound (argument : Argument) :
    argument.bound.expanded = ⟨argument.marks, argument.values⟩ := by
  simp [expanded, Argument.bound, fill]

/-- Expansion keeps the segments and expands each argument in its place. -/
theorem expanded_interleave (unmarked : ∀ segment ∈ segments, '?' ∉ segment.toList)
    (length : segments.length = arguments.length + 1) :
    (interleave segments (arguments.map Argument.bound)).expanded =
      interleave segments (arguments.map fun argument => ⟨argument.marks, argument.values⟩) := by
  induction arguments generalizing segments with
  | nil =>
    obtain ⟨segment, rfl⟩ := List.length_eq_one_iff.mp length
    exact expanded_ofText segment
  | cons argument arguments ih =>
    cases segments with
    | nil => simp at length
    | cons segment segments =>
      obtain ⟨head, tail⟩ := List.forall_mem_cons.mp unmarked
      have leading := isBalanced_append (isBalanced_ofText head) argument.isBalanced_bound
      simp only [List.map_cons, interleave]
      rw [expanded_append leading, expanded_append (isBalanced_ofText head), expanded_ofText,
        expanded_bound, ih tail (Nat.succ.inj length)]

/-! ### The walk through a text -/

/-- The arguments that are left are expanded into the rest of the text, behind what is written already,
unless the rest has more or fewer placeholders. -/
theorem expandFrom_eq {front arguments : List Argument} (split : query.arguments = front ++ arguments)
    (written : Query) (rest : List Char) :
    query.expandFrom front.length written rest =
      if placeholders rest = arguments.length then
        .ok (written ++ expanded ⟨String.ofList rest, arguments⟩)
      else .error query.mismatch := by
  induction rest generalizing front arguments written with
  | nil =>
    have nothing : expanded ⟨String.ofList [], []⟩ = ofText "" := rfl
    cases arguments with
    | nil => simp [expandFrom, split, placeholders, nothing, append_ofText_empty]
    | cons argument others => simp [expandFrom, split, placeholders]
  | cons char rest ih =>
    by_cases mark : char = '?'
    · subst mark
      cases arguments with
      | nil =>
        have absent : query.arguments[front.length]? = none := by simp [split]
        simp [expandFrom, absent, placeholders]
      | cons argument others =>
        have present : query.arguments[front.length]? = some argument := by simp [split]
        have later := @ih (front ++ [argument]) others (by simp [split])
          (written ++ ⟨argument.marks, argument.values⟩)
        have counted : placeholders rest = others.length ↔
            placeholders ('?' :: rest) = (argument :: others).length := by simp [placeholders]
        rw [List.length_append, List.length_singleton] at later
        rw [expandFrom, if_pos rfl, present, ofList_mark_cons_eq,
          expanded_append argument.isBalanced_bound, expanded_bound, ← append_assoc]
        exact later.trans (if_congr counted rfl rfl)
    · have apart : '?' ∉ (String.singleton char).toList := by simpa using Ne.symm mark
      have counted : placeholders rest = arguments.length ↔
          placeholders (char :: rest) = arguments.length := by simp [placeholders, mark]
      rw [expandFrom, if_neg mark, ih split, ofList_cons_eq,
        expanded_append (isBalanced_ofText apart), expanded_ofText, push_eq_append_ofText,
        append_assoc]
      exact if_congr counted rfl rfl

/-- Expansion refuses exactly the queries that are not balanced. -/
theorem expand_eq (query : Query) :
    query.expand = if query.isBalanced then .ok query.expanded else .error query.mismatch := by
  have whole := @expandFrom_eq query [] query.arguments rfl (ofText "") query.text.toList
  rw [ofText_empty_append, String.ofList_toList] at whole
  simp only [isBalanced, decide_eq_true_eq]
  exact whole

theorem expand_eq_ok (balanced : query.isBalanced = true) : query.expand = .ok query.expanded := by
  rw [expand_eq, if_pos balanced]

theorem expand_eq_error_iff {fault : Mismatch} :
    query.expand = .error fault ↔
      placeholders query.text.toList ≠ query.arguments.length ∧ fault = query.mismatch := by
  rw [expand_eq]
  split_ifs with balanced
  · simp [isBalanced_iff.mp balanced]
  · simp [mt isBalanced_iff.mpr balanced, eq_comm]

/-- Expansion refuses a query exactly if its placeholders and arguments differ in number, and reports
the two numbers. Any other query is divided at its placeholders, and what its arguments are expanded
to is put between the segments in order. The result is balanced, and if no list holds another one,
it has no lists and is its own expansion. -/
theorem expand_segmentwise (query : Query) :
    (∀ fault, query.expand = .error fault ↔
      placeholders query.text.toList ≠ query.arguments.length ∧
        fault = ⟨query.text, placeholders query.text.toList, query.arguments.length⟩) ∧
    (placeholders query.text.toList = query.arguments.length →
      ∃ result, query.expand = .ok result ∧
        (∃ segments expansions, Divides segments query ∧
          List.Forall₂ Argument.ExpandsTo query.arguments expansions ∧
          result = interleave segments expansions) ∧
        placeholders result.text.toList = result.arguments.length ∧
        (query.IsFlat → (∀ argument ∈ result.arguments, argument.IsSingle) ∧
          result.expand = .ok result)) := by
  refine ⟨fun fault => expand_eq_error_iff, fun counted => ?_⟩
  have balanced := isBalanced_iff.mpr counted
  have stillBalanced := isBalanced_expanded balanced
  obtain ⟨segments, divides⟩ := exists_divides balanced
  have expands : List.Forall₂ Argument.ExpandsTo query.arguments
      (query.arguments.map fun argument => ⟨argument.marks, argument.values⟩) :=
    List.forall₂_map_right_iff.mpr (List.forall₂_same.mpr fun argument _ => argument.expandsTo)
  refine ⟨query.expanded, expand_eq_ok balanced, ⟨segments, _, divides, expands, ?_⟩,
    isBalanced_iff.mp stillBalanced, ?_⟩
  · rw [← expanded_interleave divides.unmarked divides.length, ← divides.eq_interleave]
  · intro flat
    have single : ∀ argument ∈ query.expanded.arguments, argument.IsSingle :=
      fun _ member => flat.isSingle_of_mem_expanded member
    refine ⟨single, ?_⟩
    rw [expand_eq_ok stillBalanced, expanded_eq_self single]

/-- An empty list, a list of two items, and single values with question marks and bytes in them. -/
def mixedLists : Query :=
  ⟨"id IN (?) AND tag IN (?) AND name=? AND data=?",
    [.list [], .list [.int 7, .text "a?"], .text "who?", .bytes ⟨#[1, 2]⟩]⟩

theorem expand_segmentwise_mixedLists :
    placeholders mixedLists.text.toList = mixedLists.arguments.length ∧ mixedLists.IsFlat ∧
    ∃ result, result = ⟨"id IN (NULL) AND tag IN (?,?) AND name=? AND data=?",
        [.int 7, .text "a?", .text "who?", .bytes ⟨#[1, 2]⟩]⟩ ∧
      mixedLists.expand = .ok result ∧ result.expand = .ok result := by
  have counted : placeholders mixedLists.text.toList = mixedLists.arguments.length := by
    decide +kernel
  have flat : mixedLists.IsFlat := by
    simp [mixedLists, IsFlat, Argument.IsFlat, Argument.values, Argument.IsSingle]
  have expands : mixedLists.expand = .ok ⟨"id IN (NULL) AND tag IN (?,?) AND name=? AND data=?",
      [.int 7, .text "a?", .text "who?", .bytes ⟨#[1, 2]⟩]⟩ := by decide +kernel
  obtain ⟨result, succeeds, _, _, again⟩ := (expand_segmentwise mixedLists).2 counted
  cases succeeds.symm.trans expands
  exact ⟨counted, flat, _, rfl, expands, (again flat).2⟩

end Query

/-! ### Shown expansions -/

/-- The argument, or a null in the place of an empty list. -/
def Argument.nullIfEmpty : Argument → Argument
  | list [] => null
  | other => other

/-- An argument is expanded to what it is shown as, with a null for an empty list. -/
theorem Argument.ExpandsTo.render_eq [TimestampFormat] {argument : Argument} {query : Query}
    (expands : argument.ExpandsTo query) (dialect : Dialect) :
    query.render dialect = argument.nullIfEmpty.literal dialect := by
  cases expands with
  | null => exact Query.render_ofText dialect "NULL"
  | @items items ne_nil =>
    have joined : Query.mk (",".intercalate (List.replicate items.length "?")) items =
        Query.join "," (items.map bound) := by
      simp [Query.join, bound, List.flatMap_map, Function.comp_def]
    have shown : items.map (Query.render dialect ∘ bound) = items.map (literal dialect) :=
      List.map_congr_left fun item _ => Query.render_placeholder dialect item
    have kept : (list items).nullIfEmpty = list items := by
      cases items with
      | nil => contradiction
      | cons item rest => rfl
    have balanced : ∀ query ∈ items.map bound, query.isBalanced = true :=
      List.forall_mem_map.mpr fun item _ => item.isBalanced_bound
    rw [joined, Query.render_join dialect (by decide) balanced, List.map_map, shown, kept, literal,
      literals_eq_map]
  | single single =>
    have kept : argument.nullIfEmpty = argument := by
      cases argument with
      | list items => exact absurd rfl (single items)
      | int _ | float _ | text _ | bytes _ | timestamp _ | null => rfl
    rw [kept]
    exact Query.render_placeholder dialect argument

namespace Query

variable {query : Query} {segments : List String} {queries : List Query}

/-- The query with nulls in the place of empty lists. -/
def withNulls (query : Query) : Query where
  text := query.text
  arguments := query.arguments.map Argument.nullIfEmpty

theorem withNulls_append (first second : Query) :
    (first ++ second).withNulls = first.withNulls ++ second.withNulls := by
  change Query.mk _ _ = Query.mk _ _
  simp [withNulls]

theorem withNulls_interleave (segments : List String) (arguments : List Argument) :
    (interleave segments (arguments.map Argument.bound)).withNulls =
      interleave segments (arguments.map fun argument => argument.nullIfEmpty.bound) := by
  induction arguments generalizing segments with
  | nil => cases segments <;> rfl
  | cons argument arguments ih =>
    cases segments with
    | nil => rfl
    | cons segment segments =>
      rw [List.map_cons, interleave, withNulls_append, withNulls_append, ih]
      rfl

/-- Balanced queries between segments are shown as they are shown by themselves. -/
theorem render_interleave [TimestampFormat] (dialect : Dialect)
    (unmarked : ∀ segment ∈ segments, '?' ∉ segment.toList)
    (balanced : ∀ query ∈ queries, query.isBalanced = true) :
    (interleave segments queries).render dialect =
      (interleave segments (queries.map fun query => ofText (query.render dialect))).text := by
  induction queries generalizing segments with
  | nil => cases segments <;> exact render_ofText dialect _
  | cons query queries ih =>
    cases segments with
    | nil => exact render_ofText dialect ""
    | cons segment segments =>
      obtain ⟨first, others⟩ := List.forall_mem_cons.mp unmarked
      obtain ⟨head, tail⟩ := List.forall_mem_cons.mp balanced
      have marked := isBalanced_ofText first
      rw [List.map_cons, interleave, render_append dialect (isBalanced_append marked head),
        render_append dialect marked, render_ofText, ih others tail]
      rfl

/-- Expansion does not show, whatever lists are in a query: in every dialect, the expanded query is
shown as the query itself is, with nulls in the place of its empty lists. -/
theorem render_expand [TimestampFormat]
    (counted : placeholders query.text.toList = query.arguments.length) :
    ∃ result, query.expand = .ok result ∧
      ∀ dialect, result.render dialect = query.withNulls.render dialect := by
  have balanced := isBalanced_iff.mpr counted
  obtain ⟨segments, divides⟩ := exists_divides balanced
  refine ⟨query.expanded, expand_eq_ok balanced, fun dialect => ?_⟩
  -- Both queries have the same segments, so only what stands between them is to be compared.
  have shown (argument : Argument) :
      (Query.mk argument.marks argument.values).render dialect =
        argument.nullIfEmpty.bound.render dialect :=
    (argument.expandsTo.render_eq dialect).trans (render_placeholder dialect _).symm
  rw [divides.eq_interleave, expanded_interleave divides.unmarked divides.length,
    withNulls_interleave, render_interleave dialect divides.unmarked,
    render_interleave dialect divides.unmarked, List.map_map, List.map_map]
  · simp only [Function.comp_def, shown]
  · exact List.forall_mem_map.mpr fun argument _ => argument.nullIfEmpty.isBalanced_bound
  · refine List.forall_mem_map.mpr fun argument _ => ?_
    exact isBalanced_iff.mpr argument.placeholders_marks

/-- Lists in lists, empty ones among them, and texts with question marks in them. -/
def nestedLists : Query :=
  ⟨"id IN (?) AND tag IN (?) AND name=?",
    [.list [], .list [.int 7, .list [], .list [.text "a?", .list [.null]]], .text "it's ?"]⟩

theorem render_expand_nestedLists :
    placeholders nestedLists.text.toList = nestedLists.arguments.length ∧
    ∃ result, nestedLists.expand = .ok result ∧
      result.text = "id IN (NULL) AND tag IN (?,?,?) AND name=?" ∧
      result.render .mysql = "id IN (NULL) AND tag IN (7,,'a?',NULL) AND name='it\\'s ?'" ∧
      result.render .standard = "id IN (NULL) AND tag IN (7,,'a?',NULL) AND name='it''s ?'" := by
  have counted : placeholders nestedLists.text.toList = nestedLists.arguments.length := by
    decide +kernel
  obtain ⟨result, succeeds, shown⟩ := render_expand counted
  have expands : nestedLists.expand = .ok nestedLists.expanded := by decide +kernel
  refine ⟨counted, result, succeeds, ?_, ?_, ?_⟩
  · cases succeeds.symm.trans expands
    decide +kernel
  · rw [shown]
    decide +kernel
  · rw [shown]
    decide +kernel

end Query

end Criteria
