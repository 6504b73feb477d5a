import Mathlib.Data.List.Forall2

/-! # Computations that may fail

When a computation in several steps succeeds, each step has succeeded. For a traversal this relates
items and results one by one.

Where faults can be found before anything is computed, `checked` separates the two: a computation in
several steps is then its value, guarded by the first fault of its steps.
-/

namespace Except

variable {ε α β : Type}

theorem bind_eq_ok_iff {x : Except ε α} {f : α → Except ε β} {b : β} :
    x >>= f = .ok b ↔ ∃ a, x = .ok a ∧ f a = .ok b := by
  cases x <;> simp [bind, Except.bind]

theorem pure_eq_ok_iff {a b : α} : (pure a : Except ε α) = .ok b ↔ a = b := by
  simp [pure, Except.pure]

theorem bind_pure_eq_ok_iff {x : Except ε α} {f : α → β} {b : β} :
    (x >>= fun a => pure (f a)) = .ok b ↔ ∃ a, x = .ok a ∧ b = f a := by
  rw [bind_eq_ok_iff]
  exact exists_congr fun a => and_congr_right fun _ => pure_eq_ok_iff.trans eq_comm

theorem bind_pure_eq_error_iff {x : Except ε α} {f : α → β} {fault : ε} :
    (x >>= fun a => pure (f a)) = .error fault ↔ x = .error fault := by
  cases x <;> simp [bind, Except.bind, pure, Except.pure]

/-- What becomes of the value makes no difference to the error. -/
theorem mapError_bind_pure {δ : Type} (x : Except ε α) (f : α → β) (g : ε → δ) :
    (x >>= fun a => pure (f a)).mapError g = x.mapError g >>= fun a => pure (f a) := by
  cases x <;> rfl

/-- The value, unless a check has found a fault. -/
def checked (fault? : Option ε) (value : α) : Except ε α :=
  match fault? with
  | some fault => .error fault
  | none => .ok value

theorem checked_eq_ok_iff {fault? : Option ε} {value result : α} :
    checked fault? value = .ok result ↔ fault? = none ∧ result = value := by
  cases fault? <;> simp [checked, eq_comm]

theorem checked_eq_error_iff {fault? : Option ε} {value : α} {fault : ε} :
    checked fault? value = .error fault ↔ fault? = some fault := by
  cases fault? <;> simp [checked]

/-- Of two steps, the first fault counts. -/
theorem checked_bind {fault? next? : Option ε} {value : α} {result : β} {f : α → Except ε β}
    (next : f value = checked next? result) :
    checked fault? value >>= f = checked (fault?.or next?) result := by
  cases fault? with
  | some fault => rfl
  | none => exact next

/-- A step that succeeds finds no faults. -/
theorem checked_bind_ok {fault? : Option ε} {value : α} {result : β} {f : α → Except ε β}
    (next : f value = .ok result) : checked fault? value >>= f = checked fault? result := by
  cases fault? with
  | some fault => rfl
  | none => exact next

theorem checked_bind_pure {fault? : Option ε} {value : α} {f : α → β} :
    (checked fault? value >>= fun a => pure (f a)) = checked fault? (f value) :=
  checked_bind_ok rfl

end Except

namespace List

variable {ε α β : Type} {f : α → Except ε β}

/-- A traversal succeeds with the results of all its items. -/
theorem mapM_eq_ok_iff {items : List α} {results : List β} :
    items.mapM f = .ok results ↔ Forall₂ (fun item result => f item = .ok result) items results := by
  induction items generalizing results with
  | nil =>
    rw [mapM_nil, Except.pure_eq_ok_iff, forall₂_nil_left_iff]
    exact eq_comm
  | cons item rest ih =>
    simp only [mapM_cons, Except.bind_eq_ok_iff, Except.pure_eq_ok_iff, forall₂_cons_left_iff, ih]
    constructor
    · rintro ⟨result, head, others, tail, rfl⟩
      exact ⟨result, others, head, tail, rfl⟩
    · rintro ⟨result, others, head, tail, rfl⟩
      exact ⟨result, head, others, tail, rfl⟩

/-- Only what becomes of the items counts in a traversal. -/
theorem mapM_congr {items : List α} {g : α → Except ε β} (same : ∀ item ∈ items, f item = g item) :
    items.mapM f = items.mapM g := by
  induction items with
  | nil => rfl
  | cons item rest ih =>
    rw [mapM_cons, mapM_cons, same item mem_cons_self,
      ih fun other member => same other (mem_cons_of_mem _ member)]

/-- What is found first group by group is what is found first in all of them. -/
theorem findSome?_findSome? (find? : α → Option β) (groups : List (List α)) :
    groups.findSome? (·.findSome? find?) = groups.flatten.findSome? find? := by
  induction groups with
  | nil => rfl
  | cons group rest ih =>
    rw [findSome?_cons, flatten_cons, findSome?_append, ← ih]
    cases group.findSome? find? <;> rfl

/-- The first fault of a traversal is that of the first item that has one. -/
theorem mapM_eq_checked {fault? : α → Option ε} {value : α → β}
    (each : ∀ item, f item = .checked (fault? item) (value item)) (items : List α) :
    items.mapM f = .checked (items.findSome? fault?) (items.map value) := by
  induction items with
  | nil => rfl
  | cons item rest ih =>
    have first : (item :: rest).findSome? fault? = (fault? item).or (rest.findSome? fault?) := by
      rw [findSome?_cons]
      cases fault? item <;> rfl
    rw [mapM_cons, each, ih, first]
    exact Except.checked_bind Except.checked_bind_pure

end List
