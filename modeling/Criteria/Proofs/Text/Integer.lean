import Criteria.Text.Integer
import Mathlib.Algebra.Group.Int.Defs
import Mathlib.Algebra.Group.Nat.Defs

/-! # Integers and the texts that denote them

A text denotes an integer by digits, with a sign in front of them or without. Since zeros may lead and
a plus sign may be left out, many texts denote the same integer; the decimal form is a shortest one.
Reading gives the integer that a text denotes, if there is one and it has 64 bits.
-/

namespace Criteria.Text

/-- A number of ASCII digits, and at least one. -/
structure AreDigits (digits : List Char) : Prop where
  ne_nil : digits ≠ []
  ascii : ∀ char ∈ digits, char.isDigit = true

/-- The text denotes the integer: by digits alone, or by digits after a sign. -/
inductive Denotes : List Char → Int → Prop
  | unsigned {digits : List Char} (written : AreDigits digits) :
      Denotes digits (Nat.ofDigitChars 10 digits 0)
  | plus {digits : List Char} (written : AreDigits digits) :
      Denotes ('+' :: digits) (Nat.ofDigitChars 10 digits 0)
  | minus {digits : List Char} (written : AreDigits digits) :
      Denotes ('-' :: digits) (-(Nat.ofDigitChars 10 digits 0))

variable {text : List Char} {number : Int}

/-! ### Reading -/

theorem natural?_eq_some_iff {digits : List Char} {value : Nat} :
    natural? digits = some value ↔ AreDigits digits ∧ value = Nat.ofDigitChars 10 digits 0 := by
  unfold natural?
  rw [Option.ite_none_right_eq_some, Option.some.injEq, List.all_eq_true, eq_comm,
    ← Nat.ofDigitChars_eq_foldl]
  exact and_congr_left fun _ => ⟨fun ⟨ne_nil, ascii⟩ => ⟨ne_nil, ascii⟩,
    fun ⟨ne_nil, ascii⟩ => ⟨ne_nil, ascii⟩⟩

/-- No digit is a sign. -/
theorem AreDigits.ne_cons_sign {digits rest : List Char} {sign : Char} (written : AreDigits digits)
    (signed : sign.isDigit = false) : digits ≠ sign :: rest := by
  rintro rfl
  rw [written.ascii sign List.mem_cons_self] at signed
  cases signed

theorem integer?_eq_some_iff : integer? text = some number ↔ Denotes text number := by
  constructor
  · intro read
    unfold integer? at read
    split at read
    · obtain ⟨value, natural, rfl⟩ := Option.map_eq_some_iff.mp read
      obtain ⟨written, rfl⟩ := natural?_eq_some_iff.mp natural
      exact .plus written
    · obtain ⟨value, natural, rfl⟩ := Option.map_eq_some_iff.mp read
      obtain ⟨written, rfl⟩ := natural?_eq_some_iff.mp natural
      exact .minus written
    · obtain ⟨value, natural, rfl⟩ := Option.map_eq_some_iff.mp read
      obtain ⟨written, rfl⟩ := natural?_eq_some_iff.mp natural
      exact .unsigned written
  · intro denotes
    cases denotes with
    | plus written | minus written =>
      rw [integer?, natural?_eq_some_iff.mpr ⟨written, rfl⟩]
      rfl
    | unsigned written =>
      rw [integer?, natural?_eq_some_iff.mpr ⟨written, rfl⟩]
      · rfl
      · exact fun _ => written.ne_cons_sign rfl
      · exact fun _ => written.ne_cons_sign rfl

/-- Reading gives exactly the integers of 64 bits that texts denote. -/
theorem int64?_eq_some_iff {written : String} {value : Int64} :
    int64? written = some value ↔ Denotes written.toList value.toInt := by
  unfold int64?
  simp only [Option.bind_eq_some_iff, Option.ite_none_right_eq_some, Option.some.injEq,
    integer?_eq_some_iff]
  constructor
  · rintro ⟨number, denotes, ⟨lower, upper⟩, rfl⟩
    rwa [Int64.toInt_ofInt_of_le lower (Int.lt_add_one_of_le upper)]
  · exact fun denotes => ⟨value.toInt, denotes, ⟨value.minValue_le_toInt, value.toInt_le⟩,
      Int64.ofInt_toInt value⟩

/-- The integers of 64 bits are those from -2^63 up to, but not including, 2^63. -/
theorem exists_denotes_toInt_iff :
    (∃ value : Int64, Denotes text value.toInt) ↔
      ∃ number, Denotes text number ∧ -2 ^ 63 ≤ number ∧ number < 2 ^ 63 := by
  constructor
  · rintro ⟨value, denotes⟩
    exact ⟨_, denotes, value.le_toInt, value.toInt_lt⟩
  · rintro ⟨number, denotes, lower, upper⟩
    refine ⟨.ofInt number, ?_⟩
    rwa [Int64.toInt_ofInt_of_le lower upper]

/-! ### Writing -/

theorem areDigits_toDigits (value : Nat) : AreDigits (Nat.toDigits 10 value) where
  ne_nil := Nat.toDigits_ne_nil
  ascii _ member := Nat.isDigit_of_mem_toDigits (by decide) (by decide) member

theorem toList_toString_natCast (value : Nat) :
    (toString (value : Int)).toList = Nat.toDigits 10 value :=
  Nat.toList_repr

theorem toList_toString_neg_succ (value : Nat) :
    (toString (-(value.succ : Int))).toList = '-' :: Nat.toDigits 10 value.succ := by
  change ("-" ++ value.succ.repr).toList = _
  rw [String.toList_append, Nat.toList_repr]
  rfl

/-- The decimal form of an integer denotes it. -/
theorem denotes_toString (number : Int) : Denotes (toString number).toList number := by
  have read (value : Nat) : Nat.ofDigitChars 10 (Nat.toDigits 10 value) 0 = value :=
    Nat.ofDigitChars_ten_toDigits
  cases number with
  | ofNat value =>
    have denotes := Denotes.unsigned (areDigits_toDigits value)
    rwa [read, ← toList_toString_natCast] at denotes
  | negSucc value =>
    have denotes := Denotes.minus (areDigits_toDigits value.succ)
    rwa [read, ← toList_toString_neg_succ] at denotes

theorem ofDigitChars_lt {digits : List Char} (ascii : ∀ char ∈ digits, char.isDigit = true)
    (initial : Nat) :
    Nat.ofDigitChars 10 digits initial < (initial + 1) * 10 ^ digits.length := by
  induction digits generalizing initial with
  | nil => simp [Nat.ofDigitChars]
  | cons digit rest ih =>
    obtain ⟨first, others⟩ := List.forall_mem_cons.mp ascii
    have upper : digit.toNat ≤ 57 := (Char.isDigit_iff_toNat.mp first).2
    have small : digit.toNat - '0'.toNat ≤ 9 := Nat.sub_le_of_le_add upper
    rw [Nat.ofDigitChars_cons, List.length_cons, Nat.pow_succ', ← Nat.mul_assoc]
    refine Nat.lt_of_lt_of_le (ih others _) (Nat.mul_le_mul_right _ ?_)
    omega

theorem AreDigits.length_toDigits_le {digits : List Char} (written : AreDigits digits) :
    (Nat.toDigits 10 (Nat.ofDigitChars 10 digits 0)).length ≤ digits.length := by
  have bound := ofDigitChars_lt written.ascii 0
  rw [Nat.zero_add, Nat.one_mul] at bound
  exact (Nat.length_toDigits_le_iff (by decide) (List.length_pos_iff.mpr written.ne_nil)).mpr bound

/-- No text that denotes an integer is shorter than its decimal form. -/
theorem Denotes.length_toString_le (denotes : Denotes text number) :
    (toString number).toList.length ≤ text.length := by
  cases denotes with
  | unsigned written =>
    rw [toList_toString_natCast]
    exact written.length_toDigits_le
  | plus written =>
    rw [toList_toString_natCast]
    exact Nat.le_succ_of_le written.length_toDigits_le
  | minus written =>
    have shorter := written.length_toDigits_le
    rw [List.length_cons]
    cases value : Nat.ofDigitChars 10 _ 0 with
    | zero =>
      -- A sign in front of zeros is dropped.
      rw [value] at shorter
      exact Nat.le_succ_of_le shorter
    | succ value' =>
      rw [value] at shorter
      rw [toList_toString_neg_succ, List.length_cons]
      exact Nat.succ_le_succ shorter

end Criteria.Text
