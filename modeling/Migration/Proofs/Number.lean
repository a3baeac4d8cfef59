import Migration.Number.Integer
import Migration.Text.Blank

/-!
# Decimal digits

Numbers are read back from the digits that they are written with, and 64-bit integers from their
texts over the whole range.
-/

namespace Migration.Number

/-! ## Digits -/

theorem toNat_of_isDigit {c : Char} (digit : c.isDigit) : 48 ≤ c.toNat ∧ c.toNat ≤ 57 := by
  have range : '0'.val ≤ c.val ∧ c.val ≤ '9'.val := by simpa [Char.isDigit] using digit
  exact ⟨UInt32.le_iff_toNat_le.mp range.1, UInt32.le_iff_toNat_le.mp range.2⟩

theorem not_isBlank_of_isDigit {c : Char} (digit : c.isDigit) : Text.isBlank c = false := by
  have range := toNat_of_isDigit digit
  exact Text.isBlank_eq_false (by omega) (by omega)

theorem toLower_of_isDigit {c : Char} (digit : c.isDigit) : c.toLower = c := by
  have notCapital : ¬ (c.val ≥ 'A'.val ∧ c.val ≤ 'Z'.val) := by
    intro capital
    have low : 65 ≤ c.toNat := UInt32.le_iff_toNat_le.mp capital.1
    have range := toNat_of_isDigit digit
    omega
  exact dif_neg notCapital

/-! ## Numbers and their digits -/

theorem isDigits_iff {s : List Char} : isDigits s ↔ s ≠ [] ∧ ∀ c ∈ s, c.isDigit := by
  simp [isDigits]

theorem isDigit_of_mem_toDigits {n : Nat} {c : Char} (member : c ∈ Nat.toDigits 10 n) :
    c.isDigit :=
  Nat.isDigit_of_mem_toDigits (by decide) (by decide) member

theorem isDigits_toDigits (n : Nat) : isDigits (Nat.toDigits 10 n) :=
  isDigits_iff.mpr ⟨Nat.toDigits_ne_nil, fun _ => isDigit_of_mem_toDigits⟩

theorem ofDigits_toDigits (n : Nat) : ofDigits (Nat.toDigits 10 n) = n := by
  have same := @Nat.ofDigitChars_ten_toDigits n
  rwa [Nat.ofDigitChars_eq_foldl] at same

/-- No digit is a sign. -/
theorem takeSign_of_isDigits {s : List Char} (areDigits : isDigits s) :
    takeSign s = (false, s) := by
  have digits := (isDigits_iff.mp areDigits).2
  unfold takeSign
  split
  · exact absurd (digits '-' List.mem_cons_self) (by decide)
  · exact absurd (digits '+' List.mem_cons_self) (by decide)
  · rfl

/-! ## Integers and their texts -/

theorem toList_repr (n : Int) :
    n.repr.toList = (if n < 0 then ['-'] else []) ++ Nat.toDigits 10 n.natAbs := by
  rw [Int.repr_eq_if]
  split
  next natural =>
    rw [if_neg (Int.not_lt.mpr natural), List.nil_append, Nat.toList_repr,
      show n.toNat = n.natAbs by omega]
  next negative =>
    rw [if_pos (Int.not_le.mp negative), String.toList_append, Nat.toList_repr,
      show (-n).toNat = n.natAbs by omega]
    rfl

theorem readInt64?_repr (n : Int64) : readInt64? n.toInt.repr.toList = some n := by
  have areDigits := isDigits_toDigits n.toInt.natAbs
  rw [toList_repr, readInt64?]
  by_cases negative : n.toInt < 0
  · have size : -(n.toInt.natAbs : Int) = n.toInt := by omega
    rw [if_pos negative, List.singleton_append]
    simp only [takeSign, areDigits, ofDigits_toDigits, size, fit64?_toInt, if_true]
  · have size : (n.toInt.natAbs : Int) = n.toInt := by omega
    rw [if_neg negative, List.nil_append, takeSign_of_isDigits areDigits]
    simp only [areDigits, ofDigits_toDigits, size, fit64?_toInt, if_true, Bool.false_eq_true,
      if_false]

end Migration.Number
