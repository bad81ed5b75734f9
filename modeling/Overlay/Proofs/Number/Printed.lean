/-
Printed integers. An integer is printed in integer notation, with a sign only if it is negative, so it reads back where
its digits are not too many.
-/
import Overlay.Proofs.Number.Notation

namespace Overlay.Token

theorem digits_toDigits (n : Nat) : Digits (Nat.toDigits 10 n) := by
  refine ⟨Nat.toDigits_ne_nil, fun c hc => ?_⟩
  have hdigit : c.isDigit := Nat.isDigit_of_mem_toDigits (by omega) (by omega) hc
  simp only [Char.isDigit, Bool.and_eq_true, decide_eq_true_eq] at hdigit
  simp only [isDigit, Bool.and_eq_true, decide_eq_true_eq]
  exact hdigit

theorem digitsValue_toDigits (n : Nat) : digitsValue (Nat.toDigits 10 n) = n :=
  Nat.ofDigitChars_toDigits (by omega) (by omega)

theorem toList_toString_of_nonneg {n : ℤ} (h : 0 ≤ n) : (toString n).toList = Nat.toDigits 10 n.natAbs := by
  rw [Int.toString_eq_repr, Int.repr_eq_if, if_pos h, Nat.toList_repr]
  congr 1
  omega

theorem toList_toString_of_neg {n : ℤ} (h : n < 0) : (toString n).toList = '-' :: Nat.toDigits 10 n.natAbs := by
  rw [Int.toString_eq_repr, Int.repr_eq_if, if_neg (by omega), String.toList_append, Nat.toList_repr]
  have habs : (-n).toNat = n.natAbs := by omega
  rw [habs]
  rfl

/-- An integer is printed in integer notation. -/
theorem integerNotation_toString (n : ℤ) : IntegerNotation (toString n).toList n := by
  have hvalue := digitsValue_toDigits n.natAbs
  by_cases hn : 0 ≤ n
  · have hsigned : Double.withSign false (digitsValue (Nat.toDigits 10 n.natAbs)) = n := by
      rw [hvalue]
      simp [Double.withSign, abs_of_nonneg hn]
    rw [toList_toString_of_nonneg hn]
    conv_rhs => rw [← hsigned]
    exact .mk .none (digits_toDigits _)
  · have hneg : n < 0 := by omega
    have hsigned : Double.withSign true (digitsValue (Nat.toDigits 10 n.natAbs)) = n := by
      rw [hvalue]
      simp [Double.withSign, abs_of_neg hneg]
    rw [toList_toString_of_neg hneg]
    conv_rhs => rw [← hsigned]
    exact .mk .minus (digits_toDigits _)

/-- The digits of a printed integer are those of its absolute value. -/
theorem splitSign_toString (n : ℤ) : (splitSign (toString n).toList).2 = Nat.toDigits 10 n.natAbs := by
  by_cases hn : 0 ≤ n
  · rw [toList_toString_of_nonneg hn]
    exact congrArg Prod.snd (splitSign_digits .none (digits_toDigits n.natAbs))
  · rw [toList_toString_of_neg (by omega)]
    exact congrArg Prod.snd (splitSign_digits .minus (digits_toDigits n.natAbs))

/-- A printed integer reads back, if it has no more digits than are read. -/
theorem integer?_toString {n : ℤ} (h : (Nat.toDigits 10 n.natAbs).length ≤ digitLimit) :
    integer? (toString n).toList = .ok (some n) := by
  refine integer?_eq_some_iff.2 ⟨integerNotation_toString n, ?_⟩
  rw [overlong_iff, splitSign_toString]
  omega

end Overlay.Token
