/-
The nearest double. No double is nearer to a rational than the one it is rounded to; a rational that is a double is
rounded to itself, and one that is no integer is rounded to an integer exactly if it is no further from it than half a
unit in the last place.
-/
import Overlay.Proofs.Number.Rounding

namespace Overlay

namespace Double

/-! ## Doubles as rationals -/

/-- A rational is a finite double. -/
def Holds (q : ℚ) : Prop :=
  ∃ k e : ℤ, |k| < 2 ^ 53 ∧ leastExponent ≤ e ∧ e ≤ greatestExponent ∧ q = k * 2 ^ e

theorem abs_sub_multiple (q : ℚ) (k : ℤ) : |q - k * unitAt q| = |q / unitAt q - k| * unitAt q := by
  have hunit := unitAt_pos q
  have hsplit : q - k * unitAt q = (q / unitAt q - k) * unitAt q := by
    rw [sub_mul, div_mul_cancel₀ _ hunit.ne']
  rw [hsplit, abs_mul, abs_of_pos hunit]

/-- A double is a multiple of the last place around a rational, or it is smaller than all doubles that have this last
place, to which the rational belongs. -/
theorem Holds.multiple_or_small {q w : ℚ} (hw : Holds w) (hq : q ≠ 0) :
    (∃ k : ℤ, w = k * unitAt q) ∨ |w| < 2 ^ 52 * unitAt q ∧ 2 ^ 52 * unitAt q ≤ |q| := by
  obtain ⟨k, e, hk, hleast, -, rfl⟩ := hw
  have habs : 0 < |q| := abs_pos.2 hq
  by_cases he : place q ≤ e
  · obtain ⟨d, hd⟩ := Int.eq_ofNat_of_zero_le (sub_nonneg.2 he)
    refine .inl ⟨k * 2 ^ d, ?_⟩
    rw [unitAt, show e = place q + d by omega, zpow_add₀ (by norm_num), zpow_natCast]
    push_cast
    ring
  · right
    have hplace : place q = Int.log 2 |q| - 52 := by
      unfold place at he ⊢
      omega
    have hkq : |(k : ℚ)| < 2 ^ 53 := by exact_mod_cast hk
    have hstep : (2 : ℚ) ^ e ≤ 2 ^ (place q - 1) := zpow_le_zpow_right₀ (by norm_num) (by omega)
    constructor
    · rw [abs_mul, abs_of_pos (zpow_pos (by norm_num : (0 : ℚ) < 2) e)]
      calc |(k : ℚ)| * 2 ^ e < 2 ^ 53 * 2 ^ e := mul_lt_mul_of_pos_right hkq (zpow_pos (by norm_num) e)
        _ ≤ 2 ^ 53 * 2 ^ (place q - 1) := by gcongr
        _ = 2 ^ 52 * unitAt q := by
          rw [unitAt, zpow_sub_one₀ (by norm_num)]
          ring
    · rw [unitAt, hplace, ← zpow_natCast, ← zpow_add₀ (by norm_num), zpow_le_iff habs]
      omega

section Rounded

variable {q : ℚ} {m : ℤ}

theorem abs_div_unitAt (q : ℚ) : |q / unitAt q| = |q| / unitAt q := by rw [abs_div, abs_of_pos (unitAt_pos q)]

theorem HalfEven.abs_le (hround : HalfEven (q / unitAt q) m) : |m| ≤ 2 ^ 53 := by
  refine hround.abs_le_of_abs_le ?_
  rw [abs_div_unitAt, div_le_iff₀ (unitAt_pos q)]
  rcases eq_or_ne q 0 with rfl | hq
  · simp [(unitAt_pos 0).le]
  have hlog : |q| < 2 ^ (53 + place q) := by
    rw [lt_zpow_iff (abs_pos.2 hq)]
    unfold place
    omega
  rw [zpow_add₀ (by norm_num)] at hlog
  exact_mod_cast hlog.le

/-- What is rounded is a double. -/
theorem HalfEven.holds (hround : HalfEven (q / unitAt q) m) (hle : |q| ≤ greatest) : Holds (m * unitAt q) := by
  have hbound := hround.abs_le
  have hplace := place_le hle
  rcases hbound.lt_or_eq with hfits | hcarry
  · exact ⟨m, place q, hfits, leastExponent_le_place q, hplace, rfl⟩
  -- a carry: the significand is halved, for which there is room
  have hroom : place q + 1 ≤ greatestExponent := by
    by_contra hfull
    have hlast : place q = greatestExponent := by omega
    have hsmall : |q / unitAt q| ≤ (2 ^ 53 - 1 : ℤ) := by
      rw [abs_div_unitAt, div_le_iff₀ (unitAt_pos q), unitAt, hlast]
      exact hle
    have hfits := hround.abs_le_of_abs_le hsmall
    omega
  obtain ⟨k, rfl⟩ : ∃ k, m = k * 2 := by
    rcases abs_choice m with h | h
    · exact ⟨2 ^ 52, by omega⟩
    · exact ⟨-2 ^ 52, by omega⟩
  refine ⟨k, place q + 1, ?_, by have := leastExponent_le_place q; omega, hroom, ?_⟩
  · rw [abs_mul, abs_two] at hcarry
    omega
  · rw [unitAt, zpow_add_one₀ (by norm_num)]
    push_cast
    ring

/-- The double nearest to a rational; of two that are equally near, the one that is an even multiple of the last
place. -/
structure Nearest (q v : ℚ) : Prop where
  holds : Holds v
  nearest : ∀ w, Holds w → |q - v| ≤ |q - w|
  even : ∀ w, Holds w → w ≠ v → |q - w| = |q - v| → ∃ m : ℤ, Even m ∧ v = m * unitAt q

/-- Doubles with a finer last place are further away. -/
theorem HalfEven.lt_of_small (hround : HalfEven (q / unitAt q) m) {w : ℚ} (hsmall : |w| < 2 ^ 52 * unitAt q)
    (hlarge : 2 ^ 52 * unitAt q ≤ |q|) : |q - m * unitAt q| < |q - w| := by
  have hfar : |q| - |w| ≤ |q - w| := abs_sub_abs_le_abs_sub q w
  -- the first multiple with this last place lies between
  obtain ⟨k, hk⟩ : ∃ k : ℤ, |q - k * unitAt q| = |q| - 2 ^ 52 * unitAt q := by
    rcases abs_choice q with h | h
    · refine ⟨2 ^ 52, ?_⟩
      rw [h] at hlarge ⊢
      push_cast
      exact abs_of_nonneg (by linarith)
    · refine ⟨-2 ^ 52, ?_⟩
      rw [h] at hlarge ⊢
      push_cast
      rw [abs_of_nonpos (by linarith)]
      ring
  have hnear : |q - m * unitAt q| ≤ |q - k * unitAt q| := by
    rw [abs_sub_multiple, abs_sub_multiple]
    exact mul_le_mul_of_nonneg_right (hround.nearest k) (unitAt_pos q).le
  linarith

theorem HalfEven.nearest_double (hround : HalfEven (q / unitAt q) m) (hle : |q| ≤ greatest) :
    Nearest q (m * unitAt q) := by
  have hunit := unitAt_pos q
  rcases eq_or_ne q 0 with rfl | hq
  · have hm : m = 0 := hround.eq_of_even (by simp) Even.zero
    subst hm
    exact ⟨hround.holds hle, fun w _ => by simp, fun w _ _ _ => ⟨0, Even.zero, rfl⟩⟩
  refine ⟨hround.holds hle, fun w hw => ?_, fun w hw hne htie => ⟨m, ?_, rfl⟩⟩
  · rcases hw.multiple_or_small hq with ⟨k, rfl⟩ | ⟨hsmall, hlarge⟩
    · rw [abs_sub_multiple, abs_sub_multiple]
      exact mul_le_mul_of_nonneg_right (hround.nearest k) hunit.le
    · exact (hround.lt_of_small hsmall hlarge).le
  · rcases hw.multiple_or_small hq with ⟨k, rfl⟩ | ⟨hsmall, hlarge⟩
    · rw [abs_sub_multiple, abs_sub_multiple] at htie
      exact hround.even_of_tie (fun h => hne (h ▸ rfl)) (mul_right_cancel₀ hunit.ne' htie)
    · exact absurd htie (hround.lt_of_small hsmall hlarge).ne'

/-- A double is rounded to itself. -/
theorem HalfEven.eq_of_holds (hround : HalfEven (q / unitAt q) m) (hle : |q| ≤ greatest) (hq : Holds q) :
    m * unitAt q = q := by
  have hnear := (hround.nearest_double hle).nearest q hq
  rw [sub_self, abs_zero, abs_nonpos_iff] at hnear
  linarith

/-- What is rounded is an integer exactly if an integer is no further than half a unit in the last place. -/
theorem HalfEven.isInt_iff (hround : HalfEven (q / unitAt q) m) :
    (∃ n : ℤ, m * unitAt q = n) ↔ ∃ n : ℤ, |q - n| ≤ unitAt q / 2 := by
  have hunit := unitAt_pos q
  constructor
  · rintro ⟨n, hn⟩
    refine ⟨n, ?_⟩
    rw [← hn, abs_sub_multiple]
    have hnear := mul_le_mul_of_nonneg_right hround.near hunit.le
    linarith
  · rintro ⟨n, hn⟩
    by_cases hplace : 0 ≤ place q
    · -- all multiples of the last place are integers
      obtain ⟨d, hd⟩ := Int.eq_ofNat_of_zero_le hplace
      refine ⟨m * 2 ^ d, ?_⟩
      rw [unitAt, hd, zpow_natCast]
      push_cast
      rfl
    · -- integers are even multiples of the last place
      obtain ⟨d, hd⟩ : ∃ d : ℕ, place q = -(d + 1 : ℕ) := ⟨(-place q - 1).toNat, by omega⟩
      have hone : ((2 : ℚ) ^ (d + 1)) * unitAt q = 1 := by
        rw [unitAt, hd, zpow_neg, zpow_natCast]
        exact mul_inv_cancel₀ (by positivity)
      have hmultiple : ((n * 2 ^ (d + 1) : ℤ) : ℚ) * unitAt q = n := by
        push_cast
        rw [mul_assoc, hone, mul_one]
      have hm : m = n * 2 ^ (d + 1) := by
        refine hround.eq_of_even ?_ (Even.mul_left (Even.pow_of_ne_zero even_two (by omega)) n)
        rw [← hmultiple, abs_sub_multiple] at hn
        refine le_of_mul_le_mul_right ?_ hunit
        linarith
      exact ⟨n, by rw [hm, hmultiple]⟩

end Rounded

end Double

end Overlay
