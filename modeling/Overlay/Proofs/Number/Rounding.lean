/-
Correct rounding. The double that is read for a decimal is a multiple of the last place that doubles have around it,
and the multiple is the integer nearest to the quotient, the even one of two that are equally near.
-/
import Overlay.Proofs.Number.Range
import Mathlib.Algebra.Order.Field.Power
import Mathlib.Algebra.Ring.Int.Parity
import Mathlib.Data.Int.Log
import Mathlib.Data.Rat.Floor
import Mathlib.Tactic.FieldSimp
import Mathlib.Tactic.Linarith
import Mathlib.Tactic.NormNum
import Mathlib.Tactic.Positivity
import Mathlib.Tactic.Ring

namespace Overlay

namespace Double

/-! ## Half to even -/

/-- An integer is the one nearest to a rational; of two that are equally near, it is the even one. -/
structure HalfEven (x : ℚ) (m : ℤ) : Prop where
  near : |x - m| ≤ 1 / 2
  even : |x - m| = 1 / 2 → Even m

namespace HalfEven

variable {x : ℚ} {m : ℤ}

theorem neg (h : HalfEven x m) : HalfEven (-x) (-m) := by
  have hdist : |-x - (-m : ℤ)| = |x - m| := by
    rw [← abs_neg]
    congr 1
    push_cast
    ring
  constructor
  · rw [hdist]
    exact h.near
  · rw [hdist, even_neg]
    exact h.even

/-- Integers that differ are at least one apart. -/
theorem one_le_of_ne {k : ℤ} (hk : k ≠ m) : 1 ≤ |x - m| + |x - k| := by
  have hint : (1 : ℤ) ≤ |k - m| := Int.one_le_abs (sub_ne_zero.2 hk)
  have hrat : (1 : ℚ) ≤ |(k : ℚ) - m| := by exact_mod_cast hint
  calc (1 : ℚ) ≤ |(k : ℚ) - m| := hrat
    _ = |(x - m) - (x - k)| := by congr 1; ring
    _ ≤ |x - m| + |x - k| := abs_sub _ _

theorem nearest (h : HalfEven x m) (k : ℤ) : |x - m| ≤ |x - k| := by
  by_cases hk : k = m
  · rw [hk]
  · have hnear := h.near
    have hapart := one_le_of_ne (x := x) hk
    linarith

/-- Rounding passes no integer. -/
theorem le_of_le (h : HalfEven x m) {k : ℤ} (hx : x ≤ k) : m ≤ k := by
  by_contra hlt
  have hgap : (k : ℚ) + 1 ≤ m := by exact_mod_cast not_le.1 hlt
  have hnear := (abs_le.1 h.near).1
  linarith

theorem abs_le_of_abs_le (h : HalfEven x m) {k : ℤ} (hx : |x| ≤ k) : |m| ≤ k := by
  obtain ⟨hlow, hhigh⟩ := abs_le.1 hx
  refine abs_le.2 ⟨?_, h.le_of_le hhigh⟩
  have hneg := h.neg.le_of_le (k := k) (by linarith)
  omega

/-- Another integer that is equally near leaves the even one. -/
theorem even_of_tie (h : HalfEven x m) {k : ℤ} (hk : k ≠ m) (htie : |x - k| = |x - m|) : Even m := by
  have hnear := h.near
  have hapart := one_le_of_ne (x := x) hk
  exact h.even (by linarith)

/-- An even integer within a half is the nearest one. -/
theorem eq_of_even (h : HalfEven x m) {k : ℤ} (hk : |x - k| ≤ 1 / 2) (heven : Even k) : m = k := by
  by_contra hne
  have hnear := h.near
  have hapart := one_le_of_ne (x := x) (Ne.symm hne)
  have hm : Even m := h.even (by linarith)
  -- two even integers are at least two apart
  obtain ⟨a, rfl⟩ := hm
  obtain ⟨b, rfl⟩ := heven
  have hint : (2 : ℤ) ≤ |a + a - (b + b)| := by
    rw [le_abs]
    omega
  have hrat : (2 : ℚ) ≤ |((a + a : ℤ) : ℚ) - (b + b : ℤ)| := by exact_mod_cast hint
  have htriangle : |((a + a : ℤ) : ℚ) - (b + b : ℤ)| ≤ |x - (b + b : ℤ)| + |x - (a + a : ℤ)| := by
    calc |((a + a : ℤ) : ℚ) - (b + b : ℤ)| = |(x - (b + b : ℤ)) - (x - (a + a : ℤ))| := by congr 1; ring
      _ ≤ _ := abs_sub _ _
  linarith

end HalfEven

/-- Division rounds half to even. -/
theorem halfEven_roundDiv (n : Nat) {d : Nat} (hd : 0 < d) : HalfEven ((n : ℚ) / d) (roundDiv n d : ℤ) := by
  have hdq : (0 : ℚ) < d := by exact_mod_cast hd
  have hsplit : (n : ℚ) / d = (n / d : ℕ) + (n % d : ℕ) / d := by
    rw [div_eq_iff hdq.ne', add_mul, div_mul_cancel₀ _ hdq.ne']
    exact_mod_cast (Nat.div_add_mod' n d).symm
  have hrest : (0 : ℚ) ≤ (n % d : ℕ) / d := by positivity
  have hrest' : ((n % d : ℕ) : ℚ) / d < 1 := (div_lt_one hdq).2 (by exact_mod_cast Nat.mod_lt n hd)
  have hhalf : ((n % d : ℕ) : ℚ) / d < 1 / 2 ↔ 2 * (n % d) < d := by
    rw [div_lt_div_iff₀ hdq (by norm_num), one_mul, mul_comm]
    exact_mod_cast Iff.rfl
  have htie : ((n % d : ℕ) : ℚ) / d = 1 / 2 ↔ 2 * (n % d) = d := by
    rw [div_eq_div_iff hdq.ne' (by norm_num), one_mul, mul_comm]
    exact_mod_cast Iff.rfl
  have hbelow : (n : ℚ) / d - ((n / d : ℕ) : ℤ) = (n % d : ℕ) / d := by
    rw [hsplit, Int.cast_natCast]
    ring
  have habove : (n : ℚ) / d - ((n / d + 1 : ℕ) : ℤ) = (n % d : ℕ) / d - 1 := by
    rw [hsplit, Int.cast_natCast, Nat.cast_add_one]
    ring
  unfold roundDiv
  dsimp only
  split
  · rename_i hdown
    rw [Bool.or_eq_true, Bool.and_eq_true, decide_eq_true_eq, beq_iff_eq, beq_iff_eq] at hdown
    constructor
    · rw [hbelow, abs_of_nonneg hrest]
      rcases hdown with h | h
      · exact (hhalf.2 h).le
      · exact (htie.2 h.1).le
    · rw [hbelow, abs_of_nonneg hrest, htie]
      intro h
      have heven : n / d % 2 = 0 := by omega
      exact_mod_cast Nat.even_iff.2 heven
  · rename_i hup
    rw [Bool.or_eq_true, Bool.and_eq_true, decide_eq_true_eq, beq_iff_eq, beq_iff_eq] at hup
    rw [← hhalf, ← htie] at hup
    have hge : (1 : ℚ) / 2 ≤ (n % d : ℕ) / d := not_lt.1 fun h => hup (.inl h)
    constructor
    · rw [habove, abs_of_nonpos (by linarith)]
      linarith
    · rw [habove, abs_of_nonpos (by linarith)]
      intro h
      have hodd : n / d % 2 ≠ 0 := fun heven => hup (.inr ⟨by linarith, heven⟩)
      have heven : Even (n / d + 1) := by
        rw [Nat.even_iff]
        omega
      exact_mod_cast heven

/-! ## The last place -/

/-- The exponent of the last place of the doubles around a rational. -/
def place (q : ℚ) : ℤ := max (Int.log 2 |q| - 52) leastExponent

/-- The distance of the doubles around a rational. -/
def unitAt (q : ℚ) : ℚ := 2 ^ place q

/-- The greatest finite double. -/
def greatest : ℚ := (2 ^ 53 - 1 : ℤ) * 2 ^ greatestExponent

theorem unitAt_pos (q : ℚ) : 0 < unitAt q := zpow_pos (by norm_num) _

theorem unitAt_neg (q : ℚ) : unitAt (-q) = unitAt q := by
  unfold unitAt place
  rw [abs_neg]

theorem leastExponent_le_place (q : ℚ) : leastExponent ≤ place q := le_max_right ..

/-- A power of two is at most a positive rational exactly if its exponent is at most the logarithm. -/
theorem zpow_le_iff {r : ℚ} (hr : 0 < r) (e : ℤ) : (2 : ℚ) ^ e ≤ r ↔ e ≤ Int.log 2 r := by
  exact_mod_cast Int.zpow_le_iff_le_log (b := 2) (by decide) hr

theorem lt_zpow_iff {r : ℚ} (hr : 0 < r) (e : ℤ) : r < (2 : ℚ) ^ e ↔ Int.log 2 r < e := by
  rw [← not_le, zpow_le_iff hr, not_le]

theorem log_ratio {n d : Nat} (hn : 0 < n) (hd : 0 < d) :
    (n.log2 : ℤ) - d.log2 - 1 ≤ Int.log 2 ((n : ℚ) / d) ∧ Int.log 2 ((n : ℚ) / d) ≤ (n.log2 : ℤ) - d.log2 := by
  have hdq : (0 : ℚ) < d := by exact_mod_cast hd
  have hr : (0 : ℚ) < (n : ℚ) / d := by positivity
  have hnlow : (2 : ℚ) ^ (n.log2 : ℤ) ≤ n := by exact_mod_cast Nat.log2_self_le hn.ne'
  have hnhigh : (n : ℚ) < 2 ^ ((n.log2 : ℤ) + 1) := by exact_mod_cast Nat.lt_log2_self (n := n)
  have hdlow : (2 : ℚ) ^ (d.log2 : ℤ) ≤ d := by exact_mod_cast Nat.log2_self_le hd.ne'
  have hdhigh : (d : ℚ) < 2 ^ ((d.log2 : ℤ) + 1) := by exact_mod_cast Nat.lt_log2_self (n := d)
  constructor
  · rw [← zpow_le_iff hr, le_div_iff₀ hdq]
    calc (2 : ℚ) ^ ((n.log2 : ℤ) - d.log2 - 1) * d
        ≤ 2 ^ ((n.log2 : ℤ) - d.log2 - 1) * 2 ^ ((d.log2 : ℤ) + 1) := by gcongr
      _ = 2 ^ (n.log2 : ℤ) := by rw [← zpow_add₀ (by norm_num)]; congr 1; ring
      _ ≤ n := hnlow
  · rw [← Int.lt_add_one_iff, ← lt_zpow_iff hr, div_lt_iff₀ hdq]
    calc (n : ℚ) < 2 ^ ((n.log2 : ℤ) + 1) := hnhigh
      _ = 2 ^ ((n.log2 : ℤ) - d.log2 + 1) * 2 ^ (d.log2 : ℤ) := by rw [← zpow_add₀ (by norm_num)]; congr 1; ring
      _ ≤ 2 ^ ((n.log2 : ℤ) - d.log2 + 1) * d := by gcongr

theorem scale_pos (n : Nat) {d : Nat} (hd : 0 < d) (e : ℤ) : 0 < (scale n d e).2 := by
  unfold scale
  split
  · exact Nat.mul_pos hd (twoTo_pos e)
  · exact hd

theorem scale_eq (n d : Nat) (e : ℤ) : ((scale n d e).1 : ℚ) / (scale n d e).2 = (n : ℚ) / d / 2 ^ e := by
  unfold scale
  split
  · rename_i he
    push_cast
    rw [cast_twoTo he, div_div]
  · rename_i he
    push_cast
    rw [cast_twoTo (by omega), zpow_neg]
    field_simp

/-- The exponent at which a ratio is rounded is that of the last place. -/
theorem exponentOf_eq {n d : Nat} (hn : 0 < n) (hd : 0 < d) : exponentOf n d = place ((n : ℚ) / d) := by
  have hdq : (0 : ℚ) < d := by exact_mod_cast hd
  have hr : (0 : ℚ) < (n : ℚ) / d := by positivity
  obtain ⟨hlow, hhigh⟩ := log_ratio hn hd
  unfold exponentOf place
  dsimp only
  rw [abs_of_pos hr]
  generalize hL : (n.log2 : ℤ) - d.log2 = L at *
  generalize he : max (L - 52) leastExponent = e
  have hquotient : (scale n d e).1 / (scale n d e).2 < twoTo 52 ↔ Int.log 2 ((n : ℚ) / d) < e + 52 := by
    have hscale := scale_pos n hd e
    have hscaleq : (0 : ℚ) < (scale n d e).2 := by exact_mod_cast hscale
    rw [Nat.div_lt_iff_lt_mul hscale, ← lt_zpow_iff hr, add_comm, zpow_add₀ (by norm_num),
      ← div_lt_iff₀ (zpow_pos (by norm_num) e), ← scale_eq, div_lt_iff₀ hscaleq]
    unfold twoTo
    exact_mod_cast Iff.rfl
  simp only [Bool.and_eq_true, decide_eq_true_eq, hquotient]
  split <;> omega

/-! ## Reading ratios -/

theorem greatest_lt : greatest < 2 ^ (1024 : ℤ) := by
  have hsplit : (2 : ℚ) ^ (1024 : ℤ) = 2 ^ 53 * 2 ^ greatestExponent := by
    rw [show (1024 : ℤ) = (53 : ℕ) + greatestExponent from rfl, zpow_add₀ (by norm_num), zpow_natCast]
  rw [hsplit]
  unfold greatest
  have hpos : (0 : ℚ) < 2 ^ greatestExponent := zpow_pos (by norm_num) _
  exact mul_lt_mul_of_pos_right (by norm_num) hpos

theorem place_le {q : ℚ} (hle : |q| ≤ greatest) : place q ≤ greatestExponent := by
  unfold place leastExponent greatestExponent
  rcases eq_or_ne q 0 with rfl | hq
  · simp
  have hlog : Int.log 2 |q| < 1024 := (lt_zpow_iff (abs_pos.2 hq) 1024).1 (lt_of_le_of_lt hle greatest_lt)
  omega

/-- A ratio that finite doubles reach is read as the multiple of the last place nearest to it. -/
theorem ofRatio_value (negative : Bool) {n d : Nat} (hn : 0 < n) (hd : 0 < d) (hle : (n : ℚ) / d ≤ greatest) :
    ∃ m : ℕ, HalfEven ((n : ℚ) / d / unitAt ((n : ℚ) / d)) m ∧
      (ofRatio negative n d).toRat? = some (withSign negative m * unitAt ((n : ℚ) / d)) := by
  have hdq : (0 : ℚ) < d := by exact_mod_cast hd
  have hr : (0 : ℚ) < (n : ℚ) / d := by positivity
  have hplace := place_le (by rwa [abs_of_pos hr])
  unfold ofRatio unitAt
  rw [if_neg hn.ne', exponentOf_eq hn hd]
  dsimp only
  generalize he : place ((n : ℚ) / d) = e at *
  have hround := halfEven_roundDiv (scale n d e).1 (scale_pos n hd e)
  rw [scale_eq] at hround
  generalize roundDiv (scale n d e).1 (scale n d e).2 = m at *
  refine ⟨m, hround, ?_⟩
  by_cases hcarry : m = twoTo 53
  · rw [if_pos hcarry]
    -- at the greatest exponent a carry would pass the greatest double
    have hroom : e + 1 ≤ greatestExponent := by
      by_contra hfull
      have hlast : e = greatestExponent := by omega
      have hbound : (n : ℚ) / d / 2 ^ e ≤ (2 ^ 53 - 1 : ℤ) := by
        rw [div_le_iff₀ (zpow_pos (by norm_num) e), hlast]
        exact hle
      have hfits := hround.le_of_le hbound
      rw [hcarry] at hfits
      revert hfits
      decide
    rw [if_neg (by simpa using hroom), hcarry]
    have hdouble : twoTo 53 = twoTo 52 * 2 := by decide
    have hvalue : ((withSign negative (twoTo 53) : ℤ) : ℚ) * 2 ^ e = withSign negative (twoTo 52) * 2 ^ (e + 1) := by
      rw [hdouble, withSign_mul, zpow_add_one₀ (by norm_num)]
      push_cast
      ring
    rw [hvalue]
    rfl
  · rw [if_neg hcarry, if_neg (by simpa using hplace)]
    rfl

/-! ## Reading decimals -/

theorem tenTo_pos (p : ℤ) : 0 < tenTo p := Nat.pow_pos (by decide)

theorem cast_tenTo {p : ℤ} (h : 0 ≤ p) : (tenTo p : ℚ) = 10 ^ p := by
  obtain ⟨n, rfl⟩ := Int.eq_ofNat_of_zero_le h
  rw [tenTo, Int.toNat_natCast, zpow_natCast]
  exact_mod_cast rfl

theorem zpow_digitCount {n : Nat} (hn : 0 < n) :
    (10 : ℚ) ^ ((digitCount n : ℤ) - 1) ≤ n ∧ (n : ℚ) < 10 ^ (digitCount n : ℤ) := by
  have hcount : digitCount n = (Nat.toDigits 10 n).length := if_neg hn.ne'
  have hpos : 0 < digitCount n := hcount ▸ Nat.length_toDigits_pos
  constructor
  · obtain ⟨k, hk⟩ : ∃ k, digitCount n = k + 1 := ⟨digitCount n - 1, by omega⟩
    rw [hk, Nat.cast_succ, add_sub_cancel_right, zpow_natCast]
    rcases Nat.eq_zero_or_pos k with rfl | hk'
    · rw [pow_zero]
      exact_mod_cast hn
    · by_contra hlt
      have hlt' : n < 10 ^ k := by exact_mod_cast not_le.1 hlt
      have hshort := (Nat.length_toDigits_le_iff (b := 10) (by decide) hk').2 hlt'
      omega
  · rw [zpow_natCast]
    have hlt := (Nat.length_toDigits_le_iff (b := 10) (k := digitCount n) (by decide) hpos).1 hcount.ge
    exact_mod_cast hlt

/-- A rational nearer to zero than half the least double is read as zero. -/
theorem halfEven_zero {r : ℚ} (hr : 0 < r) (hsmall : r < 2 ^ (-1075 : ℤ)) : HalfEven (r / unitAt r) 0 := by
  have hlog : Int.log 2 r < -1075 := (lt_zpow_iff hr (-1075)).1 hsmall
  have hplace : place r = -1074 := by
    unfold place leastExponent
    rw [abs_of_pos hr]
    omega
  have hunit : unitAt r = 2 * 2 ^ (-1075 : ℤ) := by
    rw [unitAt, hplace, show (-1074 : ℤ) = 1 + -1075 from rfl, zpow_one_add₀ (by norm_num)]
  refine ⟨?_, fun _ => Even.zero⟩
  rw [Int.cast_zero, sub_zero, abs_of_pos (div_pos hr (unitAt_pos r)), div_le_iff₀ (unitAt_pos r), hunit]
  linarith

theorem ten_pow_bounds : (10 : ℚ) ^ (-401 : ℤ) < 2 ^ (-1075 : ℤ) ∧ (2 : ℚ) ^ (1024 : ℤ) < 10 ^ (400 : ℤ) := by
  have hsmall : (2 : ℕ) ^ 1075 < 10 ^ 401 := by decide +kernel
  have hlarge : (2 : ℕ) ^ 1024 < 10 ^ 400 := by decide +kernel
  constructor
  · rw [zpow_neg, zpow_neg]
    refine inv_strictAnti₀ (zpow_pos (by norm_num) _) ?_
    exact_mod_cast hsmall
  · exact_mod_cast hlarge

/-- A decimal that finite doubles reach is read as the multiple of the last place nearest to it, also where the number
of its digits settles it. -/
theorem ofDecimal_value (negative : Bool) (digits : Nat) (power : ℤ) (hle : (digits : ℚ) * 10 ^ power ≤ greatest) :
    ∃ m : ℕ, HalfEven ((digits : ℚ) * 10 ^ power / unitAt (digits * 10 ^ power)) m ∧
      (ofDecimal negative digits power).toRat? =
        some (withSign negative m * unitAt ((digits : ℚ) * 10 ^ power)) := by
  rcases Nat.eq_zero_or_pos digits with rfl | hdigits
  · refine ⟨0, ?_, ?_⟩
    · constructor <;> simp
    · cases negative <;> simp [ofDecimal, toRat?, withSign]
  have hdq : (0 : ℚ) < digits := by exact_mod_cast hdigits
  have hten : (0 : ℚ) < 10 ^ power := zpow_pos (by norm_num) power
  have hr : (0 : ℚ) < digits * 10 ^ power := mul_pos hdq hten
  obtain ⟨hlow, hhigh⟩ := zpow_digitCount hdigits
  obtain ⟨hten_small, hten_large⟩ := ten_pow_bounds
  unfold ofDecimal
  dsimp only
  split
  · rename_i hclamp
    have hplaces : (digitCount digits : ℤ) + power ≤ -401 := by
      simp only [Bool.or_eq_true, decide_eq_true_eq] at hclamp
      omega
    have hsmall : (digits : ℚ) * 10 ^ power < 2 ^ (-1075 : ℤ) := by
      calc (digits : ℚ) * 10 ^ power < 10 ^ (digitCount digits : ℤ) * 10 ^ power := by gcongr
        _ = 10 ^ ((digitCount digits : ℤ) + power) := (zpow_add₀ (by norm_num) _ _).symm
        _ ≤ 10 ^ (-401 : ℤ) := zpow_le_zpow_right₀ (by norm_num) hplaces
        _ < 2 ^ (-1075 : ℤ) := hten_small
    refine ⟨0, by exact_mod_cast halfEven_zero hr hsmall, ?_⟩
    cases negative <;> simp [toRat?, withSign]
  split
  · rename_i hclamp
    -- so many digits pass the greatest double
    have hlarge : (2 : ℚ) ^ (1024 : ℤ) < digits * 10 ^ power := by
      calc (2 : ℚ) ^ (1024 : ℤ) < 10 ^ (400 : ℤ) := hten_large
        _ ≤ 10 ^ ((digitCount digits : ℤ) - 1 + power) := zpow_le_zpow_right₀ (by norm_num) (by omega)
        _ = 10 ^ ((digitCount digits : ℤ) - 1) * 10 ^ power := zpow_add₀ (by norm_num) _ _
        _ ≤ digits * 10 ^ power := by gcongr
    have hgreatest := greatest_lt
    linarith
  split
  · rename_i hpower
    have hratio : ((digits * tenTo power : ℕ) : ℚ) / (1 : ℕ) = digits * 10 ^ power := by
      rw [Nat.cast_mul, cast_tenTo hpower, Nat.cast_one, div_one]
    have hvalue := ofRatio_value negative (n := digits * tenTo power) (d := 1)
      (Nat.mul_pos hdigits (tenTo_pos power)) Nat.one_pos
    rw [hratio] at hvalue
    exact hvalue hle
  · rename_i hpower
    have hratio : (digits : ℚ) / (tenTo (-power) : ℕ) = digits * 10 ^ power := by
      rw [cast_tenTo (by omega), zpow_neg, div_inv_eq_mul]
    have hvalue := ofRatio_value negative hdigits (tenTo_pos (-power))
    rw [hratio] at hvalue
    exact hvalue hle

/-- A double is the multiple of the last place around a rational that is nearest to it. -/
def Rounds (q : ℚ) (x : Double) : Prop :=
  ∃ m : ℤ, HalfEven (q / unitAt q) m ∧ x.toRat? = some (m * unitAt q)

/-- A decimal that finite doubles reach is rounded. -/
theorem rounds_ofDecimal (negative : Bool) (digits : Nat) (power : ℤ)
    (hle : |(withSign negative digits : ℚ) * 10 ^ power| ≤ greatest) :
    Rounds (withSign negative digits * 10 ^ power) (ofDecimal negative digits power) := by
  have hten : (0 : ℚ) < 10 ^ power := zpow_pos (by norm_num) power
  have hr : (0 : ℚ) ≤ digits * 10 ^ power := by positivity
  cases negative with
  | false =>
    have hq : (withSign false digits : ℚ) * 10 ^ power = digits * 10 ^ power := by simp [withSign]
    rw [hq, abs_of_nonneg hr] at hle
    obtain ⟨m, hround, hvalue⟩ := ofDecimal_value false digits power hle
    rw [hq]
    exact ⟨m, hround, hvalue⟩
  | true =>
    have hq : (withSign true digits : ℚ) * 10 ^ power = -(digits * 10 ^ power) := by simp [withSign]
    rw [hq, abs_neg, abs_of_nonneg hr] at hle
    obtain ⟨m, hround, hvalue⟩ := ofDecimal_value true digits power hle
    rw [hq]
    refine ⟨-m, ?_, ?_⟩
    · rw [unitAt_neg, neg_div]
      exact hround.neg
    · rw [unitAt_neg]
      exact hvalue

end Double

end Overlay
