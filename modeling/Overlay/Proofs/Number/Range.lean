/-
The values that kinds read from raw texts. A slider gives integers; a number field gives integers and finite
doubles that equal no integer, since every other one is read as the integer; a checkbox gives truth values and
a text field texts. What a double equals is said in rationals.
-/
import Overlay.Proofs.Run
import Mathlib.Algebra.Field.Rat
import Mathlib.Data.Rat.Cast.Defs

namespace Overlay

namespace Double

/-! ## Doubles as rationals -/

/-- The rational that a finite double is. -/
def toRat? : Double → Option ℚ
  | finite negative m e => some (withSign negative m * (2 : ℚ) ^ e)
  | _ => none

theorem withSign_mul (negative : Bool) (m k : Nat) : withSign negative (m * k) = withSign negative m * k := by
  cases negative <;> simp [withSign]

theorem natAbs_withSign (negative : Bool) (m : Nat) : (withSign negative m).natAbs = m := by
  cases negative <;> simp [withSign]

theorem twoTo_pos (e : Int) : 0 < twoTo e := Nat.pow_pos (by decide)

theorem cast_twoTo {e : Int} (h : 0 ≤ e) : (twoTo e : ℚ) = (2 : ℚ) ^ e := by
  have hpow : (twoTo e : ℚ) = (2 : ℚ) ^ e.toNat := by
    unfold twoTo
    exact_mod_cast rfl
  rw [hpow, ← zpow_natCast, Int.toNat_of_nonneg h]

/-- With an exponent that is not negative the value is an integer. -/
theorem value_of_nonneg (negative : Bool) (m : Nat) {e : Int} (he : 0 ≤ e) :
    (withSign negative m : ℚ) * (2 : ℚ) ^ e = (withSign negative (m * twoTo e) : ℤ) := by
  rw [← cast_twoTo he, withSign_mul]
  push_cast
  rfl

/-- With a negative exponent the denominator may be cleared, and then both sides are integers. -/
theorem value_eq_int_iff (k : ℤ) {e : Int} (he : e < 0) (n : ℤ) :
    (k : ℚ) * (2 : ℚ) ^ e = n ↔ k = n * twoTo (-e) := by
  have hscale : (2 : ℚ) ^ e * (twoTo (-e) : ℚ) = 1 := by
    rw [cast_twoTo (by omega), ← zpow_add₀ (by decide)]
    simp
  have hne : (twoTo (-e) : ℚ) ≠ 0 := by
    have := twoTo_pos (-e)
    exact_mod_cast this.ne'
  rw [← mul_left_inj' hne, mul_assoc, hscale, mul_one]
  exact_mod_cast Iff.rfl

/-- A significand divides without a rest exactly if it is a multiple of the denominator. -/
theorem withSign_eq_mul_iff (negative : Bool) (m : Nat) {d : Nat} (hd : 0 < d) (n : ℤ) :
    withSign negative m = n * d ↔ m % d = 0 ∧ withSign negative (m / d) = n := by
  have hne : (d : ℤ) ≠ 0 := by exact_mod_cast hd.ne'
  constructor
  · intro h
    have habs := congrArg Int.natAbs h
    rw [natAbs_withSign, Int.natAbs_mul, Int.natAbs_natCast] at habs
    have hmod : m % d = 0 := by
      rw [habs]
      exact Nat.mul_mod_left _ _
    refine ⟨hmod, ?_⟩
    have hsplit := withSign_mul negative (m / d) d
    rw [Nat.div_mul_cancel (Nat.dvd_of_mod_eq_zero hmod), h] at hsplit
    exact (mul_left_inj' hne).1 hsplit.symm
  · rintro ⟨hmod, rfl⟩
    rw [← withSign_mul, Nat.div_mul_cancel (Nat.dvd_of_mod_eq_zero hmod)]

/-- A double that is read as an integer is that integer, and every double that is an integer is read as it. -/
theorem toInt?_eq_some_iff {x : Double} {n : ℤ} : x.toInt? = some n ↔ x.toRat? = some (n : ℚ) := by
  rcases x with ⟨negative, m, e⟩ | negative | _
  · simp only [toInt?, toRat?, Option.some.injEq]
    by_cases he : 0 ≤ e
    · rw [if_pos he, Option.some.injEq, value_of_nonneg negative m he]
      exact_mod_cast Iff.rfl
    · rw [if_neg he, value_eq_int_iff _ (by omega), withSign_eq_mul_iff negative m (twoTo_pos (-e))]
      by_cases hm : m % twoTo (-e) = 0
      · simp [hm]
      · simp [hm]
  · simp [toInt?, toRat?]
  · simp [toInt?, toRat?]

end Double

/-! ## Ranges -/

/-- The values that a kind may report. -/
def Kind.InRange : Kind → Value → Prop
  | .slider, .int _ => True
  | .numberField, .int _ => True
  | .numberField, .double x => ∃ q, x.toRat? = some q ∧ ∀ n : ℤ, q ≠ n
  | .checkbox, .bool _ => True
  | .textField, .text _ => True
  | _, _ => False

/-- Reading a number gives an integer, or a double that is finite and no integer. -/
theorem readNumber_inRange {raw : String} {v : Value} (h : Value.readNumber raw = .ok (some v)) :
    Kind.numberField.InRange v := by
  unfold Value.readNumber at h
  dsimp only at h
  split at h
  · obtain ⟨n, -, hn⟩ := map_eq_ok h
    cases hn
    trivial
  · obtain ⟨x, -, hx⟩ := Option.bind_eq_some_iff.1 (Except.ok.inj h)
    split at hx
    · rename_i hfinite
      rcases hint : x.toInt? with _ | n <;> rw [hint] at hx <;> cases hx
      · obtain ⟨q, hq⟩ : ∃ q, x.toRat? = some q := by
          rcases x with ⟨negative, m, e⟩ | _ | _
          · exact ⟨_, rfl⟩
          · cases hfinite
          · cases hfinite
        refine ⟨q, hq, ?_⟩
        rintro n rfl
        rw [Double.toInt?_eq_some_iff.2 hq] at hint
        cases hint
      · trivial
    · cases hx

/-- What a kind reads from a raw text lies in its range; kinds that report nothing read nothing. -/
theorem Kind.readValue_inRange {kind : Kind} {raw : String} {v : Value} (h : kind.readValue raw = .ok (some v)) :
    kind.InRange v := by
  cases kind with
  | group => cases h
  | button => cases h
  | label => cases h
  | textField =>
    cases h
    trivial
  | numberField => exact readNumber_inRange h
  | slider =>
    obtain ⟨r, -, hr⟩ := map_eq_ok h
    rcases r with _ | ⟨n⟩ | _ | _ | _ <;> cases hr
    trivial
  | checkbox =>
    have h' : (if _ then some (Value.bool true) else if _ then some (Value.bool false) else none) = some v :=
      Except.ok.inj h
    split at h'
    · cases h'
      trivial
    · split at h' <;> cases h'
      trivial

end Overlay
