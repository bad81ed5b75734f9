/-
Exact reading of numbers. An integer in integer notation is read exactly. A number in any other notation is read as the
double nearest to it, so that it is read exactly if it is an integer that a double can be, or no integer and not nearly
one.
-/
import Overlay.Proofs.Number.Notation
import Overlay.Proofs.Number.Nearest

namespace Overlay

open Text

/-! ## Numbers read from doubles -/

namespace Value

/-- What a finite double is read as: the integer that it is, or the double. -/
def ofDouble (x : Double) : Value :=
  match x.toInt? with
  | some n => int n
  | none => double x

section Decimal

variable {raw : String} {x : Double} {v : ℚ}

/-- A number that is written with a point or an exponent is read through the double nearest to it. -/
theorem exists_rounded {q : ℚ} (hq : Token.Denotes (trimChars raw.toList) q)
    (hpoint : ¬ Token.isInteger (trimChars raw.toList)) (hle : |q| ≤ Double.greatest) :
    ∃ x, Double.Rounds q x ∧ readNumber raw = .ok (some (ofDouble x)) := by
  obtain ⟨negative, digits, power, hread, rfl⟩ := Token.decimal?_of_denotes hq
  have hrounds := Double.rounds_ofDecimal negative digits power hle
  refine ⟨_, hrounds, ?_⟩
  obtain ⟨m, -, hvalue⟩ := hrounds
  have hfinite : (Double.ofDecimal negative digits power).isFinite := by
    rcases hx : Double.ofDecimal negative digits power with _ | _ | _ <;> rw [hx] at hvalue
    · rfl
    · cases hvalue
    · cases hvalue
  unfold readNumber Token.double?
  dsimp only
  rw [if_neg hpoint, hread]
  simp only [Option.map_some, Option.bind_some, hfinite, if_true]
  rfl

theorem readInteger_of_int {n : ℤ} (h : readNumber raw = .ok (some (int n))) :
    readInteger raw = .ok (some (int n)) := by
  rw [readInteger, h]
  rfl

variable (hvalue : x.toRat? = some v) (hread : readNumber raw = .ok (some (ofDouble x)))

include hvalue hread

theorem readNumber_of_eq_int {n : ℤ} (hn : v = n) : readNumber raw = .ok (some (int n)) := by
  rw [hread, ofDouble, Double.toInt?_eq_some_iff.2 (by rw [hvalue, hn])]

theorem readNumber_of_ne_int (hne : ∀ n : ℤ, v ≠ n) : readNumber raw = .ok (some (double x)) := by
  rcases hint : x.toInt? with _ | n
  · rw [hread, ofDouble, hint]
  · have hv := Double.toInt?_eq_some_iff.1 hint
    rw [hvalue] at hv
    exact absurd (Option.some.inj hv) (hne n)

theorem readNumber_eq_int_iff {n : ℤ} : readNumber raw = .ok (some (int n)) ↔ v = n := by
  refine ⟨fun h => ?_, readNumber_of_eq_int hvalue hread⟩
  by_contra hne
  by_cases hint : ∃ k : ℤ, v = k
  · obtain ⟨k, hk⟩ := hint
    rw [readNumber_of_eq_int hvalue hread hk] at h
    cases h
    exact hne hk
  · push Not at hint
    rw [readNumber_of_ne_int hvalue hread hint] at h
    cases h

theorem readInteger_eq_none_iff : readInteger raw = .ok none ↔ ∀ n : ℤ, v ≠ n := by
  constructor
  · rintro h n hn
    rw [readInteger_of_int (readNumber_of_eq_int hvalue hread hn)] at h
    cases h
  · intro hne
    rw [readInteger, readNumber_of_ne_int hvalue hread hne]
    rfl

end Decimal

/-! ## Exact readings -/

/-- A text that denotes an integer is read as this integer, and one that denotes no integer is not read as one. -/
structure ReadsExactly (raw : String) (q : ℚ) : Prop where
  integer : ∀ n : ℤ, q = n → readNumber raw = .ok (some (int n)) ∧ readInteger raw = .ok (some (int n))
  fraction : (∀ n : ℤ, q ≠ n) → readInteger raw = .ok none

section Readings

variable {raw : String} {q : ℚ}

theorem readsExactly_of_notation {n : ℤ} (hn : Token.IntegerNotation (trimChars raw.toList) n)
    (hlong : ¬ Overlong (trimChars raw.toList)) : ReadsExactly raw n := by
  have hread : readNumber raw = .ok (some (int n)) := by
    unfold readNumber
    dsimp only
    rw [if_pos (Token.isInteger_iff.2 ⟨n, hn⟩), Token.readInteger_of_notation hn hlong]
    rfl
  constructor
  · intro k hk
    obtain rfl : n = k := by exact_mod_cast hk
    exact ⟨hread, readInteger_of_int hread⟩
  · intro hne
    exact absurd rfl (hne n)

/-- What is read through a double is read exactly if it is an integer that a double can be, or if no integer is within
half a unit in the last place. -/
theorem readsExactly_of_rounds {x : Double} {m : ℤ} (hround : Double.HalfEven (q / Double.unitAt q) m)
    (hle : |q| ≤ Double.greatest) (hvalue : x.toRat? = some (m * Double.unitAt q))
    (hread : readNumber raw = .ok (some (ofDouble x))) :
    ReadsExactly raw q ↔ (∃ n : ℤ, q = n) ∧ Double.Holds q ∨ ∀ n : ℤ, Double.unitAt q / 2 < |q - n| := by
  constructor
  · intro h
    by_cases hint : ∃ n : ℤ, q = n
    · obtain ⟨n, hn⟩ := hint
      have hv := (readNumber_eq_int_iff hvalue hread).1 (h.integer n hn).1
      refine .inl ⟨⟨n, hn⟩, ?_⟩
      rw [hn, ← hv]
      exact hround.holds hle
    · push Not at hint
      have hv := (readInteger_eq_none_iff hvalue hread).1 (h.fraction hint)
      refine .inr fun n => not_le.1 fun hnear => ?_
      obtain ⟨k, hk⟩ := hround.isInt_iff.2 ⟨n, hnear⟩
      exact hv k hk
  · rintro (⟨⟨n, hn⟩, hholds⟩ | hfar)
    · have hsame := hround.eq_of_holds hle hholds
      constructor
      · intro k hk
        have hint := readNumber_of_eq_int hvalue hread (hsame.trans hk)
        exact ⟨hint, readInteger_of_int hint⟩
      · intro hne
        exact absurd hn (hne n)
    · have hunit := Double.unitAt_pos q
      constructor
      · intro k hk
        have hself := hfar k
        rw [← hk, sub_self, abs_zero] at hself
        linarith
      · intro _
        refine (readInteger_eq_none_iff hvalue hread).2 fun k hk => ?_
        obtain ⟨n, hn⟩ := hround.isInt_iff.1 ⟨k, hk⟩
        exact absurd hn (not_le.2 (hfar n))

end Readings

/-- A number whose digits are not too many and that is smaller than the greatest double is read exactly if it is in
integer notation, or an integer that a double can be, or further than half a unit in the last place from all integers;
otherwise it is not. In any other notation than that of integers it is read as the double nearest to it. -/
theorem readsExactly_iff {raw : String} {q : ℚ} (hq : Token.Denotes (trimChars raw.toList) q)
    (hlong : ¬ Overlong (trimChars raw.toList)) (hsmall : |q| < Double.greatest) :
    (ReadsExactly raw q ↔ (∃ n, Token.IntegerNotation (trimChars raw.toList) n) ∨
      ((∃ n : ℤ, q = n) ∧ Double.Holds q) ∨ ∀ n : ℤ, Double.unitAt q / 2 < |q - n|) ∧
    ((¬ ∃ n, Token.IntegerNotation (trimChars raw.toList) n) →
      ∃ x v, x.toRat? = some v ∧ Double.Nearest q v ∧ (∀ n : ℤ, v = n → readNumber raw = .ok (some (int n))) ∧
        ((∀ n : ℤ, v ≠ n) → readNumber raw = .ok (some (double x)))) := by
  by_cases hnotation : ∃ n, Token.IntegerNotation (trimChars raw.toList) n
  · refine ⟨iff_of_true ?_ (.inl hnotation), fun h => absurd hnotation h⟩
    obtain ⟨n, hn⟩ := hnotation
    rw [hq.unique hn.denotes]
    exact readsExactly_of_notation hn hlong
  · have hpoint : ¬ Token.isInteger (trimChars raw.toList) := fun h => hnotation (Token.isInteger_iff.1 h)
    obtain ⟨x, ⟨m, hround, hvalue⟩, hread⟩ := exists_rounded hq hpoint hsmall.le
    constructor
    · rw [readsExactly_of_rounds hround hsmall.le hvalue hread]
      exact (or_iff_right hnotation).symm
    · intro _
      exact ⟨x, _, hvalue, hround.nearest_double hsmall.le, fun n => readNumber_of_eq_int hvalue hread,
        readNumber_of_ne_int hvalue hread⟩

/-! ## A number with an exponent, and two with points -/

theorem lt_greatest {q : ℚ} (h : |q| < 2 ^ 64) : |q| < Double.greatest := by
  have hpower : (2 : ℚ) ^ 64 ≤ 2 ^ Double.greatestExponent := by
    rw [← zpow_natCast]
    exact zpow_le_zpow_right₀ (by norm_num) (by decide)
  have hpos : (0 : ℚ) < 2 ^ Double.greatestExponent := zpow_pos (by norm_num) _
  unfold Double.greatest
  push_cast
  linarith

theorem denotes_thousand : Token.Denotes (trimChars " 1e3".toList) 1000 := by
  have hdigits : Token.Digits ['1'] := Token.isDigits_iff.1 (by decide)
  have hpower : Token.Digits ['3'] := Token.isDigits_iff.1 (by decide)
  have hmk := Token.Denotes.mk .none (.whole hdigits) (.power (.inl rfl) .none hpower)
  have hone : Token.digitsValue ['1'] = 1 := by decide
  have hthree : Double.withSign false (Token.digitsValue ['3']) = 3 := by decide
  convert hmk using 1
  · decide
  · rw [hone, hthree]
    norm_num

/-- A thousand is a double. -/
theorem readsExactly_iff_thousand :
    Token.Denotes (trimChars " 1e3".toList) 1000 ∧ ¬ Overlong (trimChars " 1e3".toList) ∧
    |(1000 : ℚ)| < Double.greatest ∧ Double.Holds 1000 ∧ ReadsExactly " 1e3" 1000 := by
  have hlong : ¬ Overlong (trimChars " 1e3".toList) := by
    rw [Token.overlong_iff]
    decide
  have hsmall : |(1000 : ℚ)| < Double.greatest := lt_greatest (by norm_num)
  have hholds : Double.Holds 1000 := ⟨1000, 0, by decide, by decide, by decide, by norm_num⟩
  exact ⟨denotes_thousand, hlong, hsmall, hholds,
    (readsExactly_iff denotes_thousand hlong hsmall).1.2 (.inr (.inl ⟨⟨1000, by norm_num⟩, hholds⟩))⟩

/-- The least positive integer that is no double, with a point after it. -/
def pointedInteger : String := "9007199254740993.0"

/-- A number next to one, nearer than doubles are. -/
def nearlyOne : String := "1.00000000000000000001"

theorem denotes_pointedInteger : Token.Denotes (trimChars pointedInteger.toList) 9007199254740993 := by
  have hdigits : Token.Digits ("9007199254740993".toList ++ ['0']) := Token.isDigits_iff.1 (by decide)
  have hmk := Token.Denotes.mk .none (.pointed hdigits) .none
  have hwhole : Token.digitsValue "9007199254740993".toList = 9007199254740993 := by decide
  have hzero : Token.digitsValue ['0'] = 0 := by decide
  convert hmk using 1
  · decide
  · rw [hwhole, hzero]
    norm_num

theorem denotes_nearlyOne : Token.Denotes (trimChars nearlyOne.toList) (1 + 1 / 10 ^ 20) := by
  have hdigits : Token.Digits (['1'] ++ "00000000000000000001".toList) := Token.isDigits_iff.1 (by decide)
  have hmk := Token.Denotes.mk .none (.pointed hdigits) .none
  have hone : Token.digitsValue ['1'] = 1 := by decide
  have hlast : Token.digitsValue "00000000000000000001".toList = 1 := by decide
  have hlength : "00000000000000000001".toList.length = 20 := by decide
  convert hmk using 1
  · decide
  · rw [hone, hlast, hlength]
    norm_num

/-- The first is read as the integer before it, and the second is read as one. -/
theorem not_readsExactly_pointed :
    (Token.Denotes (trimChars pointedInteger.toList) 9007199254740993 ∧ ¬ Overlong (trimChars pointedInteger.toList) ∧
      |(9007199254740993 : ℚ)| < Double.greatest ∧ ¬ ReadsExactly pointedInteger 9007199254740993) ∧
    (Token.Denotes (trimChars nearlyOne.toList) (1 + 1 / 10 ^ 20) ∧ ¬ Overlong (trimChars nearlyOne.toList) ∧
      |(1 + 1 / 10 ^ 20 : ℚ)| < Double.greatest ∧ ¬ ReadsExactly nearlyOne (1 + 1 / 10 ^ 20)) := by
  refine ⟨⟨denotes_pointedInteger, ?_, lt_greatest (by norm_num), fun h => ?_⟩,
    ⟨denotes_nearlyOne, ?_, lt_greatest (by norm_num), fun h => ?_⟩⟩
  · rw [Token.overlong_iff]
    decide
  · have hread : readNumber pointedInteger = .ok (some (int 9007199254740992)) := by decide +kernel
    have hexact := (h.integer 9007199254740993 (by norm_num)).1
    rw [hread] at hexact
    cases hexact
  · rw [Token.overlong_iff]
    decide
  · have hread : readInteger nearlyOne = .ok (some (int 1)) := by decide +kernel
    have hnone := h.fraction fun n hn => by
      have hlow : (1 : ℚ) < n := by rw [← hn]; norm_num
      have hhigh : (n : ℚ) < 2 := by rw [← hn]; norm_num
      have hlow' : 1 < n := by exact_mod_cast hlow
      have hhigh' : n < 2 := by exact_mod_cast hhigh
      omega
    rw [hread] at hnone
    cases hnone

end Value

end Overlay
