/-
The notations of numbers. A number is written as a sign, if any, digits with at most one point, and an exponent, if
any; integer notation has neither point nor exponent. Each text in one of the notations denotes one rational, and the
readers of tokens take it apart into a sign, digits and a power of ten that come to this rational.
-/
import Overlay.Proofs.Number.Overlong
import Overlay.Proofs.Number.Range
import Mathlib.Tactic.FieldSimp
import Mathlib.Tactic.Ring

namespace Overlay

namespace Token

/-! ## Notations -/

/-- What may stand in front of digits, and whether it is a minus. -/
inductive Sign : List Char → Bool → Prop
  | none : Sign [] false
  | plus : Sign ['+'] false
  | minus : Sign ['-'] true

/-- At least one character, and only digits. -/
def Digits (ds : List Char) : Prop := ds ≠ [] ∧ ∀ c ∈ ds, isDigit c

/-- Integer notation, and the integer that is written. -/
inductive IntegerNotation : List Char → ℤ → Prop
  | mk {sign ds : List Char} {negative : Bool} (hsign : Sign sign negative) (hds : Digits ds) :
    IntegerNotation (sign ++ ds) (Double.withSign negative (digitsValue ds))

/-- Digits with at most one point among or around them, and the number that is written. -/
inductive Mantissa : List Char → ℚ → Prop
  | whole {ds : List Char} (hds : Digits ds) : Mantissa ds (digitsValue ds)
  | pointed {ds fs : List Char} (hds : Digits (ds ++ fs)) :
    Mantissa (ds ++ '.' :: fs) (digitsValue ds + digitsValue fs / 10 ^ fs.length)

/-- An exponent or nothing, and the power of ten that is written. -/
inductive Exponent : List Char → ℤ → Prop
  | none : Exponent [] 0
  | power {mark : Char} {sign ds : List Char} {negative : Bool} (hmark : mark = 'e' ∨ mark = 'E')
    (hsign : Sign sign negative) (hds : Digits ds) :
    Exponent (mark :: (sign ++ ds)) (Double.withSign negative (digitsValue ds))

/-- Decimal notation, of which integer notation is a part, and the rational that is written. -/
inductive Denotes : List Char → ℚ → Prop
  | mk {sign cs es : List Char} {negative : Bool} {a : ℚ} {p : ℤ} (hsign : Sign sign negative)
    (hmantissa : Mantissa cs a) (hexponent : Exponent es p) :
    Denotes (sign ++ (cs ++ es)) ((if negative then -a else a) * 10 ^ p)

/-! ## Signs and digits -/

theorem isDigits_iff {ds : List Char} : isDigits ds ↔ Digits ds := by
  unfold isDigits Digits
  simp

theorem Digits.head_isDigit {c : Char} {ds : List Char} (h : Digits (c :: ds)) : isDigit c :=
  h.2 c (List.mem_cons_self ..)

/-- What does not begin with a sign is left by taking a sign away. -/
theorem splitSign_append {sign rest : List Char} {negative : Bool} (hsign : Sign sign negative)
    (hrest : ∀ c cs, rest = c :: cs → c ≠ '+' ∧ c ≠ '-') : splitSign (sign ++ rest) = (negative, rest) := by
  cases hsign with
  | none =>
    rcases rest with _ | ⟨c, cs⟩
    · rfl
    · obtain ⟨hplus, hminus⟩ := hrest c cs rfl
      simp [splitSign, hplus, hminus]
  | plus => rfl
  | minus => rfl

theorem not_sign_of_isDigit {c : Char} (h : isDigit c) : c ≠ '+' ∧ c ≠ '-' := by
  constructor <;> rintro rfl <;> cases h

theorem splitSign_digits {sign ds : List Char} {negative : Bool} (hsign : Sign sign negative) (hds : Digits ds) :
    splitSign (sign ++ ds) = (negative, ds) := by
  refine splitSign_append hsign fun c cs hcons => ?_
  subst hcons
  exact not_sign_of_isDigit hds.head_isDigit

/-- The digits of a longer run count tenfold for each digit that follows. -/
theorem foldl_digits (ds : List Char) : ∀ n : Nat, ds.foldl (fun n c => 10 * n + (c.toNat - '0'.toNat)) n =
    n * 10 ^ ds.length + digitsValue ds := by
  unfold digitsValue
  induction ds with
  | nil => simp
  | cons c ds ih =>
    intro n
    rw [List.foldl_cons, List.foldl_cons, ih, ih (10 * 0 + _), List.length_cons]
    ring

theorem digitsValue_append (ds fs : List Char) :
    digitsValue (ds ++ fs) = digitsValue ds * 10 ^ fs.length + digitsValue fs := by
  rw [← foldl_digits, digitsValue, List.foldl_append]
  rfl

/-! ## Integer notation -/

theorem isInteger_iff {token : List Char} : isInteger token ↔ ∃ n, IntegerNotation token n := by
  constructor
  · intro h
    have hds : Digits (splitSign token).2 := isDigits_iff.1 h
    obtain ⟨sign, hsign, htoken⟩ := exists_sign token
    rw [htoken]
    simp only [List.mem_cons, List.not_mem_nil, or_false] at hsign
    rcases hsign with rfl | rfl | rfl
    · exact ⟨_, .mk .none hds⟩
    · exact ⟨_, .mk .plus hds⟩
    · exact ⟨_, .mk .minus hds⟩
  · rintro ⟨_, ⟨hsign, hds⟩⟩
    unfold isInteger
    rw [splitSign_digits hsign hds]
    exact isDigits_iff.2 hds

/-- An integer that is short enough is read as it is written. -/
theorem readInteger_of_notation {token : List Char} {n : ℤ} (h : IntegerNotation token n) (hlong : ¬ Overlong token) :
    readInteger token = .ok n := by
  have hinteger : isInteger token := isInteger_iff.2 ⟨n, h⟩
  rw [overlong_iff, not_and, Nat.not_lt] at hlong
  have hshort := hlong hinteger
  cases h with
  | mk hsign hds =>
    unfold readInteger readDigits
    rw [splitSign_digits hsign hds] at hshort ⊢
    dsimp only at hshort ⊢
    rw [if_neg (Nat.not_lt.2 hshort)]
    rfl

/-- A token is read as an integer exactly if it is one in integer notation and not too long. -/
theorem integer?_eq_some_iff {token : List Char} {n : ℤ} :
    integer? token = .ok (some n) ↔ IntegerNotation token n ∧ ¬ Overlong token := by
  by_cases hinteger : isInteger token
  · rw [integer?, if_pos hinteger]
    obtain ⟨m, hm⟩ := isInteger_iff.1 hinteger
    by_cases hlong : Overlong token
    · obtain ⟨e, he⟩ := fails_readInteger.2 (overlong_iff.1 hlong).2
      rw [he]
      exact iff_of_false nofun fun h => h.2 hlong
    · have hread := readInteger_of_notation hm hlong
      rw [hread]
      constructor
      · rintro ⟨⟩
        exact ⟨hm, hlong⟩
      · rintro ⟨hn, -⟩
        rw [← hread, readInteger_of_notation hn hlong]
        rfl
  · rw [integer?, if_neg hinteger]
    exact iff_of_false nofun fun h => hinteger (isInteger_iff.2 ⟨n, h.1⟩)

theorem IntegerNotation.denotes {token : List Char} {n : ℤ} (h : IntegerNotation token n) : Denotes token n := by
  cases h with
  | @mk sign ds negative hsign hds =>
    have hmk := Denotes.mk hsign (.whole hds) .none
    rw [List.append_nil] at hmk
    convert hmk using 1
    cases negative <;> simp [Double.withSign]

/-! ## Decimal notation -/

/-- An exponent begins neither with a digit nor with a point. -/
theorem Exponent.head {es : List Char} {p : ℤ} (h : Exponent es p) {c : Char} {cs : List Char} (hes : es = c :: cs) :
    isDigit c = false ∧ c ≠ '.' := by
  cases h with
  | none => cases hes
  | power hmark =>
    cases hes
    rcases hmark with rfl | rfl <;> decide

theorem exponent?_of_exponent {es : List Char} {p : ℤ} (h : Exponent es p) : exponent? es = some p := by
  cases h with
  | none => rfl
  | power hmark hsign hds =>
    rcases hmark with rfl | rfl <;> simp [exponent?, splitSign_digits hsign hds, isDigits_iff.2 hds]

/-- Digits end where something stands that is no digit. -/
theorem span_digits {ds rest : List Char} (hds : ∀ c ∈ ds, isDigit c)
    (hrest : ∀ c cs, rest = c :: cs → isDigit c = false) :
    (ds ++ rest).takeWhile isDigit = ds ∧ (ds ++ rest).dropWhile isDigit = rest := by
  rw [List.takeWhile_append_of_pos hds, List.dropWhile_append_of_pos hds]
  rcases rest with _ | ⟨c, cs⟩
  · simp
  · simp [hrest c cs rfl]

/-- Decimal notation is taken apart into what it denotes. -/
theorem decimal?_of_denotes {token : List Char} {q : ℚ} (h : Denotes token q) : ∃ negative digits power,
    decimal? token = some (negative, digits, power) ∧ q = Double.withSign negative digits * 10 ^ power := by
  cases h with
  | @mk sign cs es negative a p hsign hmantissa hexponent =>
    have hes : ∀ c cs, es = c :: cs → isDigit c = false := fun c cs h => (hexponent.head h).1
    cases hmantissa with
    | whole hds =>
      refine ⟨negative, digitsValue cs, p, ?_, by cases negative <;> simp [Double.withSign]⟩
      obtain ⟨hwhole, hrest⟩ := span_digits hds.2 hes
      have hsplit : splitSign (sign ++ (cs ++ es)) = (negative, cs ++ es) := by
        refine splitSign_append hsign fun c tail hcons => ?_
        obtain ⟨d, ds, rfl⟩ := List.exists_cons_of_ne_nil hds.1
        cases hcons
        exact not_sign_of_isDigit hds.head_isDigit
      have hpoint : ∀ tail, es ≠ '.' :: tail := fun tail h => (hexponent.head h).2 rfl
      have hne : cs.isEmpty = false := by simpa using hds.1
      unfold decimal?
      rw [hsplit]
      dsimp only
      rw [hwhole, hrest]
      split
      · exact absurd rfl (hpoint _)
      · simp [hne, exponent?_of_exponent hexponent]
    | @pointed ds fs hds =>
      refine ⟨negative, digitsValue (ds ++ fs), p - fs.length, ?_, ?_⟩
      · have hdigits : ∀ c ∈ ds, isDigit c := fun c h => hds.2 c (List.mem_append_left fs h)
        have hfraction : ∀ c ∈ fs, isDigit c := fun c h => hds.2 c (List.mem_append_right ds h)
        have hdot : ∀ c cs, '.' :: (fs ++ es) = c :: cs → isDigit c = false := by
          rintro c cs ⟨⟩
          decide
        obtain ⟨hwhole, hrest⟩ := span_digits hdigits hdot
        obtain ⟨hread, hpower⟩ := span_digits hfraction hes
        have hsplit : splitSign (sign ++ (ds ++ '.' :: fs ++ es)) = (negative, ds ++ '.' :: (fs ++ es)) := by
          rw [List.append_assoc, List.cons_append]
          refine splitSign_append hsign fun c tail hcons => ?_
          rcases ds with _ | ⟨d, ds⟩
          · cases hcons
            decide
          · cases hcons
            exact not_sign_of_isDigit (hdigits _ (List.mem_cons_self ..))
        have hne : (ds.isEmpty && fs.isEmpty) = false := by simpa using hds.1
        unfold decimal?
        rw [hsplit]
        dsimp only
        rw [hwhole, hrest]
        simp [hread, hpower, hne, exponent?_of_exponent hexponent]
      · have hten : (10 : ℚ) ^ (p - fs.length) = 10 ^ p / 10 ^ fs.length := by
          rw [zpow_sub₀ (by decide), zpow_natCast]
        rw [digitsValue_append, hten]
        cases negative <;> simp [Double.withSign] <;> field_simp

/-- A text denotes one rational only. -/
theorem Denotes.unique {token : List Char} {q q' : ℚ} (h : Denotes token q) (h' : Denotes token q') : q = q' := by
  obtain ⟨negative, digits, power, hread, rfl⟩ := decimal?_of_denotes h
  obtain ⟨negative', digits', power', hread', rfl⟩ := decimal?_of_denotes h'
  rw [hread] at hread'
  cases hread'
  rfl

end Token

end Overlay
