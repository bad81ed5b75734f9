/-
Numerals that are too long. Of all texts only those stop a reading that are an integer of more digits than are read,
once blanks at the ends and a unit after it are gone; every other text gives a number or nothing.
-/
import Overlay.Proofs.Run
import Overlay.Style.Resolve
import Mathlib.Tactic.SplitIfs

namespace Overlay

open Text

/-- A sign, or none, and more digits than are read. -/
def Overlong (token : List Char) : Prop := ∃ sign ds, token = sign ++ ds ∧ sign ∈ [[], ['+'], ['-']] ∧
  (∀ c ∈ ds, Token.isDigit c) ∧ Token.digitLimit < ds.length

/-- The reading ends in a failure. -/
def Fails {ε α : Type} (x : Except ε α) : Prop := ∃ e, x = .error e

@[simp] theorem not_fails_ok {ε α : Type} (a : α) : ¬ Fails (.ok a : Except ε α) := nofun

theorem fails_error {ε α : Type} (e : ε) : Fails (.error e : Except ε α) := ⟨e, rfl⟩

@[simp] theorem fails_map {ε α β : Type} {x : Except ε α} {f : α → β} : Fails (x.map f) ↔ Fails x := by
  rcases x with e | a
  · exact iff_of_true (fails_error e) (fails_error e)
  · exact iff_of_false (not_fails_ok _) (not_fails_ok a)

namespace Token

theorem splitSign_of_digit {c : Char} (h : isDigit c) (cs : List Char) : splitSign (c :: cs) = (false, c :: cs) := by
  unfold splitSign
  split
  · rename_i heq
    cases heq
    cases h
  · rename_i heq
    cases heq
    cases h
  · rfl

theorem splitSign_suffix (token : List Char) : (splitSign token).2 <:+ token := by
  unfold splitSign
  split
  · exact List.suffix_cons ..
  · exact List.suffix_cons ..
  · exact List.suffix_rfl

/-- A token is a sign and the rest of it. -/
theorem exists_sign (token : List Char) : ∃ sign ∈ [[], ['+'], ['-']], token = sign ++ (splitSign token).2 := by
  unfold splitSign
  split
  · exact ⟨['-'], by simp, rfl⟩
  · exact ⟨['+'], by simp, rfl⟩
  · exact ⟨[], by simp, rfl⟩

theorem overlong_iff {token : List Char} :
    Overlong token ↔ isInteger token ∧ digitLimit < (splitSign token).2.length := by
  constructor
  · rintro ⟨sign, ds, rfl, hsign, hdigits, hlong⟩
    have hsplit : (splitSign (sign ++ ds)).2 = ds := by
      simp only [List.mem_cons, List.not_mem_nil, or_false] at hsign
      rcases hsign with rfl | rfl | rfl
      · rcases ds with _ | ⟨c, cs⟩
        · rfl
        · exact congrArg Prod.snd (splitSign_of_digit (hdigits c (by simp)) cs)
      · rfl
      · rfl
    have hne : ds ≠ [] := by
      rintro rfl
      simp at hlong
    unfold isInteger isDigits
    rw [hsplit]
    simp only [Bool.and_eq_true, List.all_eq_true]
    exact ⟨⟨by simpa using hne, hdigits⟩, hlong⟩
  · rintro ⟨hinteger, hlong⟩
    obtain ⟨sign, hsign, htoken⟩ := exists_sign token
    unfold isInteger isDigits at hinteger
    simp only [Bool.and_eq_true, List.all_eq_true] at hinteger
    exact ⟨sign, _, htoken, hsign, hinteger.2, hlong⟩

theorem fails_readInteger {token : List Char} :
    Fails (readInteger token) ↔ digitLimit < (splitSign token).2.length := by
  unfold readInteger readDigits
  dsimp only
  rw [fails_map]
  split_ifs with hlong
  · exact iff_of_true (fails_error _) hlong
  · exact iff_of_false (not_fails_ok _) hlong

theorem fails_integer? {token : List Char} : Fails (integer? token) ↔ Overlong token := by
  rw [overlong_iff]
  unfold integer?
  split_ifs with hinteger
  · rw [fails_map, fails_readInteger]
    exact (and_iff_right hinteger).symm
  · exact iff_of_false (not_fails_ok _) fun h => hinteger h.1

end Token

namespace Value

theorem fails_readNumber {raw : String} : Fails (readNumber raw) ↔ Overlong (trimChars raw.toList) := by
  rw [Token.overlong_iff]
  unfold readNumber
  dsimp only
  split_ifs with hinteger
  · rw [fails_map, Token.fails_readInteger]
    exact (and_iff_right hinteger).symm
  · exact iff_of_false (not_fails_ok _) fun h => hinteger h.1

end Value

/-- The kinds that read numbers fail on a numeral that is too long, and no kind fails on any other text. -/
theorem Kind.fails_readValue {kind : Kind} {raw : String} :
    Fails (kind.readValue raw) ↔ (kind = .numberField ∨ kind = .slider) ∧ Overlong (trimChars raw.toList) := by
  cases kind with
  | numberField => simpa [readValue] using Value.fails_readNumber
  | slider =>
    unfold readValue Value.readInteger
    rw [fails_map]
    simpa using Value.fails_readNumber
  | _ => exact iff_of_false (not_fails_ok _) (by simp)

/-! ## Tokens of properties -/

/-- What is read of the value of a property: the text without blanks and without a unit at its end. -/
def unitless (raw : String) : List Char := trimChars (dropPx (trimChars raw.toList))

theorem fails_readPixels {raw : String} : Fails (readPixels raw) ↔ Overlong (unitless raw) := Token.fails_integer?

theorem fails_readSize {raw : String} : Fails (readSize raw) ↔ Overlong (unitless raw) := by
  unfold readSize unitless
  rw [fails_map, Value.fails_readNumber, String.toList_ofList]

/-- Some words are integers up to one that is too long. -/
def FirstOverlong (ts : List String) : Prop := ∃ before t after, ts = before ++ t :: after ∧
  (∀ u ∈ before, ∃ n, readPixels u = .ok (some n)) ∧ Overlong (unitless t)

theorem fails_readAllPixels : ∀ {ts : List String}, Fails (readAllPixels ts) ↔ FirstOverlong ts
  | [] => iff_of_false (not_fails_ok _) fun ⟨before, t, after, h, _⟩ => by simp at h
  | t :: ts => by
    have hsplit : FirstOverlong (t :: ts) ↔
        Overlong (unitless t) ∨ (∃ n, readPixels t = .ok (some n)) ∧ FirstOverlong ts := by
      constructor
      · rintro ⟨before, u, after, h, hbefore, hlong⟩
        rcases before with _ | ⟨v, before⟩
        · cases h
          exact .inl hlong
        · cases h
          exact .inr ⟨hbefore _ (by simp), before, u, after, rfl, fun w hw => hbefore w (by simp [hw]), hlong⟩
      · rintro (hlong | ⟨hfirst, before, u, after, rfl, hbefore, hlong⟩)
        · exact ⟨[], t, ts, rfl, nofun, hlong⟩
        · refine ⟨t :: before, u, after, rfl, fun w hw => ?_, hlong⟩
          rcases List.mem_cons.1 hw with rfl | hw
          · exact hfirst
          · exact hbefore w hw
    rw [hsplit, ← fails_readPixels]
    unfold readAllPixels
    rcases readPixels t with e | _ | n
    · exact iff_of_true (fails_error e) (.inl (fails_error e))
    · refine iff_of_false (not_fails_ok _) ?_
      rintro (hlong | ⟨⟨n, hn⟩, -⟩)
      · exact not_fails_ok _ hlong
      · cases hn
    · have hrest : Fails (readAllPixels ts) ↔ FirstOverlong ts := fails_readAllPixels
      have hfirst : ∃ m, (.ok (some n) : Reading Int) = .ok (some m) := ⟨n, rfl⟩
      simp only [not_fails_ok, hfirst, false_or, true_and]
      rw [← hrest]
      rcases readAllPixels ts with e | ns
      · exact iff_of_true (fails_error e) (fails_error e)
      · exact iff_of_false (not_fails_ok _) (not_fails_ok _)

theorem fails_readPadding {value : String} :
    Fails (readPadding value) ↔ FirstOverlong ((words value.toList).map String.ofList) := by
  unfold readPadding
  rw [fails_map, fails_readAllPixels]

/-! ## One digit more than are read -/

def nines : String := String.ofList (List.replicate (Token.digitLimit + 1) '9')

theorem toList_nines : nines.toList = List.replicate (Token.digitLimit + 1) '9' := String.toList_ofList

theorem overlong_replicate {n : Nat} (h : Token.digitLimit < n) : Overlong (List.replicate n '9') := by
  refine ⟨[], _, rfl, List.mem_cons_self .., ?_, by rwa [List.length_replicate]⟩
  intro c hc
  rw [List.eq_of_mem_replicate hc]
  decide

end Overlay
