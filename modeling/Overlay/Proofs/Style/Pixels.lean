/-
Lengths in pixels. A length is written as an integer with a unit after it or without one; blanks may stand around it and
in front of the unit. The readers of lengths, sizes and numbers take blanks and units away at different places, and
still read the same integer from the same text.
-/
import Overlay.Proofs.Number.Exact
import Overlay.Proofs.Text.Cutting

namespace Overlay

namespace Text

/-! ## Letters in lower case -/

theorem toNat_ofNat_or (n : Nat) : (Char.ofNat n).toNat = n ∨ Char.ofNat n = '\x00' := by
  by_cases h : n.isValidChar
  · left
    rw [Char.ofNat, dif_pos h]
    rfl
  · right
    rw [Char.ofNat, dif_neg h]
    rfl

/-- Lower case works from the front: what it makes of the end of a text depends on what stands before only through the
letters there. -/
theorem lowerAfter_append (before cs ds : List Char) :
    ∃ front, lowerAfter before (cs ++ ds) = front ++ lowerAfter (cs.reverse ++ before) ds := by
  induction cs generalizing before with
  | nil => exact ⟨[], rfl⟩
  | cons c cs ih =>
    obtain ⟨front, hfront⟩ := ih (c :: before)
    have hcontext : (c :: cs).reverse ++ before = cs.reverse ++ c :: before := by simp
    rw [List.cons_append, lowerAfter, hfront, hcontext, ← List.append_assoc]
    exact ⟨_, rfl⟩

/-- Only the two letters of the unit and their capitals come to the letters of the unit, and they come to nothing
else. -/
theorem mapCase_eq_letter {c d : Char} {front : List Char} (hd : d = 'p' ∨ d = 'x')
    (h : mapCase lowerRows lowerSequences c = front ++ [d]) : front = [] ∧ (c = d ∨ c.toNat + 32 = d.toNat) := by
  -- of all rows the capitals of ASCII alone lead to where the two letters stand
  have hrows : ∀ r ∈ lowerRows,
      (r.last ≤ 0x5A ∧ r.shift = 32) ∨ r.last + r.shift < 0x70 ∨ 0x78 < r.first + r.shift := by
    decide +kernel
  have hrange : 0x70 ≤ d.toNat ∧ d.toNat ≤ 0x78 := by
    rcases hd with rfl | rfl <;> decide
  have hone : ∀ e : Char, [e] = front ++ [d] → front = [] ∧ e = d := by
    intro e he
    rcases List.singleton_eq_append_iff.1 he with ⟨hfront, hlast⟩ | ⟨-, hlast⟩
    · exact ⟨hfront, (List.singleton_inj.1 hlast).symm⟩
    · cases hlast
  unfold mapCase at h
  split at h
  · rename_i r hr
    obtain ⟨hfront, hletter⟩ := hone _ h
    have hcovers := List.find?_some hr
    simp only [CaseRow.covers, Bool.and_eq_true, decide_eq_true_eq] at hcovers
    refine ⟨hfront, .inr ?_⟩
    have hcode : (c.toNat + r.shift).toNat = d.toNat := by
      rcases toNat_ofNat_or (c.toNat + r.shift).toNat with hsame | hzero
      · rw [← hletter, hsame]
      · rw [← hletter, hzero] at hrange
        exact absurd hrange.1 (by decide)
    rcases hrows r (List.mem_of_find?_eq_some hr) with ⟨-, hshift⟩ | hbelow | habove <;> omega
  · split at h
    · rename_i sequence hsequence
      rw [List.mem_singleton.1 (List.mem_of_find?_eq_some hsequence)] at h
      have hlast := congrArg List.getLast? h
      rw [List.getLast?_concat] at hlast
      cases hlast
      rcases hd with hd | hd <;> exact absurd hd (by decide)
    · obtain ⟨hfront, hletter⟩ := hone _ h
      exact ⟨hfront, .inl hletter⟩

theorem mapCase_lower_ne_nil (c : Char) : mapCase lowerRows lowerSequences c ≠ [] := by
  unfold mapCase
  split
  · simp
  · split
    · rename_i sequence hsequence
      rw [List.mem_singleton.1 (List.mem_of_find?_eq_some hsequence)]
      simp
    · simp

/-- A character comes to some characters in lower case, of which the last is a letter of the unit only if the character
is one, and then it is the only one. -/
theorem lowerAfter_cons (before cs : List Char) (c : Char) : ∃ lowered, lowered ≠ [] ∧
    lowerAfter before (c :: cs) = lowered ++ lowerAfter (c :: before) cs ∧
    ∀ front d, (d = 'p' ∨ d = 'x') → lowered = front ++ [d] → front = [] ∧ (c = d ∨ c.toNat + 32 = d.toNat) := by
  by_cases hsigma : c = 'Σ'
  · refine ⟨_, List.cons_ne_nil _ [], by rw [lowerAfter, if_pos hsigma], fun front d hd hlast => ?_⟩
    have hsmall := congrArg List.getLast? hlast
    rw [List.getLast?_concat, List.getLast?_singleton, Option.some_inj] at hsmall
    split at hsmall <;> rcases hd with rfl | rfl <;> cases hsmall
  · exact ⟨_, mapCase_lower_ne_nil c, by rw [lowerAfter, if_neg hsigma], fun _ _ => mapCase_eq_letter⟩

end Text

open Text

/-! ## The unit -/

/-- The unit of lengths, in any case. -/
inductive PixelUnit : List Char → Prop
  | mk {p x : Char} (hp : p = 'p' ∨ p = 'P') (hx : x = 'x' ∨ x = 'X') : PixelUnit [p, x]

def EndsInUnit (token : List Char) : Prop := ∃ rest unit, PixelUnit unit ∧ token = rest ++ unit

theorem PixelUnit.lowerAfter {unit : List Char} (h : PixelUnit unit) (before : List Char) :
    lowerAfter before unit = ['p', 'x'] := by
  cases h with
  | @mk p x hp hx =>
    have hp' : mapCase lowerRows lowerSequences p = ['p'] ∧ p ≠ 'Σ' := by
      rcases hp with rfl | rfl <;> decide
    have hx' : mapCase lowerRows lowerSequences x = ['x'] ∧ x ≠ 'Σ' := by
      rcases hx with rfl | rfl <;> decide
    simp [Text.lowerAfter, hp', hx']

/-- A text ends in the unit exactly if its lower case does. -/
theorem suffix_lowerChars_iff {token : List Char} : ['p', 'x'] <:+ lowerChars token ↔ EndsInUnit token := by
  constructor
  · rintro ⟨start, hstart⟩
    unfold lowerChars at hstart
    rcases List.eq_nil_or_concat' token with rfl | ⟨most, b, rfl⟩
    · simp [lowerAfter] at hstart
    rcases List.eq_nil_or_concat' most with rfl | ⟨rest, a, rfl⟩
    · obtain ⟨lowered, -, hlowered, hletter⟩ := lowerAfter_cons [] [] b
      rw [List.nil_append, hlowered, lowerAfter, List.append_nil] at hstart
      obtain ⟨hfront, -⟩ := hletter (start ++ ['p']) 'x' (.inr rfl) (by simp [← hstart])
      simp at hfront
    · -- the last two characters come to something each, and the unit is what they come to
      obtain ⟨front, hfront⟩ := lowerAfter_append [] rest [a, b]
      obtain ⟨lowered, hne, hlowered, hletter⟩ := lowerAfter_cons (rest.reverse ++ []) [b] a
      obtain ⟨lowered', hne', hlowered', hletter'⟩ := lowerAfter_cons (a :: (rest.reverse ++ [])) [] b
      rw [List.append_assoc, List.singleton_append, hfront, hlowered, hlowered', lowerAfter, List.append_nil] at hstart
      obtain ⟨init, last, rfl⟩ := (List.eq_nil_or_concat' lowered).resolve_left hne
      obtain ⟨init', last', rfl⟩ := (List.eq_nil_or_concat' lowered').resolve_left hne'
      have hends : (start ++ ['p']) ++ ['x'] = (front ++ (init ++ [last]) ++ init') ++ [last'] := by simpa using hstart
      obtain ⟨hends, hx⟩ := List.append_inj' hends rfl
      obtain ⟨rfl, hb⟩ := hletter' init' last' (.inr (List.singleton_inj.1 hx).symm) rfl
      have hends' : start ++ ['p'] = (front ++ init) ++ [last] := by simpa using hends
      obtain ⟨-, hp⟩ := List.append_inj' hends' rfl
      obtain ⟨-, ha⟩ := hletter init last (.inl (List.singleton_inj.1 hp).symm) rfl
      obtain rfl := List.singleton_inj.1 hx
      obtain rfl := List.singleton_inj.1 hp
      refine ⟨rest, [a, b], .mk (ha.imp_right fun h => ?_) (hb.imp_right fun h => ?_), by simp⟩
      · exact Char.toNat_inj.1 (by simpa using h)
      · exact Char.toNat_inj.1 (by simpa using h)
  · rintro ⟨rest, unit, hunit, rfl⟩
    obtain ⟨front, hfront⟩ := lowerAfter_append [] rest unit
    rw [lowerChars, hfront, hunit.lowerAfter]
    exact List.suffix_append ..

theorem dropPx_append {unit : List Char} (h : PixelUnit unit) (rest : List Char) : dropPx (rest ++ unit) = rest := by
  have hsuffix : ['p', 'x'].isSuffixOf (lowerChars (rest ++ unit)) :=
    List.isSuffixOf_iff_suffix.2 (suffix_lowerChars_iff.2 ⟨rest, unit, h, rfl⟩)
  cases h
  rw [dropPx, if_pos hsuffix]
  simp

theorem dropPx_eq_self {token : List Char} (h : ¬ EndsInUnit token) : dropPx token = token := by
  rw [dropPx, if_neg]
  exact fun hsuffix => h (suffix_lowerChars_iff.1 (List.isSuffixOf_iff_suffix.1 hsuffix))

/-! ## Notation -/

/-- What may follow a number of pixels: nothing, or the unit with blanks in front of it. -/
inductive AfterNumber : List Char → Prop
  | nothing : AfterNumber []
  | unit {gap unit : List Char} (hgap : ∀ c ∈ gap, isBlank c) (hunit : PixelUnit unit) : AfterNumber (gap ++ unit)

theorem AfterNumber.last_not_blank {rest : List Char} (h : AfterNumber rest) (hne : rest ≠ []) :
    ¬ isBlank (rest.getLast hne) := by
  cases h with
  | nothing => exact absurd rfl hne
  | @unit gap unit hgap hunit =>
    cases hunit with
    | @mk p x hp hx =>
      have hlast : (gap ++ [p, x]).getLast hne = x := by simp
      rw [hlast]
      rcases hx with rfl | rfl <;> decide

/-- A length in pixels between blanks, and the integer that its sign and its digits denote. -/
inductive LengthNotation : List Char → ℤ → Prop
  | mk {before sign ds rest after : List Char} {negative : Bool} (hbefore : ∀ c ∈ before, isBlank c)
    (hsign : Token.Sign sign negative) (hds : Token.Digits ds) (hshort : ds.length ≤ Token.digitLimit)
    (hrest : AfterNumber rest) (hafter : ∀ c ∈ after, isBlank c) :
    LengthNotation (before ++ (sign ++ ds ++ rest ++ after))
      (if negative then -(Nat.ofDigitChars 10 ds 0 : ℤ) else Nat.ofDigitChars 10 ds 0)

/-- Neither blanks nor letters stand in integer notation. -/
theorem Token.IntegerNotation.chars {token : List Char} {n : ℤ} (h : IntegerNotation token n) :
    token ≠ [] ∧ ∀ c ∈ token, ¬ isBlank c ∧ c ≠ 'x' ∧ c ≠ 'X' := by
  cases h with
  | @mk sign ds negative hsign hds =>
    refine ⟨List.append_ne_nil_of_right_ne_nil sign hds.1, fun c hc => ?_⟩
    rcases List.mem_append.1 hc with hc | hc
    · have hsigns : ∀ c ∈ sign, c = '+' ∨ c = '-' := by cases hsign <;> simp
      rcases hsigns c hc with rfl | rfl <;> decide
    · have hdigit := hds.2 c hc
      simp only [isDigit, Bool.and_eq_true, decide_eq_true_eq, Char.le_def, UInt32.le_iff_toNat_le] at hdigit
      have hrange : 48 ≤ c.toNat ∧ c.toNat ≤ 57 := hdigit
      refine ⟨?_, ?_, ?_⟩
      · simp [isBlank, inRanges, blankRanges]
        omega
      · rintro rfl
        exact absurd hrange.2 (by decide)
      · rintro rfl
        exact absurd hrange.2 (by decide)

/-- The integer, and what stands around it. -/
theorem lengthNotation_iff {cs : List Char} {n : ℤ} : LengthNotation cs n ↔ ∃ before token rest after,
    cs = before ++ (token ++ rest ++ after) ∧ (∀ c ∈ before, isBlank c) ∧ (∀ c ∈ after, isBlank c) ∧ AfterNumber rest ∧
      Token.integer? token = .ok (some n) := by
  simp only [Token.integer?_eq_some_iff]
  constructor
  · rintro ⟨hbefore, hsign, hds, hshort, hrest, hafter⟩
    refine ⟨_, _, _, _, rfl, hbefore, hafter, hrest, .mk hsign hds, ?_⟩
    rw [Token.overlong_iff, Token.splitSign_digits hsign hds]
    exact fun h => absurd h.2 (Nat.not_lt.2 hshort)
  · rintro ⟨before, token, rest, after, rfl, hbefore, hafter, hrest, hwritten, hlong⟩
    cases hwritten with
    | mk hsign hds =>
      rw [Token.overlong_iff, Token.splitSign_digits hsign hds, not_and, Nat.not_lt] at hlong
      exact .mk hbefore hsign hds (hlong (Token.isInteger_iff.2 ⟨_, .mk hsign hds⟩)) hrest hafter

/-! ## Reading -/

theorem readPixels_eq_some_iff {raw : String} {n : ℤ} :
    readPixels raw = .ok (some n) ↔ LengthNotation raw.toList n := by
  rw [lengthNotation_iff]
  constructor
  · intro h
    obtain ⟨before, after, hbefore, hafter, hraw⟩ := exists_trimChars raw.toList
    by_cases hunit : EndsInUnit (trimChars raw.toList)
    · obtain ⟨rest, unit, hunit, htoken⟩ := hunit
      obtain ⟨before', gap, hbefore', hgap, hrest⟩ := exists_trimChars rest
      rw [readPixels, htoken, dropPx_append hunit] at h
      refine ⟨before ++ before', trimChars rest, gap ++ unit, after, ?_, ?_, hafter, .unit hgap hunit, h⟩
      · rw [hraw, htoken]
        conv_lhs => rw [hrest]
        simp
      · exact fun c hc => (List.mem_append.1 hc).elim (hbefore c) (hbefore' c)
    · rw [readPixels, dropPx_eq_self hunit, trimChars_trimChars] at h
      exact ⟨before, trimChars raw.toList, [], after, by simpa using hraw, hbefore, hafter, .nothing, h⟩
  · rintro ⟨before, token, rest, after, hraw, hbefore, hafter, hrest, h⟩
    have hwritten := (Token.integer?_eq_some_iff.1 h).1
    obtain ⟨hne, hchars⟩ := hwritten.chars
    have htoken : trimChars token = token :=
      trimChars_eq_self (fun hne => (hchars _ (List.head_mem hne)).1) fun hne => (hchars _ (List.getLast_mem hne)).1
    have htrim : trimChars raw.toList = token ++ rest := by
      rw [hraw, trimChars_append hbefore hafter]
      refine trimChars_eq_self (fun _ => ?_) fun _ => ?_
      · rw [List.head_append_of_ne_nil hne]
        exact (hchars _ (List.head_mem hne)).1
      · by_cases hnil : rest = []
        · subst hnil
          simpa using (hchars _ (List.getLast_mem hne)).1
        · rw [List.getLast_append_of_ne_nil _ hnil]
          exact hrest.last_not_blank hnil
    cases hrest with
    | nothing =>
      rw [readPixels, htrim, List.append_nil, dropPx_eq_self, htoken, h]
      rintro ⟨start, unit, hunit, rfl⟩
      cases hunit with
      | @mk p x hp hx =>
        obtain ⟨-, hx₁, hx₂⟩ := hchars x (by simp)
        exact hx.elim hx₁ hx₂
    | @unit gap unit hgap hunit =>
      have hinner : trimChars (token ++ gap) = token := by
        rw [← List.nil_append (token ++ gap), trimChars_append (List.forall_mem_nil _) hgap, htoken]
      rw [readPixels, htrim, ← List.append_assoc, dropPx_append hunit, hinner, h]

/-- A size as a value. -/
def Size.value : Size → Value
  | int n => .int n
  | double x => .double x

/-- A number that is read is a size. -/
theorem Value.ofValue?_of_readNumber {raw : String} {r : Option Value} (h : readNumber raw = .ok r) :
    (r.bind Size.ofValue?).map Size.value = r := by
  unfold readNumber at h
  dsimp only at h
  split_ifs at h with hinteger
  · obtain ⟨n, -, rfl⟩ := map_eq_ok h
    rfl
  · cases h
    rcases Token.double? (trimChars raw.toList) with _ | x
    · rfl
    · rw [Option.bind_some]
      split_ifs
      · rcases x.toInt? <;> rfl
      · rfl

/-- A size is the number that is read from the text without its unit. -/
theorem readSize_eq_ok {raw : String} {r : Option Size} (h : readSize raw = .ok r) :
    Value.readNumber (String.ofList (dropPx (trimChars raw.toList))) = .ok (r.map Size.value) := by
  obtain ⟨r, hread, rfl⟩ := map_eq_ok h
  rw [hread, Value.ofValue?_of_readNumber hread]

/-- An integer token is read as the integer also where decimals are read. -/
theorem Value.readNumber_of_integer? {raw : String} {n : ℤ} (h : Token.integer? (trimChars raw.toList) = .ok (some n)) :
    readNumber raw = .ok (some (int n)) := by
  obtain ⟨hwritten, hlong⟩ := Token.integer?_eq_some_iff.1 h
  rw [readNumber, if_pos (Token.isInteger_iff.2 ⟨n, hwritten⟩), Token.readInteger_of_notation hwritten hlong]
  rfl

/-- Lengths are read exactly as they are written, and what is a length for one reader is the same integer for the
others: a size always, and a number where the text has no unit. Sizes are numbers and nothing else. -/
theorem readers_agree_on_lengths (raw : String) :
    (∀ n, readPixels raw = .ok (some n) ↔ LengthNotation raw.toList n) ∧
    (∀ n, readPixels raw = .ok (some n) → readSize raw = .ok (some (.int n)) ∧
      (¬ EndsInUnit (trimChars raw.toList) →
        Value.readNumber raw = .ok (some (.int n)) ∧ Value.readInteger raw = .ok (some (.int n)))) ∧
    ∀ r, readSize raw = .ok r →
      Value.readNumber (String.ofList (dropPx (trimChars raw.toList))) = .ok (r.map Size.value) ∧
      ∀ size ∈ r, (∀ b, size.value ≠ .bool b) ∧ ∀ s, size.value ≠ .text s := by
  refine ⟨fun n => readPixels_eq_some_iff, fun n h => ⟨?_, fun hunit => ?_⟩, fun r h => ⟨readSize_eq_ok h, ?_⟩⟩
  · have hnumber : Value.readNumber (String.ofList (dropPx (trimChars raw.toList))) = .ok (some (.int n)) :=
      Value.readNumber_of_integer? (by rw [String.toList_ofList]; exact h)
    rw [readSize, hnumber]
    rfl
  · rw [readPixels, dropPx_eq_self hunit, trimChars_trimChars] at h
    have hnumber := Value.readNumber_of_integer? h
    exact ⟨hnumber, Value.readInteger_of_int hnumber⟩
  · rintro (n | x) - <;> exact ⟨nofun, nofun⟩

/-- Blanks of other scripts around, a sign, leading zeros, and a unit in mixed case after a tab. -/
def padded : String := "\u3000-007\tPx \n"

theorem readers_agree_on_lengths_padded :
    LengthNotation padded.toList (-7) ∧ readPixels padded = .ok (some (-7)) ∧
      readSize padded = .ok (some (.int (-7))) := by
  have hbefore : ∀ c ∈ ['\u3000'], isBlank c := List.forall_mem_singleton.2 (by decide)
  have hgap : ∀ c ∈ ['\t'], isBlank c := List.forall_mem_singleton.2 (by decide)
  have hafter : ∀ c ∈ [' ', '\n'], isBlank c :=
    List.forall_mem_cons.2 ⟨by decide, List.forall_mem_singleton.2 (by decide)⟩
  have hunit : AfterNumber (['\t'] ++ ['P', 'x']) := .unit hgap (.mk (.inr rfl) (.inl rfl))
  have hdigits : Token.Digits ['0', '0', '7'] := Token.isDigits_iff.1 (by decide)
  have hwritten :
      LengthNotation (['\u3000'] ++ (['-'] ++ ['0', '0', '7'] ++ (['\t'] ++ ['P', 'x']) ++ [' ', '\n'])) (-7) :=
    .mk hbefore .minus hdigits (by decide) hunit hafter
  obtain ⟨hexact, hagree, -⟩ := readers_agree_on_lengths padded
  have hread := (hexact (-7)).2 hwritten
  exact ⟨hwritten, hread, (hagree _ hread).1⟩

example : readPixels "5pxpx" = .ok none := by decide +kernel

end Overlay
