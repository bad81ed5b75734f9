/-
Reading JSON strings. A reader goes over the characters of a string one by one and collects UTF-16 units up to the
closing quote, from short escapes, from the digits of numbered ones and from characters that stand for themselves;
the units then are put together to characters. It reads back whatever is written, and where it ends the next text
begins.
-/
import Overlay.Text.JsonString
import Mathlib.Tactic.IntervalCases

namespace Overlay.Text

/-! ## Hexadecimal digits -/

theorem hexValue?_digitChar {n : Nat} (h : n < 16) : hexValue? n.digitChar = some n := by
  interval_cases n <;> rfl

theorem hexNumber_append_singleton (cs : List Char) (c : Char) :
    hexNumber (cs ++ [c]) = 16 * hexNumber cs + (hexValue? c).getD 0 := by
  simp only [hexNumber, List.foldl_append, List.foldl_cons, List.foldl_nil]

theorem hexNumber_toDigits (n : Nat) : hexNumber (Nat.toDigits 16 n) = n := by
  induction n using Nat.strongRecOn with
  | _ n ih =>
    by_cases hn : n < 16
    · rw [Nat.toDigits_of_lt_base hn]
      simp [hexNumber, hexValue?_digitChar hn]
    · rw [Nat.toDigits_of_base_le (by omega) (by omega), hexNumber_append_singleton, ih (n / 16) (by omega),
        hexValue?_digitChar (Nat.mod_lt _ (by omega)), Option.getD_some]
      omega

theorem exists_digit_of_mem_toDigits (n : Nat) : ∀ c ∈ Nat.toDigits 16 n, ∃ d < 16, c = d.digitChar := by
  induction n using Nat.strongRecOn with
  | _ n ih =>
    intro c hc
    by_cases hn : n < 16
    · rw [Nat.toDigits_of_lt_base hn, List.mem_singleton] at hc
      exact ⟨n, hn, hc⟩
    · rw [Nat.toDigits_of_base_le (by omega) (by omega), List.mem_append, List.mem_singleton] at hc
      rcases hc with hc | hc
      · exact ih (n / 16) (by omega) c hc
      · exact ⟨n % 16, Nat.mod_lt _ (by omega), hc⟩

theorem hexNumber_zeros (cs : List Char) : ∀ k : Nat, hexNumber (List.replicate k '0' ++ cs) = hexNumber cs
  | 0 => rfl
  | k + 1 => hexNumber_zeros cs k

/-- Digits up to a width denote the number that they are of. -/
theorem hexNumber_hexDigits (width n : Nat) : hexNumber (hexDigits width n) = n := by
  rw [hexDigits, hexNumber_zeros, hexNumber_toDigits]

theorem length_hexDigits {width n : Nat} (h : n < 16 ^ width) (hw : 0 < width) :
    (hexDigits width n).length = width := by
  have := (Nat.length_toDigits_le_iff (by omega) hw).2 h
  simp only [hexDigits, List.length_append, List.length_replicate]
  omega

theorem exists_digit_of_mem_hexDigits {width n : Nat} : ∀ c ∈ hexDigits width n, ∃ d < 16, c = d.digitChar := by
  intro c hc
  rcases List.mem_append.1 hc with hc | hc
  · exact ⟨0, by omega, List.eq_of_mem_replicate hc⟩
  · exact exists_digit_of_mem_toDigits n c hc

/-! ## The characters of JSON strings -/

theorem isPrintableAscii_of_jsonShort {c e : Char} (h : jsonShort c = some e) : isPrintableAscii e := by
  unfold jsonShort at h
  split_ifs at h <;> cases h <;> rfl

theorem isPrintableAscii_of_mem_jsonUnit {n : Nat} : ∀ c ∈ jsonUnit n, isPrintableAscii c := by
  intro c hc
  rcases List.mem_cons.1 hc with rfl | hc
  · rfl
  rcases List.mem_cons.1 hc with rfl | hc
  · rfl
  obtain ⟨d, hd, rfl⟩ := exists_digit_of_mem_hexDigits c hc
  interval_cases d <;> rfl

/-- Nothing but printable ASCII is written. -/
theorem isPrintableAscii_of_mem_jsonString {s : String} : ∀ c ∈ (jsonString s).toList, isPrintableAscii c := by
  intro c hc
  rw [jsonString, String.toList_ofList, List.mem_append, List.mem_cons, List.mem_singleton] at hc
  rcases hc with (rfl | hc) | rfl
  · rfl
  · obtain ⟨d, -, hd⟩ := List.mem_flatMap.1 hc
    unfold jsonChar at hd
    split at hd
    · rename_i e he
      rcases List.mem_cons.1 hd with rfl | hd
      · rfl
      · rw [List.mem_singleton.1 hd]
        exact isPrintableAscii_of_jsonShort he
    · split at hd
      · rename_i hplain
        rw [List.mem_singleton.1 hd]
        exact hplain
      · obtain ⟨n, -, hn⟩ := List.mem_flatMap.1 hd
        exact isPrintableAscii_of_mem_jsonUnit c hn
  · rfl

/-! ## Units -/

/-- The character that a short escape stands for. -/
def ofShort? : Char → Option Char
  | '"' => some '"'
  | '\\' => some '\\'
  | '/' => some '/'
  | 'n' => some '\n'
  | 'r' => some '\r'
  | 't' => some '\t'
  | 'b' => some '\x08'
  | 'f' => some '\x0c'
  | _ => none

/-- Where a reader stands in a JSON string: between characters, behind a backslash, or before a digit of a unit, with
as many digits after it and the number that those before it denote. -/
inductive Standing where
  | between
  | escape
  | digit (left number : Nat)

/-- The UTF-16 units of a JSON string up to the closing quote, and what follows it. -/
def readUnits : Standing → List Char → Option (List Nat × List Char)
  | _, [] => none
  | .between, c :: cs =>
    if c = '"' then some ([], cs)
    else if c = '\\' then readUnits .escape cs
    else (readUnits .between cs).map fun r => (utf16Units c ++ r.1, r.2)
  | .escape, c :: cs =>
    if c = 'u' then readUnits (.digit 3 0) cs
    else (ofShort? c).bind fun d => (readUnits .between cs).map fun r => (utf16Units d ++ r.1, r.2)
  | .digit 0 n, c :: cs =>
    (hexValue? c).bind fun v => (readUnits .between cs).map fun r => ((16 * n + v) :: r.1, r.2)
  | .digit (left + 1) n, c :: cs => (hexValue? c).bind fun v => readUnits (.digit left (16 * n + v)) cs

theorem ofShort?_of_jsonShort {c e : Char} (h : jsonShort c = some e) : ofShort? e = some c ∧ e ≠ 'u' := by
  unfold jsonShort at h
  split_ifs at h with h₁ h₂ h₃ h₄ h₅ h₆ h₇
  all_goals
    cases h
    subst_vars
    exact ⟨rfl, by decide⟩

theorem readUnits_digits (cs : List Char) : ∀ (ds : List Char) (left n : Nat), ds.length = left + 1 →
    (∀ c ∈ ds, ∃ d < 16, c = Nat.digitChar d) → readUnits (.digit left n) (ds ++ cs) =
      (readUnits .between cs).map fun r => (ds.foldl (fun n c => 16 * n + (hexValue? c).getD 0) n :: r.1, r.2)
  | [], left, n, hlen, _ => by simp at hlen
  | c :: ds, left, n, hlen, hds => by
    -- the reader has in its state the number that the fold has come to
    obtain ⟨d, hd, rfl⟩ := hds c (List.mem_cons_self ..)
    rw [List.cons_append, List.foldl_cons, hexValue?_digitChar hd, Option.getD_some]
    cases left with
    | zero =>
      obtain rfl : ds = [] := List.eq_nil_of_length_eq_zero (by simpa using hlen)
      rw [readUnits, hexValue?_digitChar hd]
      rfl
    | succ left =>
      rw [readUnits, hexValue?_digitChar hd, Option.bind_some]
      exact readUnits_digits cs ds left _ (by simpa using hlen) fun c hc => hds c (List.mem_cons_of_mem _ hc)

/-- A numbered escape is read as its unit. -/
theorem readUnits_jsonUnit {n : Nat} (h : n < 0x10000) (cs : List Char) :
    readUnits .between (jsonUnit n ++ cs) = (readUnits .between cs).map fun r => (n :: r.1, r.2) := by
  have hlen : (hexDigits 4 n).length = 3 + 1 := length_hexDigits (by omega) (by omega)
  have hread := readUnits_digits cs (hexDigits 4 n) 3 0 hlen exists_digit_of_mem_hexDigits
  rw [← hexNumber, hexNumber_hexDigits] at hread
  exact hread

theorem readUnits_jsonUnits (cs : List Char) : ∀ {us : List Nat}, (∀ u ∈ us, u < 0x10000) →
    readUnits .between (us.flatMap jsonUnit ++ cs) = (readUnits .between cs).map fun r => (us ++ r.1, r.2)
  | [], _ => by simp
  | u :: us, h => by
    rw [List.flatMap_cons, List.append_assoc, readUnits_jsonUnit (h u (List.mem_cons_self ..)),
      readUnits_jsonUnits cs fun v hv => h v (List.mem_cons_of_mem _ hv), Option.map_map]
    rfl

/-- No character is a surrogate. -/
theorem toNat_range (c : Char) : c.toNat < 0xD800 ∨ 0xE000 ≤ c.toNat ∧ c.toNat < 0x110000 := by
  have h : c.toNat < 0xD800 ∨ 0xDFFF < c.toNat ∧ c.toNat < 0x110000 := c.valid
  omega

theorem utf16Units_lt (c : Char) : ∀ u ∈ utf16Units c, u < 0x10000 := by
  have hc := toNat_range c
  intro u hu
  unfold utf16Units at hu
  simp only at hu
  split at hu
  · rename_i h
    rw [List.mem_singleton.1 hu]
    exact h
  · simp only [List.mem_cons, List.not_mem_nil, or_false] at hu
    omega

/-- What is written for a character is read as its units. -/
theorem readUnits_jsonChar (plain : Char → Bool) (c : Char) (cs : List Char) :
    readUnits .between (jsonChar plain c ++ cs) =
      (readUnits .between cs).map fun r => (utf16Units c ++ r.1, r.2) := by
  unfold jsonChar
  split
  · rename_i e he
    obtain ⟨hread, hu⟩ := ofShort?_of_jsonShort he
    show readUnits .escape (e :: cs) = _
    rw [readUnits, if_neg hu, hread]
    rfl
  · rename_i hnone
    split
    · -- a quote or a backslash would have had a short escape
      have hquote : c ≠ '"' := by
        rintro rfl
        cases hnone
      have hback : c ≠ '\\' := by
        rintro rfl
        cases hnone
      rw [List.singleton_append, readUnits, if_neg hquote, if_neg hback]
    · exact readUnits_jsonUnits cs (utf16Units_lt c)

theorem readUnits_jsonChars (plain : Char → Bool) (rest : List Char) : ∀ cs : List Char,
    readUnits .between (cs.flatMap (jsonChar plain) ++ '"' :: rest) = some (cs.flatMap utf16Units, rest)
  | [] => by simp [readUnits]
  | c :: cs => by
    rw [List.flatMap_cons, List.append_assoc, readUnits_jsonChar, readUnits_jsonChars plain rest cs]
    rfl

/-! ## Characters of units -/

def isHighSurrogate (u : Nat) : Bool := 0xD800 ≤ u && u < 0xDC00

def isLowSurrogate (u : Nat) : Bool := 0xDC00 ≤ u && u < 0xE000

/-- The characters of UTF-16 units; a surrogate stands only in a pair. -/
def ofUtf16? : List Nat → Option (List Char)
  | [] => some []
  | [u] => if isHighSurrogate u || isLowSurrogate u then none else some [Char.ofNat u]
  | u :: v :: us =>
    if isHighSurrogate u && isLowSurrogate v then
      (ofUtf16? us).map (Char.ofNat (0x10000 + (u - 0xD800) * 0x400 + (v - 0xDC00)) :: ·)
    else if isHighSurrogate u || isLowSurrogate u then none
    else (ofUtf16? (v :: us)).map (Char.ofNat u :: ·)

theorem ofUtf16?_utf16Units (c : Char) (us : List Nat) :
    ofUtf16? (utf16Units c ++ us) = (ofUtf16? us).map (c :: ·) := by
  have hc := toNat_range c
  unfold utf16Units
  simp only
  split
  · have hhigh : isHighSurrogate c.toNat = false := by
      simp only [isHighSurrogate, Bool.and_eq_false_iff, decide_eq_false_iff_not]
      omega
    have hlow : isLowSurrogate c.toNat = false := by
      simp only [isLowSurrogate, Bool.and_eq_false_iff, decide_eq_false_iff_not]
      omega
    cases us with
    | nil => simp [ofUtf16?, hhigh, hlow]
    | cons v us => simp [ofUtf16?, hhigh, hlow]
  · have hhigh : isHighSurrogate (0xD800 + (c.toNat - 0x10000) / 0x400) = true := by
      simp only [isHighSurrogate, Bool.and_eq_true, decide_eq_true_eq]
      omega
    have hlow : isLowSurrogate (0xDC00 + (c.toNat - 0x10000) % 0x400) = true := by
      simp only [isLowSurrogate, Bool.and_eq_true, decide_eq_true_eq]
      omega
    have hsum : 0x10000 + (0xD800 + (c.toNat - 0x10000) / 0x400 - 0xD800) * 0x400 +
        (0xDC00 + (c.toNat - 0x10000) % 0x400 - 0xDC00) = c.toNat := by
      omega
    rw [List.cons_append, List.singleton_append, ofUtf16?, hhigh, hlow, hsum, Char.ofNat_toNat]
    rfl

theorem ofUtf16?_flatMap : ∀ cs : List Char, ofUtf16? (cs.flatMap utf16Units) = some cs
  | [] => rfl
  | c :: cs => by
    rw [List.flatMap_cons, ofUtf16?_utf16Units, ofUtf16?_flatMap cs]
    rfl

/-! ## Strings -/

/-- The text of a JSON string and what follows it. -/
def readString? : List Char → Option (String × List Char)
  | [] => none
  | c :: cs =>
    if c = '"' then (readUnits .between cs).bind fun r => (ofUtf16? r.1).map fun text => (String.ofList text, r.2)
    else none

/-- A JSON string reads back as its text, whatever follows it. -/
theorem readString?_jsonString (s : String) (rest : List Char) :
    readString? ((jsonString s).toList ++ rest) = some (s, rest) := by
  rw [jsonString, String.toList_ofList, List.append_assoc]
  show (readUnits .between (s.toList.flatMap (jsonChar isPrintableAscii) ++ '"' :: rest)).bind _ = _
  rw [readUnits_jsonChars, Option.bind_some, ofUtf16?_flatMap, Option.map_some, String.ofList_toList]

/-- A pair of units is one character, and half a pair is none. -/
example : readString? "\"\\ud83d\\ude00\" x".toList = some ("😀", " x".toList) ∧
    readString? "\"\\ud83d\"".toList = none := by decide

end Overlay.Text
