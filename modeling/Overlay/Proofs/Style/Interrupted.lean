/-
Resolutions that do not finish. Only a number of more digits than are read stops one, and its digits stand in
the value of one of the properties.
-/
import Overlay.Proofs.Number.Overlong
import Overlay.Proofs.Style.Parts
import Mathlib.Data.List.DropRight

namespace Overlay

open Text

/-! ## Parts of a text -/

namespace Text

theorem isInfix_trimChars (cs : List Char) : trimChars cs <:+: cs :=
  (List.rdropWhile_prefix isBlank _).isInfix.trans (List.dropWhile_suffix isBlank).isInfix

theorem isPrefix_of_pieces {p : Char → Bool} : ∀ {cs w : List Char} {ws : List (List Char)},
    pieces p cs = w :: ws → w <+: cs
  | [], w, ws, h => by
    cases h
    exact List.nil_prefix
  | c :: cs, w, ws, h => by
    unfold pieces at h
    split_ifs at h
    · cases h
      exact List.nil_prefix
    rcases hp : pieces p cs with _ | ⟨w', ws'⟩ <;> rw [hp] at h <;> cases h
    · simp
    · exact List.cons_prefix_cons.2 ⟨rfl, isPrefix_of_pieces hp⟩

theorem isInfix_of_pieces {p : Char → Bool} : ∀ {cs w : List Char}, w ∈ pieces p cs → w <:+: cs
  | [], w, h => by rw [List.mem_singleton.1 h]
  | c :: cs, w, h => by
    have hlater : w ∈ pieces p cs → w <:+: c :: cs := fun h => List.infix_cons (isInfix_of_pieces h)
    unfold pieces at h
    split_ifs at h
    · rcases List.mem_cons.1 h with rfl | h
      · exact List.nil_infix
      · exact hlater h
    rcases hp : pieces p cs with _ | ⟨w', ws⟩ <;> rw [hp] at h hlater <;> rcases List.mem_cons.1 h with rfl | h
    · exact (List.prefix_append [c] cs).isInfix
    · cases h
    · exact (List.cons_prefix_cons.2 ⟨rfl, isPrefix_of_pieces hp⟩).isInfix
    · exact hlater (List.mem_cons_of_mem _ h)

end Text

/-! ## Numbers that are too long -/

/-- A text has as many digits in a row as the numeral, more than are read. -/
structure NumeralTooLong.StandsIn (n : NumeralTooLong) (cs : List Char) : Prop where
  tooLong : Token.digitLimit < n.digits
  digits : ∃ ds, ds <:+: cs ∧ ds.all Token.isDigit ∧ ds.length = n.digits

variable {n : NumeralTooLong}

theorem NumeralTooLong.StandsIn.mono {cs cs' : List Char} (h : n.StandsIn cs) (hcs : cs <:+: cs') : n.StandsIn cs' := by
  obtain ⟨ds, hds, hdigit, hlength⟩ := h.digits
  exact ⟨h.tooLong, ds, hds.trans hcs, hdigit, hlength⟩

namespace Token

theorem readInteger_error {token : List Char} (hinteger : isInteger token) (h : readInteger token = .error n) :
    n.StandsIn token := by
  have hread := map_eq_error h
  unfold readDigits at hread
  split_ifs at hread with hlong
  cases hread
  have hdigits : (splitSign token).2.all isDigit := (Bool.and_eq_true_iff.1 hinteger).2
  exact ⟨hlong, _, (splitSign_suffix token).isInfix, hdigits, rfl⟩

theorem integer?_error {token : List Char} (h : integer? token = .error n) : n.StandsIn token := by
  unfold integer? at h
  split_ifs at h with hinteger
  exact readInteger_error hinteger (map_eq_error h)

end Token

theorem Value.readNumber_error {raw : String} (h : readNumber raw = .error n) : n.StandsIn raw.toList := by
  unfold readNumber at h
  dsimp only at h
  split_ifs at h with hinteger
  exact (Token.readInteger_error hinteger (map_eq_error h)).mono (isInfix_trimChars _)

theorem isInfix_dropPx (token : List Char) : dropPx token <:+: token := by
  unfold dropPx
  split
  · exact (List.take_prefix ..).isInfix
  · exact List.infix_rfl

theorem readPixels_error {raw : String} (h : readPixels raw = .error n) : n.StandsIn raw.toList :=
  (Token.integer?_error h).mono
    ((isInfix_trimChars _).trans ((isInfix_dropPx _).trans (isInfix_trimChars _)))

theorem readSize_error {raw : String} (h : readSize raw = .error n) : n.StandsIn raw.toList := by
  have hread := Value.readNumber_error (map_eq_error h)
  rw [String.toList_ofList] at hread
  exact hread.mono ((isInfix_dropPx _).trans (isInfix_trimChars _))

theorem readAllPixels_error : ∀ {ts : List String}, readAllPixels ts = .error n → ∃ t ∈ ts, n.StandsIn t.toList
  | [], h => by cases h
  | t :: ts, h => by
    unfold readAllPixels at h
    rcases bind_eq_error h with hfirst | ⟨n?, -, h⟩
    · exact ⟨t, List.mem_cons_self .., readPixels_error hfirst⟩
    rcases n? with _ | m
    · cases h
    rcases bind_eq_error h with hrest | ⟨_, -, h⟩
    · obtain ⟨t', ht', hn⟩ := readAllPixels_error hrest
      exact ⟨t', List.mem_cons_of_mem _ ht', hn⟩
    · cases h

theorem readPadding_error {value : String} (h : readPadding value = .error n) : n.StandsIn value.toList := by
  obtain ⟨t, ht, hn⟩ := readAllPixels_error (map_eq_error h)
  obtain ⟨w, hw, rfl⟩ := List.mem_map.1 ht
  rw [String.toList_ofList] at hn
  exact hn.mono (isInfix_of_pieces (List.mem_filter.1 hw).1)

/-! ## Properties that stop a resolution -/

theorem effect_error {kind : Kind} {name value : String} (h : effect kind name value = .error n) :
    n.StandsIn value.toList := by
  unfold effect at h
  split at h
  · cases h
  unfold plainEffect at h
  split at h
  · exact readPixels_error (map_eq_error h)
  split_ifs at h with hflex hvisibility hdisplay hlayout hpadding hbackground
  · exact readPixels_error (map_eq_error h)
  · unfold paddingEffect at h
    split_ifs at h
    exact readPadding_error (map_eq_error h)

theorem setting_error {kind : Kind} {name value : String} (h : setting kind name value = .error n) :
    n.StandsIn value.toList := by
  unfold setting at h
  split_ifs at h with hcolor hbackground hsize
  · exact readSize_error (map_eq_error h)
  all_goals split at h <;> cases h

/-- What stops a resolution is a numeral that is too long, in the value of one of the properties. -/
theorem resolve_error {kind : Kind} {properties : Properties} {i : Interrupted}
    (h : resolve kind properties = .error i) : ∃ p ∈ properties.entries, i.cause.StandsIn p.2.toList := by
  rcases resolve_cases kind properties with ⟨-, hok⟩ | ⟨n, ds, hstop, herror, -⟩
  · rw [hok] at h
    cases h
  rw [herror] at h
  cases h
  rcases Option.or_eq_some_iff.1 hstop with hread | ⟨-, hpools⟩
  · obtain ⟨p, hp, hn⟩ := List.exists_of_findSome?_eq_some hread
    exact ⟨p, hp, effect_error (stop?_eq_some_iff.1 hn)⟩
  · obtain ⟨state, -, hpool⟩ := List.exists_of_findSome?_eq_some hpools
    obtain ⟨e, he, hn⟩ := List.exists_of_findSome?_eq_some hpool
    rw [Draft.entries_pools] at he
    obtain ⟨p, hp, hpooled⟩ := List.mem_filterMap.1 (Bag.mem_of_mem_ofList he)
    have hlong := setting_error (stop?_eq_some_iff.1 hn)
    rw [(pooled?_eq_some_iff.1 hpooled).2] at hlong
    exact ⟨p, hp, hlong⟩

end Overlay
