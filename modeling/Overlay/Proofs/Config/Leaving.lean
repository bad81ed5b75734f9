/-
What readers of TOML leave. Each reader takes something from the front of the text and leaves an end of it.
-/
import Overlay.Proofs.Config.Numeral

namespace Overlay

open Text Token

namespace Text

theorem suffix_after? {start cs rest : List Char} (h : after? start cs = some rest) : rest <:+ cs :=
  ⟨start, (after?_eq_some_iff.1 h).symm⟩

theorem suffix_cutAt {mark : Char} : ∀ {cs before rest : List Char}, cutAt mark cs = some (before, rest) → rest <:+ cs
  | [], _, _, h => by cases h
  | c :: cs, before, rest, h => by
    unfold cutAt at h
    split at h
    · cases h
      exact List.suffix_cons ..
    · obtain ⟨r, hr, h⟩ := Option.map_eq_some_iff.1 h
      cases h
      exact (suffix_cutAt hr).trans (List.suffix_cons ..)

end Text

namespace Toml

theorem required_eq_ok {α : Type} {a? : Option α} {a : α} (h : required a? = .ok a) : a? = some a := by
  cases a? with
  | none => cases h
  | some b =>
    cases h
    rfl

variable {cs rest : List Char}

/-! ## Blanks and comments -/

theorem suffix_skipSpaces (cs : List Char) : skipSpaces cs <:+ cs := List.dropWhile_suffix _

theorem suffix_skipComment (h : skipComment cs = .ok rest) : rest <:+ cs := by
  unfold skipComment at h
  split at h
  · split at h <;> cases h
    exact (List.dropWhile_suffix _).trans (List.suffix_cons ..)
  · cases h
    exact List.suffix_rfl

theorem suffix_skipLines : ∀ {fuel : Nat} {cs rest : List Char}, skipLines fuel cs = .ok rest → rest <:+ cs
  | 0, _, _, h => by
    cases h
    exact List.suffix_rfl
  | fuel + 1, cs, rest, h => by
    rw [skipLines] at h
    obtain ⟨rest', hcomment, h⟩ := bind_eq_ok h
    have hskipped : rest' <:+ cs := (suffix_skipComment hcomment).trans (List.dropWhile_suffix _)
    split at h
    · cases h
      exact hskipped
    · exact (suffix_skipLines h).trans hskipped

/-! ## Strings -/

theorem suffix_hexChar {digits : Nat} {c : Char} (h : hexChar digits cs = some (c, rest)) : rest <:+ cs := by
  unfold hexChar at h
  dsimp only at h
  split at h <;> cases h
  exact List.drop_suffix ..

theorem suffix_escape? {c : Char} (h : escape? cs = some (c, rest)) : rest <:+ cs := by
  unfold escape? at h
  split at h
  case h_8 => exact (suffix_hexChar h).trans (List.suffix_cons ..)
  case h_9 => exact (suffix_hexChar h).trans (List.suffix_cons ..)
  all_goals cases h
  all_goals exact List.suffix_cons ..

theorem suffix_lineEnd? (h : lineEnd? cs = some rest) : rest <:+ cs := by
  unfold lineEnd? at h
  split at h
  · have hspaces := suffix_skipSpaces cs
    split at h <;> cases h
    · exact List.nil_suffix
    · rename_i hline
      rw [hline] at hspaces
      exact (List.dropWhile_suffix _).trans ((List.suffix_cons ..).trans hspaces)
  · cases h

theorem suffix_basicText : ∀ {fuel : Nat} {cs s rest : List Char}, basicText fuel cs = some (s, rest) → rest <:+ cs
  | 0, _, _, _, h => by cases h
  | _ + 1, [], _, _, h => by cases h
  | fuel + 1, c :: cs, s, rest, h => by
    rw [basicText] at h
    refine List.IsSuffix.trans ?_ (List.suffix_cons c cs)
    split_ifs at h
    · cases h
      exact List.suffix_rfl
    · obtain ⟨e, he, h⟩ := Option.bind_eq_some_iff.1 h
      obtain ⟨r, hr, h⟩ := Option.bind_eq_some_iff.1 h
      cases h
      exact (suffix_basicText hr).trans (suffix_escape? he)
    · obtain ⟨r, hr, h⟩ := Option.map_eq_some_iff.1 h
      cases h
      exact suffix_basicText hr

theorem suffix_basicLines : ∀ {fuel : Nat} {cs s rest : List Char}, basicLines fuel cs = some (s, rest) → rest <:+ cs
  | 0, _, _, _, h => by cases h
  | _ + 1, [], _, _, h => by cases h
  | fuel + 1, c :: cs, s, rest, h => by
    rw [basicLines] at h
    refine List.IsSuffix.trans ?_ (List.suffix_cons c cs)
    split_ifs at h
    · cases h
      exact List.drop_suffix ..
    · obtain ⟨r, hr, h⟩ := Option.bind_eq_some_iff.1 h
      exact (suffix_basicLines h).trans (suffix_lineEnd? hr)
    · obtain ⟨e, he, h⟩ := Option.bind_eq_some_iff.1 h
      obtain ⟨r, hr, h⟩ := Option.bind_eq_some_iff.1 h
      cases h
      exact (suffix_basicLines hr).trans (suffix_escape? he)
    · obtain ⟨r, hr, h⟩ := Option.map_eq_some_iff.1 h
      cases h
      exact suffix_basicLines hr

theorem suffix_literalText {s : List Char} (h : literalText cs = some (s, rest)) : rest <:+ cs := by
  obtain ⟨r, hr, h⟩ := Option.bind_eq_some_iff.1 h
  split_ifs at h
  cases h
  exact suffix_cutAt hr

theorem suffix_literalLines : ∀ {cs s rest : List Char}, literalLines cs = some (s, rest) → rest <:+ cs
  | [], _, _, h => by cases h
  | c :: cs, s, rest, h => by
    rw [literalLines] at h
    refine List.IsSuffix.trans ?_ (List.suffix_cons c cs)
    split_ifs at h
    · cases h
      exact List.drop_suffix ..
    · obtain ⟨r, hr, h⟩ := Option.map_eq_some_iff.1 h
      cases h
      exact suffix_literalLines hr

theorem suffix_dropFirstLineEnd (cs : List Char) : dropFirstLineEnd cs <:+ cs := by
  unfold dropFirstLineEnd
  split
  · exact List.suffix_cons ..
  · exact List.suffix_rfl

theorem suffix_takeExtraQuotes (quote : Char) (r : List Char × List Char) : (takeExtraQuotes quote r).2 <:+ r.2 :=
  List.drop_suffix ..

theorem suffix_string? {s : List Char} (h : string? cs = some (s, rest)) : rest <:+ cs := by
  unfold string? at h
  split at h
  · rename_i tail
    obtain ⟨r, hr, h⟩ := Option.map_eq_some_iff.1 h
    have hlines := (suffix_basicLines hr).trans (suffix_dropFirstLineEnd tail)
    have hleft : rest = (takeExtraQuotes '"' r).2 := by rw [h]
    rw [hleft]
    exact ((suffix_takeExtraQuotes ..).trans hlines).trans (List.suffix_append ['"', '"', '"'] tail)
  · exact (suffix_basicText h).trans (List.suffix_cons ..)
  · rename_i tail
    obtain ⟨r, hr, h⟩ := Option.map_eq_some_iff.1 h
    have hlines := (suffix_literalLines hr).trans (suffix_dropFirstLineEnd tail)
    have hleft : rest = (takeExtraQuotes '\'' r).2 := by rw [h]
    rw [hleft]
    exact ((suffix_takeExtraQuotes ..).trans hlines).trans (List.suffix_append ['\'', '\'', '\''] tail)
  · exact (suffix_literalText h).trans (List.suffix_cons ..)
  · cases h

/-! ## Keys -/

theorem suffix_keyPart? {part : String} (h : keyPart? cs = some (part, rest)) : rest <:+ cs := by
  unfold keyPart? at h
  split at h
  · cases h
  · split_ifs at h
    · cases h
      exact List.dropWhile_suffix _
    · obtain ⟨r, hr, h⟩ := Option.map_eq_some_iff.1 h
      cases h
      exact (suffix_literalText hr).trans (List.suffix_cons ..)
    · obtain ⟨r, hr, h⟩ := Option.map_eq_some_iff.1 h
      cases h
      exact (suffix_basicText hr).trans (List.suffix_cons ..)

theorem suffix_keyParts : ∀ {fuel : Nat} {cs rest : List Char} {parts : List String},
    keyParts fuel cs = some (parts, rest) → rest <:+ cs
  | 0, _, _, _, h => by cases h
  | fuel + 1, cs, rest, parts, h => by
    rw [keyParts] at h
    obtain ⟨⟨part, left⟩, hpart, h⟩ := Option.bind_eq_some_iff.1 h
    have hleft := (suffix_skipSpaces left).trans (suffix_keyPart? hpart)
    dsimp only at h
    split at h
    · rename_i tail htail
      obtain ⟨⟨more, left'⟩, hmore, h⟩ := Option.bind_eq_some_iff.1 h
      cases h
      rw [htail] at hleft
      exact ((suffix_keyParts hmore).trans (suffix_skipSpaces tail)).trans ((List.suffix_cons ..).trans hleft)
    · cases h
      exact hleft

theorem suffix_key {path : List String} (h : key cs = .ok (path, rest)) : rest <:+ cs :=
  suffix_keyParts (required_eq_ok h)

/-! ## Dates and times -/

theorem suffix_twoDigits {least greatest n : Nat} (h : twoDigits least greatest cs = some (n, rest)) : rest <:+ cs := by
  unfold twoDigits at h
  dsimp only at h
  split_ifs at h
  cases h
  exact List.drop_suffix ..

theorem suffix_date? {valid : Bool} (h : date? cs = some (valid, rest)) : rest <:+ cs := by
  unfold date? at h
  dsimp only at h
  split_ifs at h
  obtain ⟨r₁, h₁, h⟩ := Option.bind_eq_some_iff.1 h
  obtain ⟨⟨month, r₂⟩, h₂, h⟩ := Option.bind_eq_some_iff.1 h
  obtain ⟨r₃, h₃, h⟩ := Option.bind_eq_some_iff.1 h
  obtain ⟨⟨day, r₄⟩, h₄, h⟩ := Option.bind_eq_some_iff.1 h
  cases h
  have hmonth := ((suffix_twoDigits h₂).trans (suffix_after? h₁)).trans (List.drop_suffix 4 cs)
  exact ((suffix_twoDigits h₄).trans (suffix_after? h₃)).trans hmonth

theorem suffix_time? (h : time? cs = some rest) : rest <:+ cs := by
  unfold time? at h
  obtain ⟨⟨hour, r₁⟩, h₁, h⟩ := Option.bind_eq_some_iff.1 h
  obtain ⟨r₂, h₂, h⟩ := Option.bind_eq_some_iff.1 h
  obtain ⟨⟨minute, r₃⟩, h₃, h⟩ := Option.bind_eq_some_iff.1 h
  obtain ⟨r₄, h₄, h⟩ := Option.bind_eq_some_iff.1 h
  obtain ⟨⟨second, r₅⟩, h₅, h⟩ := Option.bind_eq_some_iff.1 h
  have hminute := ((suffix_twoDigits h₃).trans (suffix_after? h₂)).trans (suffix_twoDigits h₁)
  have hsecond := ((suffix_twoDigits h₅).trans (suffix_after? h₄)).trans hminute
  dsimp only at h hsecond
  split at h
  · cases h
    split
    · exact hsecond
    · exact (List.dropWhile_suffix _).trans ((List.suffix_cons ..).trans hsecond)
  · cases h
    exact hsecond

theorem suffix_getD {rest? : Option (List Char)} (h : ∀ rest, rest? = some rest → rest <:+ cs) :
    rest?.getD cs <:+ cs := by
  rcases rest? with _ | rest
  · exact List.suffix_rfl
  · exact h rest rfl

theorem suffix_skipOffset (cs : List Char) : skipOffset cs <:+ cs := by
  unfold skipOffset
  split
  · exact List.suffix_rfl
  · split_ifs
    · exact List.suffix_cons ..
    · refine suffix_getD fun rest h => ?_
      obtain ⟨⟨hour, r₁⟩, h₁, h⟩ := Option.bind_eq_some_iff.1 h
      obtain ⟨r₂, h₂, h⟩ := Option.bind_eq_some_iff.1 h
      obtain ⟨⟨minute, r₃⟩, h₃, h⟩ := Option.bind_eq_some_iff.1 h
      cases h
      have hhour := (suffix_after? h₂).trans (suffix_twoDigits h₁)
      exact ((suffix_twoDigits h₃).trans hhour).trans (List.suffix_cons ..)
    · exact List.suffix_rfl

theorem suffix_dateOrTime? {v : Value} (h : dateOrTime? cs = some (.ok (v, rest))) : rest <:+ cs := by
  unfold dateOrTime? at h
  split at h
  · rename_i valid r hdate
    have hr := suffix_date? hdate
    have h := Option.some.inj h
    split_ifs at h
    split at h
    · rename_i htime
      cases h
      split at htime
      · split_ifs at htime
        obtain ⟨r', hr', htime⟩ := Option.map_eq_some_iff.1 htime
        cases htime
        exact (((suffix_skipOffset r').trans (suffix_time? hr')).trans (List.suffix_cons ..)).trans hr
      · cases htime
    · cases h
      exact hr
  · obtain ⟨r, hr, h⟩ := Option.map_eq_some_iff.1 h
    cases h
    exact suffix_time? hr

/-! ## Numbers -/

theorem suffix_digitRun (p : Char → Bool) (cs : List Char) : (digitRun p cs).2 <:+ cs := by
  fun_induction digitRun p cs with
  | case1 => exact List.suffix_rfl
  | case2 => exact List.suffix_rfl
  | case3 c d ds hc hd more rest heq ih =>
    rw [heq] at ih
    exact ih.trans (List.suffix_append [c, '_'] (d :: ds))
  | case4 => exact List.suffix_cons ..
  | case5 c cs hunderscore hc more rest heq ih =>
    rw [heq] at ih
    exact ih.trans (List.suffix_cons ..)
  | case6 => exact List.suffix_rfl

theorem suffix_radix? {v : Value} (h : radix? cs = some (v, rest)) : rest <:+ cs := by
  unfold radix? at h
  dsimp only at h
  split at h
  case h_4 => cases h
  all_goals
    split_ifs at h
    cases h
    exact (suffix_digitRun ..).trans ((List.suffix_cons ..).trans (List.suffix_cons ..))

theorem suffix_fractionPart (cs : List Char) : (fractionPart cs).2 <:+ cs := by
  unfold fractionPart
  split
  · dsimp only
    split_ifs
    · exact List.suffix_rfl
    · exact (suffix_digitRun ..).trans (List.suffix_cons ..)
  · exact List.suffix_rfl

theorem suffix_exponentPart (cs : List Char) : (exponentPart cs).2 <:+ cs := by
  unfold exponentPart
  split
  · dsimp only
    split_ifs
    · exact List.suffix_rfl
    · exact ((suffix_digitRun ..).trans (List.drop_suffix ..)).trans (List.suffix_cons ..)
    · exact List.suffix_rfl
  · exact List.suffix_rfl

theorem suffix_floatPart (cs : List Char) : (floatPart cs).2 <:+ cs := by
  rw [floatPart_eq]
  exact (suffix_exponentPart _).trans (suffix_fractionPart cs)

theorem suffix_wholePart (cs : List Char) : (wholePart cs).2 <:+ cs := by
  unfold wholePart
  split
  · exact List.suffix_cons ..
  · exact suffix_digitRun ..

theorem suffix_decimal? {v : Value} (h : decimal? cs = some (.ok (v, rest))) : rest <:+ cs := by
  have hwhole : (wholePart (cs.drop (signPart cs).length)).2 <:+ cs :=
    (suffix_wholePart _).trans (List.drop_suffix ..)
  rw [decimal?_eq] at h
  dsimp only at h
  split_ifs at h
  · have h := Option.some.inj h
    split at h <;> cases h
    exact hwhole
  · cases h
    exact (suffix_floatPart _).trans hwhole

theorem suffix_specialFloat? {v : Value} (h : specialFloat? cs = some (v, rest)) : rest <:+ cs := by
  have hsign := splitSign_suffix cs
  unfold specialFloat? at h
  dsimp only at h
  split at h
  · rename_i hafter
    cases h
    exact (suffix_after? hafter).trans hsign
  · obtain ⟨r, hafter, h⟩ := Option.map_eq_some_iff.1 h
    cases h
    exact (suffix_after? hafter).trans hsign

theorem suffix_plainValue {v : Value} (h : plainValue cs = .ok (v, rest)) : rest <:+ cs := by
  unfold plainValue at h
  split at h
  · rename_i hdate
    exact suffix_dateOrTime? (hdate.trans (congrArg some h))
  split at h
  · rename_i hradix
    cases h
    exact suffix_radix? hradix
  split at h
  · rename_i hdecimal
    exact suffix_decimal? (hdecimal.trans (congrArg some h))
  · exact suffix_specialFloat? (required_eq_ok h)

end Toml

end Overlay
