/-
Identifiers among the internal ids. A node that has none when it is prepared claims its user id or gets its type
name with a number. A type name with a number is an identifier, and so is what is claimed, but for one thing: a
user id that is an identifier with a line feed after it passes for safe and is claimed with the line feed.
-/
import Overlay.Proofs.Element.Numbering

namespace Overlay

open Text

/-! ## Characters of identifiers -/

/-- The characters of an identifier. -/
theorem mem_identifier {cs : List Char} (h : isIdentifier cs) : ∀ c ∈ cs,
    isAsciiLetter c ∨ Token.isDigit c ∨ c = '_' := by
  cases cs with
  | nil => intro c hc; cases hc
  | cons a cs =>
    simp only [isIdentifier, Bool.and_eq_true, List.all_eq_true, Bool.or_eq_true, decide_eq_true_eq] at h
    intro c hc
    rcases List.mem_cons.1 hc with rfl | hc
    · exact .inl h.1
    · exact or_assoc.1 (h.2 c hc)

theorem plain_of_mem_identifier {cs : List Char} (h : isIdentifier cs) {c : Char} (hc : c ∈ cs) :
    c ≠ '#' ∧ isBlank c = false := by
  have hrange : (97 ≤ c.toNat ∧ c.toNat ≤ 122) ∨ (65 ≤ c.toNat ∧ c.toNat ≤ 90) ∨ (48 ≤ c.toNat ∧ c.toNat ≤ 57) ∨
      c.toNat = 95 := by
    have hm := mem_identifier h c hc
    simp only [isAsciiLetter, Token.isDigit, Bool.or_eq_true, Bool.and_eq_true, decide_eq_true_eq, Char.le_def,
      UInt32.le_iff_toNat_le] at hm
    rcases hm with (hm | hm) | hm | rfl
    · exact .inl hm
    · exact .inr (.inl hm)
    · exact .inr (.inr (.inl hm))
    · exact .inr (.inr (.inr rfl))
  constructor
  · rintro rfl
    exact absurd hrange (by decide)
  · simp only [isBlank, inRanges, blankRanges, List.any_cons, List.any_nil, Bool.or_false, Bool.or_eq_false_iff,
      Bool.and_eq_false_iff, decide_eq_false_iff_not]
    omega

/-- No identifier ends in a line feed, which is a blank. -/
theorem not_isIdentifier_lineFeed (name : List Char) : ¬ isIdentifier (name ++ ['\n']) := by
  intro h
  obtain ⟨-, hblank⟩ := plain_of_mem_identifier h (c := '\n') (by simp)
  exact absurd hblank (by decide)

theorem isIdentifier_append {cs ds : List Char} (hcs : isIdentifier cs)
    (hds : ∀ d ∈ ds, isAsciiLetter d ∨ Token.isDigit d ∨ d = '_') : isIdentifier (cs ++ ds) := by
  rcases cs with _ | ⟨c, cs⟩
  · cases hcs
  simp only [isIdentifier, List.cons_append, Bool.and_eq_true, List.all_eq_true, List.all_append, Bool.or_eq_true,
    decide_eq_true_eq] at hcs ⊢
  exact ⟨hcs.1, hcs.2, fun d hd => or_assoc.2 (hds d hd)⟩

/-- A type name with a number is an identifier. -/
theorem isIdentifier_numbered (kind : Kind) (n : Nat) : isIdentifier (kind.typeName ++ toString n).toList := by
  have hstem : isIdentifier kind.typeName.toList := by cases kind <;> decide
  have hrepr : (toString n).toList = Nat.toDigits 10 n := Nat.toList_repr
  rw [String.toList_append, hrepr]
  refine isIdentifier_append hstem fun d hd => .inr (.inl ?_)
  have hdigit := Nat.isDigit_of_mem_toDigits (by omega) (by omega) hd
  simpa [Token.isDigit, Char.isDigit, Char.le_def] using hdigit

/-! ## Ids that are given -/

/-- A user id that may serve is an identifier, with or without a line feed after it. -/
theorem isSafeId_iff {id : String} : isSafeId id ↔
    isIdentifier id.toList ∨ ∃ name, isIdentifier name ∧ id = String.ofList (name ++ ['\n']) := by
  simp only [isSafeId, Bool.or_eq_true, Bool.and_eq_true, decide_eq_true_eq]
  refine or_congr_right ⟨fun ⟨hlast, hname⟩ => ⟨_, hname, ?_⟩, ?_⟩
  · rw [List.dropLast_append_getLast? '\n' hlast, String.ofList_toList]
  · rintro ⟨name, hname, rfl⟩
    simpa using hname

/-- A node without an internal id gets what it claims, or else its type name with a number. -/
theorem Store.IdsGiven.claimed_or_numbered {s s' : Store} {roots : List NodeId} (h : s.IdsGiven roots s') {i : NodeId}
    (hi : s.Reached roots i) (hnone : (s.node i).internalId = none) :
    (∃ id, s.Claims roots i id ∧ (s'.node i).internalId = some id) ∨
      (∀ id, ¬ s.Claims roots i id) ∧
        ∃ n : Nat, (s'.node i).internalId = some ((s.node i).kind.typeName ++ toString n) := by
  by_cases hclaim : ∃ id, s.Claims roots i id
  · obtain ⟨id, hclaim⟩ := hclaim
    exact .inl ⟨id, hclaim, h.claimed i id hclaim⟩
  · rw [not_exists] at hclaim
    obtain ⟨others, numbers, -, hothers, -, -, hids⟩ := h.numbered
    obtain ⟨hlength, hget⟩ := List.forall₂_iff_get.1 hids
    obtain ⟨k, hk, rfl⟩ := List.mem_iff_getElem.1 ((hothers i).2 ⟨hi, hnone, hclaim⟩)
    exact .inr ⟨hclaim, _, hget k hk (hlength ▸ hk)⟩

/-- Every internal id that a preparation gives to a node without one is an identifier, except exactly where the
node's user id is an identifier with a line feed after it that no node has for its internal id from before. -/
theorem prepare_gives_identifiers {s s' : Store} {roots : List NodeId} (hc : s.Closed) (hr : ∀ i ∈ roots, i < s.size)
    (h : (prepare roots).run s = (.ok (), s')) {i : NodeId} (hi : s.Reached roots i)
    (hnone : (s.node i).internalId = none) :
    ∃ id, (s'.node i).internalId = some id ∧ (isIdentifier id.toList ↔
      ∀ name, isIdentifier name → (s.node i).userId = some (String.ofList (name ++ ['\n'])) →
        s.Preset roots (String.ofList (name ++ ['\n']))) := by
  have hgiven := idsGiven_of_ok hc hr h
  rcases hgiven.claimed_or_numbered hi hnone with ⟨id, hclaim, hid⟩ | ⟨hno, n, hid⟩
  · obtain ⟨-, -, huser, hsafe, hfree⟩ := hclaim
    refine ⟨id, hid, fun hplain name _ hname => ?_, fun hpreset => ?_⟩
    · rw [huser] at hname
      cases hname
      rw [String.toList_ofList] at hplain
      exact absurd hplain (not_isIdentifier_lineFeed name)
    · rcases isSafeId_iff.1 hsafe with hplain | ⟨name, hname, rfl⟩
      · exact hplain
      · exact absurd (hpreset name hname huser) hfree
  · refine ⟨_, hid, fun _ name hname huser => ?_, fun _ => isIdentifier_numbered _ n⟩
    -- a user id that may serve and is not claimed is some node's internal id
    by_contra hfree
    exact hno _ ⟨hi, hnone, huser, isSafeId_iff.2 (.inr ⟨name, hname, rfl⟩), hfree⟩

/-- A group with a label and a slider whose user ids end in a line feed, and a button that has the user id of the
slider for its internal id. -/
def lineFed (group label slider : Option String) (parent : Option NodeId) : Store := ⟨#[
  { kind := .group, internalId := group, children := [1, 2, 3] },
  { kind := .label, userId := some "a\n", internalId := label, parent },
  { kind := .slider, userId := some "b\n", internalId := slider, parent },
  { kind := .button, internalId := some "b\n", parent }]⟩

theorem collect_lineFed : collect (lineFed none none none none) [(0, none)] [] = .ok [0, 1, 2, 3] := by cbv

theorem prepare_lineFed : (prepare [0]).run (lineFed none none none none) =
    (.ok (), lineFed (some "Group1") (some "a\n") (some "Slider2") (some 0)) := by
  have hcheck : checkIds (((lineFed none none none none).listed [0, 1, 2, 3]).map Prod.snd) [] [] = .ok ["b\n"] := by
    decide +kernel
  have hnew : newIds ((lineFed none none none none).listed [0, 1, 2, 3]) ["b\n"] =
      [(0, "Group1"), (1, "a\n"), (2, "Slider2")] := by decide +kernel
  rw [run_prepare_of_ok collect_lineFed hcheck, hnew]
  rfl

/-- The user id of the slider is some node's internal id, so the slider is given an identifier. -/
theorem prepare_gives_identifiers_lineFed :
    (lineFed none none none none).Closed ∧ (∀ i ∈ [0], i < (lineFed none none none none).size) ∧
    (prepare [0]).run (lineFed none none none none) =
      (.ok (), lineFed (some "Group1") (some "a\n") (some "Slider2") (some 0)) ∧
    (lineFed none none none none).Reached [0] 2 ∧ ((lineFed none none none none).node 2).internalId = none ∧
    isIdentifier "Slider2".toList := by
  have hc : (lineFed none none none none).Closed := Store.closed_of_nodes (by decide)
  have hr : ∀ i ∈ [0], i < (lineFed none none none none).size := by decide
  have hreached : ∀ i ∈ [0, 1, 2, 3], (lineFed none none none none).Reached [0] i := fun i =>
    (mem_collect_iff collect_lineFed i).1
  obtain ⟨id, hid, hplain⟩ :=
    prepare_gives_identifiers hc hr prepare_lineFed (hreached 2 (by decide)) rfl
  cases hid
  refine ⟨hc, hr, prepare_lineFed, hreached 2 (by decide), rfl, hplain.2 fun name _ huser => ?_⟩
  exact ⟨3, hreached 3 (by decide), huser⟩

/-- The user id of the label is nobody's internal id, so the label is given what is no identifier. -/
theorem not_identifier_lineFed :
    ¬ ∀ i, (lineFed none none none none).Reached [0] i → ((lineFed none none none none).node i).internalId = none →
      ∀ s', (prepare [0]).run (lineFed none none none none) = (.ok (), s') →
        ∀ id, (s'.node i).internalId = some id → isIdentifier id.toList := by
  intro h
  have hlabel := h 1 ((mem_collect_iff collect_lineFed 1).1 (by decide)) rfl _ prepare_lineFed "a\n" rfl
  exact absurd hlabel (by decide)

end Overlay
