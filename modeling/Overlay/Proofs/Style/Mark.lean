/-
Marks of names. A mark at the front of a name says to which state the property belongs, and what comes after
the mark is the name under which it is read there. No mark begins another, so a name has one mark at most; and
no state has more than two marks, so at most two properties are read under one name.
-/
import Overlay.Style.Resolve
import Mathlib.Data.List.Infix

namespace Overlay

open Text

/-- Two marks at the front of one name are the same mark. -/
theorem mark_unique {key : List Char} {m m' : String × StyleState} (hm : m ∈ stateMarks) (hm' : m' ∈ stateMarks)
    (h : m.1.toList <+: key) (h' : m'.1.toList <+: key) : m = m' := by
  have happart : ∀ a ∈ stateMarks, ∀ b ∈ stateMarks, a.1.toList <+: b.1.toList → a = b := by decide
  rcases List.prefix_or_prefix_of_prefix h h' with h | h
  · exact happart m hm m' hm' h
  · exact (happart m' hm' m hm h).symm

theorem splitState_of_mark {m : String × StyleState} (hm : m ∈ stateMarks) (name : String) :
    splitState (m.1 ++ name) = (some m.2, name) := by
  have hafter : after? m.1.toList (m.1 ++ name).toList = some name.toList := by
    rw [after?_eq_some_iff, String.toList_append]
  unfold splitState
  rcases hf : stateMarks.findSome? fun m' => (after? m'.1.toList (m.1 ++ name).toList).map fun rest =>
    (some m'.2, String.ofList rest) with _ | found
  · have hnone := List.findSome?_eq_none_iff.1 hf m hm
    rw [hafter] at hnone
    cases hnone
  · obtain ⟨m', hm', hfound⟩ := List.exists_of_findSome?_eq_some hf
    obtain ⟨rest, hrest, rfl⟩ := Option.map_eq_some_iff.1 hfound
    obtain rfl : m' = m := mark_unique hm' hm ⟨rest, (after?_eq_some_iff.1 hrest).symm⟩
      ⟨_, (after?_eq_some_iff.1 hafter).symm⟩
    rw [hafter] at hrest
    cases hrest
    rw [hf, Option.getD_some, String.ofList_toList]

/-- A name is either a mark with a name after it, or has no mark and is read as it stands. -/
theorem splitState_cases (key : String) :
    (∃ m ∈ stateMarks, ∃ name, key = m.1 ++ name) ∨
      (∀ m ∈ stateMarks, ¬ m.1.toList <+: key.toList) ∧ splitState key = (none, key) := by
  by_cases hmark : ∃ m ∈ stateMarks, m.1.toList <+: key.toList
  · obtain ⟨m, hm, rest, hrest⟩ := hmark
    refine .inl ⟨m, hm, String.ofList rest, ?_⟩
    rw [← String.toList_inj, String.toList_append, String.toList_ofList, hrest]
  · push Not at hmark
    refine .inr ⟨hmark, ?_⟩
    have hnone : stateMarks.findSome? (fun m => (after? m.1.toList key.toList).map fun rest =>
        (some m.2, String.ofList rest)) = none := by
      refine List.findSome?_eq_none_iff.2 fun m hm => Option.map_eq_none_iff.2 ?_
      exact Option.eq_none_iff_forall_ne_some.2 fun rest hrest =>
        hmark m hm ⟨rest, (after?_eq_some_iff.1 hrest).symm⟩
    unfold splitState
    rw [hnone]
    rfl

theorem splitState_eq_some_iff {key name : String} {state : StyleState} :
    splitState key = (some state, name) ↔ ∃ m ∈ stateMarks, m.2 = state ∧ key = m.1 ++ name := by
  constructor
  · intro h
    rcases splitState_cases key with ⟨m, hm, name', rfl⟩ | ⟨-, hnone⟩
    · rw [splitState_of_mark hm] at h
      cases h
      exact ⟨m, hm, rfl, rfl⟩
    · rw [hnone] at h
      cases h
  · rintro ⟨m, hm, rfl, rfl⟩
    exact splitState_of_mark hm name

/-- A name with a mark belongs to a state other than the default. -/
theorem splitState_ne_default {key name : String} {state : StyleState} (h : splitState key = (some state, name)) :
    state ≠ .default := by
  obtain ⟨m, hm, rfl, -⟩ := splitState_eq_some_iff.1 h
  have hmarks : ∀ m ∈ stateMarks, m.2 ≠ .default := by decide
  exact hmarks m hm

/-- A name that is read as it stands, is read as itself. -/
theorem splitState_of_none {key name : String} (h : splitState key = (none, name)) : name = key := by
  rcases splitState_cases key with ⟨m, hm, rest, rfl⟩ | ⟨-, hnone⟩
  · rw [splitState_of_mark hm] at h
    cases h
  · rw [hnone] at h
    cases h
    rfl

/-- Of three names that are read alike two are the same. -/
theorem splitState_eq_of_three {k₁ k₂ k₃ name : String} {state : StyleState} (h₁ : splitState k₁ = (some state, name))
    (h₂ : splitState k₂ = (some state, name)) (h₃ : splitState k₃ = (some state, name)) :
    k₁ = k₂ ∨ k₂ = k₃ ∨ k₁ = k₃ := by
  have htwo : ∀ a ∈ stateMarks, ∀ b ∈ stateMarks, ∀ c ∈ stateMarks, a.2 = b.2 → b.2 = c.2 → a = b ∨ b = c ∨ a = c := by
    decide
  obtain ⟨a, ha, hsa, rfl⟩ := splitState_eq_some_iff.1 h₁
  obtain ⟨b, hb, hsb, rfl⟩ := splitState_eq_some_iff.1 h₂
  obtain ⟨c, hc, hsc, rfl⟩ := splitState_eq_some_iff.1 h₃
  rcases htwo a ha b hb c hc (hsa.trans hsb.symm) (hsb.trans hsc.symm) with rfl | rfl | rfl
  · exact .inl rfl
  · exact .inr (.inl rfl)
  · exact .inr (.inr rfl)

end Overlay
