/-
Ids of prepared nodes. The checks let no id pass twice, claims take user ids that are still free, and
numbered ids avoid all ids taken; so the internal ids that nodes bring along and those that they are
given never repeat.
-/
import Overlay.Element.Prepare
import Mathlib.Data.List.Nodup

namespace Overlay

/-! ## Ids that nodes bring along -/

/-- One step of the checks: the user id is looked at before the internal id. -/
theorem checkIds_cons (n : Node) (ns : List Node) (users taken : List String) :
    checkIds (n :: ns) users taken =
      match n.userId.filter (· ∈ users), n.internalId.filter (· ∈ taken) with
      | some id, _ => .error (.duplicateId .user id)
      | none, some id => .error (.duplicateId .internal id)
      | none, none => checkIds ns (n.userId.toList ++ users) (n.internalId.toList ++ taken) := by
  rw [checkIds]
  rcases n.userId with _ | u
  · rcases n.internalId with _ | id
    · rfl
    · by_cases hid : id ∈ taken <;> simp [Option.filter, hid]
      rfl
  · by_cases hu : u ∈ users
    · simp [Option.filter, hu]
      rfl
    · rcases n.internalId with _ | id
      · simp [Option.filter, hu]
      · by_cases hid : id ∈ taken <;> simp [Option.filter, hu, hid]
        rfl

/-- Ids that pass the checks repeat neither each other nor those of earlier nodes. -/
theorem checkIds_ok : ∀ {ns : List Node} {users taken preset : List String},
    checkIds ns users taken = .ok preset → users.Nodup → taken.Nodup →
      ((ns.filterMap (·.userId)).reverse ++ users).Nodup ∧
      preset = (ns.filterMap (·.internalId)).reverse ++ taken ∧ preset.Nodup
  | [], users, taken, preset, h, hu, ht => by
    simp only [checkIds, Except.ok.injEq] at h
    subst h
    exact ⟨by simpa using hu, by simp, ht⟩
  | n :: ns, users, taken, preset, h, hu, ht => by
    rw [checkIds_cons] at h
    split at h
    · cases h
    · cases h
    · rename_i hun hin
      have hu' : (n.userId.toList ++ users).Nodup := by
        rcases hn : n.userId with _ | u
        · exact hu
        · exact List.nodup_cons.2 ⟨by simpa [hn, Option.filter] using hun, hu⟩
      have ht' : (n.internalId.toList ++ taken).Nodup := by
        rcases hn : n.internalId with _ | id
        · exact ht
        · exact List.nodup_cons.2 ⟨by simpa [hn, Option.filter] using hin, ht⟩
      obtain ⟨h1, h2, h3⟩ := checkIds_ok h hu' ht'
      refine ⟨?_, ?_, h3⟩
      · rcases hn : n.userId with _ | u <;> simpa [hn] using h1
      · rcases hn : n.internalId with _ | id <;> simpa [hn] using h2

/-- Where the present values of a list do not repeat, a value comes from one element alone. -/
theorem eq_of_filterMap_nodup {α β : Type} {f : α → Option β} {x : β} : ∀ {l : List α} {a b : α},
    (l.filterMap f).Nodup → a ∈ l → b ∈ l → f a = some x → f b = some x → a = b
  | c :: l, a, b, h, ha, hb, hfa, hfb => by
    have htail : (l.filterMap f).Nodup := h.sublist ((List.sublist_cons_self c l).filterMap f)
    have hrest : ∀ d ∈ l, f d = some x → f c ≠ some x := by
      intro d hd hfd hfc
      rw [List.filterMap_cons, hfc] at h
      exact (List.nodup_cons.1 h).1 (List.mem_filterMap.2 ⟨d, hd, hfd⟩)
    rcases List.mem_cons.1 ha with rfl | hal
    · rcases List.mem_cons.1 hb with rfl | hbl
      · rfl
      · exact absurd hfa (hrest b hbl hfb)
    · rcases List.mem_cons.1 hb with rfl | hbl
      · exact absurd hfb (hrest a hal hfa)
      · exact eq_of_filterMap_nodup htail hal hbl hfa hfb

/-! ## Claims -/

/-- Claims are distinct free user ids, and they are taken from then on. -/
theorem claimIds_spec : ∀ (ns : List (NodeId × Node)) (taken : List String), taken.Nodup →
    (claimIds ns taken).2 = ((claimIds ns taken).1.map Prod.snd).reverse ++ taken ∧ (claimIds ns taken).2.Nodup
  | [], taken, ht => ⟨by simp [claimIds], ht⟩
  | (i, n) :: ns, taken, ht => by
    unfold claimIds
    split
    · split
      · rename_i id _ _ hid
        have hfree : id ∉ taken := by
          simp only [Bool.and_eq_true, decide_eq_true_eq] at hid
          exact hid.2
        obtain ⟨h1, h2⟩ := claimIds_spec ns (id :: taken) (List.nodup_cons.2 ⟨hfree, ht⟩)
        refine ⟨?_, h2⟩
        simp only [h1, List.map_cons, List.reverse_cons, List.append_assoc, List.singleton_append]
      · exact claimIds_spec ns taken ht
    · exact claimIds_spec ns taken ht

/-! ## Numbers -/

/-- Digits tell which number they are of. -/
theorem toDigits_inj {m n : Nat} (h : Nat.toDigits 10 m = Nat.toDigits 10 n) : m = n := by
  calc m = Nat.ofDigitChars 10 (Nat.toDigits 10 m) 0 := (Nat.ofDigitChars_toDigits (by omega) (by omega)).symm
    _ = n := by rw [h, Nat.ofDigitChars_toDigits (by omega) (by omega)]

theorem append_toString_inj {stem : String} {m n : Nat} (h : stem ++ toString m = stem ++ toString n) : m = n := by
  have hs : toString m = toString n := (String.append_right_inj stem).1 h
  refine toDigits_inj ?_
  rw [← Nat.toList_repr, ← Nat.toList_repr]
  exact congrArg String.toList hs

/-- Ids with smaller numbers are other ids. -/
theorem not_mem_of_smaller {stem : String} {n : Nat} {passed : List String}
    (h : ∀ p ∈ passed, ∃ k < n, p = stem ++ toString k) : stem ++ toString n ∉ passed := by
  intro hm
  obtain ⟨k, hk, he⟩ := h _ hm
  have := append_toString_inj he
  omega

/-- The search ends at a free number: the ids that it passed over are taken and distinct, so they can be
no more than all that are taken. -/
theorem freeNumber_not_mem (stem : String) (taken : List String) : ∀ (steps n : Nat) (passed : List String),
    passed.Nodup → (∀ p ∈ passed, p ∈ taken) → (∀ p ∈ passed, ∃ k < n, p = stem ++ toString k) →
      passed.length + steps = taken.length → stem ++ toString (freeNumber stem taken steps n) ∉ taken
  | 0, n, passed, hnd, htaken, hp, hlen => by
    -- as many ids are passed over as are taken, so a further one cannot be among those taken
    intro hmem
    have hsub : (stem ++ toString n) :: passed ⊆ taken := by
      intro p hpm
      rcases List.mem_cons.1 hpm with rfl | hpm
      · exact hmem
      · exact htaken p hpm
    have := List.Nodup.length_le_of_subset (List.nodup_cons.2 ⟨not_mem_of_smaller hp, hnd⟩) hsub
    simp only [List.length_cons] at this
    omega
  | steps + 1, n, passed, hnd, htaken, hp, hlen => by
    unfold freeNumber
    split
    · rename_i hmem
      refine freeNumber_not_mem stem taken steps (n + 1) ((stem ++ toString n) :: passed)
        (List.nodup_cons.2 ⟨not_mem_of_smaller hp, hnd⟩) ?_ ?_ ?_
      · intro p hpm
        rcases List.mem_cons.1 hpm with rfl | hpm
        · exact hmem
        · exact htaken p hpm
      · intro p hpm
        rcases List.mem_cons.1 hpm with rfl | hpm
        · exact ⟨n, by omega, rfl⟩
        · obtain ⟨k, hk, he⟩ := hp p hpm
          exact ⟨k, by omega, he⟩
      · simp only [List.length_cons]
        omega
    · assumption

/-- The number that a node is given makes a free id. -/
theorem freeNumber_free (stem : String) (taken : List String) (n : Nat) :
    stem ++ toString (freeNumber stem taken taken.length n) ∉ taken :=
  freeNumber_not_mem stem taken taken.length n [] List.nodup_nil (by simp) (by simp) (by simp)

/-! ## Assigned ids -/

theorem mem_of_lookup {α : Type} {l : List (NodeId × α)} {i : NodeId} {a : α} (h : l.lookup i = some a) :
    (i, a) ∈ l := by
  obtain ⟨l₁, l₂, rfl, -⟩ := List.lookup_eq_some_iff.1 h
  simp

/-- Where keys do not repeat, a member is found under its key. -/
theorem lookup_of_mem {α : Type} {l : List (NodeId × α)} (hnd : (l.map Prod.fst).Nodup) {i : NodeId} {a : α}
    (h : (i, a) ∈ l) : l.lookup i = some a := by
  obtain ⟨b, hb⟩ : ∃ b, l.lookup i = some b := by
    rw [← Option.isSome_iff_exists, List.lookup_isSome_iff]
    exact ⟨(i, a), h, by simp⟩
  have hsame := List.inj_on_of_nodup_map hnd (mem_of_lookup hb) h rfl
  rw [hb, (Prod.mk.inj hsame).2]

/-- An id that is given was claimed for its node or was free. -/
theorem assignIds_origin (claims : List (NodeId × String)) :
    ∀ (ns : List (NodeId × Node)) (last : Nat) (taken : List String),
      ∀ a ∈ assignIds claims ns last taken, claims.lookup a.1 = some a.2 ∨ a.2 ∉ taken
  | [], _, _, a, h => by simp [assignIds] at h
  | (i, n) :: ns, last, taken, a, h => by
    unfold assignIds at h
    split at h
    · exact assignIds_origin claims ns last taken a h
    · split at h
      · rename_i id hid
        rcases List.mem_cons.1 h with rfl | h
        · exact .inl hid
        · exact assignIds_origin claims ns last taken a h
      · rcases List.mem_cons.1 h with rfl | h
        · exact .inr (freeNumber_free _ _ _)
        · rcases assignIds_origin claims ns _ _ a h with h | h
          · exact .inl h
          · exact .inr fun hm => h (List.mem_cons_of_mem _ hm)

/-- The nodes that are given an id are those without one, in order. -/
theorem assignIds_keys (claims : List (NodeId × String)) :
    ∀ (ns : List (NodeId × Node)) (last : Nat) (taken : List String),
      (assignIds claims ns last taken).map Prod.fst = (ns.filter (·.2.internalId.isNone)).map Prod.fst
  | [], _, _ => rfl
  | (i, n) :: ns, last, taken => by
    unfold assignIds
    split
    · rename_i h
      rw [assignIds_keys claims ns last taken, List.filter_cons_of_neg (by simp [Option.isSome_iff_ne_none.1 h])]
    · rename_i h
      rw [List.filter_cons_of_pos (by simpa using h)]
      split <;> simp only [List.map_cons, assignIds_keys claims ns]

/-- The ids that are given do not repeat. -/
theorem assignIds_nodup {claims : List (NodeId × String)} (hc : (claims.map Prod.snd).Nodup) :
    ∀ {ns : List (NodeId × Node)} {last : Nat} {taken : List String}, (ns.map Prod.fst).Nodup →
      (∀ c ∈ claims, c.2 ∈ taken) → ((assignIds claims ns last taken).map Prod.snd).Nodup
  | [], _, _, _, _ => by simp [assignIds]
  | (i, n) :: ns, last, taken, hns, htaken => by
    obtain ⟨hi, hns⟩ := List.nodup_cons.1 hns
    unfold assignIds
    split
    · exact assignIds_nodup hc hns htaken
    · split
      · rename_i id hid
        refine List.nodup_cons.2 ⟨?_, assignIds_nodup hc hns htaken⟩
        -- no later node has the claim of this one, and a free id is no claim
        intro hm
        obtain ⟨a, ha, rfl⟩ := List.mem_map.1 hm
        have hmem := mem_of_lookup hid
        rcases assignIds_origin claims ns last taken a ha with h | h
        · have hkey : a.1 ∈ ns.map Prod.fst := by
            have := List.mem_map_of_mem (f := Prod.fst) ha
            rw [assignIds_keys] at this
            exact (List.filter_sublist.map _).subset this
          have := List.inj_on_of_nodup_map hc (mem_of_lookup h) hmem rfl
          rw [Prod.mk.injEq] at this
          exact hi (this.1 ▸ hkey)
        · exact h (htaken (i, a.2) hmem)
      · refine List.nodup_cons.2 ⟨?_, assignIds_nodup hc hns fun c h => List.mem_cons_of_mem _ (htaken c h)⟩
        intro hm
        obtain ⟨a, ha, he⟩ := List.mem_map.1 hm
        rcases assignIds_origin claims ns _ _ a ha with h | h
        · have := htaken _ (mem_of_lookup h)
          rw [he] at this
          exact freeNumber_free _ _ _ this
        · exact h (he ▸ List.mem_cons_self ..)

end Overlay
