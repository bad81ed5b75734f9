/-
Numbered ids. A node that is prepared keeps its internal id, or else claims its user id, or else is given
its type name with a number. Numbers rise in document order over all kinds, and each is the least above the
one before it whose id is reserved neither by a node that has it nor by one that claims it: type names end
in no digit, so an id that was numbered earlier is never met again and passes nobody over.
-/
import Overlay.Proofs.Element.Ownership
import Mathlib.Data.List.TakeWhile
import Mathlib.Order.Bounds.Defs

namespace Overlay

/-! ## The search for a free number -/

/-- The search for a free number goes on for some tries and ends: its rules, which say nothing of why it
ends. -/
inductive Searches (stem : String) (taken : List String) : Nat → Nat → Nat → Prop
  | free {n : Nat} (h : stem ++ toString n ∉ taken) : Searches stem taken 1 n n
  | taken {tries n m : Nat} (h : stem ++ toString n ∈ taken) (rest : Searches stem taken tries (n + 1) m) :
    Searches stem taken (tries + 1) n m

/-- What a search passes over is taken and what it finds is free. -/
theorem Searches.isLeast {stem : String} {taken : List String} {tries n m : Nat} (h : Searches stem taken tries n m) :
    IsLeast {k | n ≤ k ∧ stem ++ toString k ∉ taken} m := by
  induction h with
  | @free n h => exact ⟨⟨Nat.le_refl n, h⟩, fun k hk => hk.1⟩
  | @taken tries n m h _ ih =>
    obtain ⟨⟨hle, hfree⟩, hleast⟩ := ih
    refine ⟨⟨by omega, hfree⟩, fun k ⟨hk, hkfree⟩ => hleast ⟨?_, hkfree⟩⟩
    have hne : n ≠ k := by
      rintro rfl
      exact hkfree h
    omega

theorem searches_of_free (stem : String) (taken : List String) : ∀ steps n : Nat,
    stem ++ toString (freeNumber stem taken steps n) ∉ taken →
      ∃ tries ≤ steps + 1, Searches stem taken tries n (freeNumber stem taken steps n)
  | 0, n, h => ⟨1, by omega, .free h⟩
  | steps + 1, n, h => by
    unfold freeNumber at h ⊢
    split
    · rename_i hmem
      rw [if_pos hmem] at h
      obtain ⟨tries, hle, hs⟩ := searches_of_free stem taken steps (n + 1) h
      exact ⟨tries + 1, by omega, .taken hmem hs⟩
    · rename_i hfree
      exact ⟨1, by omega, .free hfree⟩

/-- A search ends: it takes no more tries than ids are taken, and one. -/
theorem exists_searches (stem : String) (taken : List String) (n : Nat) :
    ∃ tries ≤ taken.length + 1, Searches stem taken tries n (freeNumber stem taken taken.length n) :=
  searches_of_free stem taken taken.length n (freeNumber_free stem taken n)

/-! ## Type names with numbers -/

theorem isDigit_of_mem_typeName (kind : Kind) : ∀ c ∈ kind.typeName.toList, c.isDigit = false := by
  have hall : kind.typeName.toList.all (!·.isDigit) := by cases kind <;> decide
  intro c hc
  simpa using List.all_eq_true.1 hall c hc

/-- A type name ends where the digits begin, so ids with different numbers differ whatever their kinds. -/
theorem number_inj {kind kind' : Kind} {m n : Nat} (h : kind.typeName ++ toString m = kind'.typeName ++ toString n) :
    m = n := by
  have hdigits : ∀ (k : Kind) (j : Nat), (k.typeName ++ toString j).toList.dropWhile (fun c => !c.isDigit) =
      Nat.toDigits 10 j := by
    intro k j
    have hrepr : (toString j).toList = Nat.toDigits 10 j := Nat.toList_repr
    rw [String.toList_append, List.dropWhile_append_of_pos (fun c hc => by simp [isDigit_of_mem_typeName k c hc]),
      hrepr, List.dropWhile_eq_self_iff]
    intro hpos
    simpa using Nat.isDigit_of_mem_toDigits (by omega) (by omega) (List.getElem_mem hpos)
  exact toDigits_inj (by rw [← hdigits kind m, ← hdigits kind' n, h])

/-! ## Numbers in order -/

/-- Numbers for nodes of some kinds after a last one: each is the least above the one before it whose id is
not reserved. -/
inductive Numbered (reserved : String → Prop) : Nat → List Kind → List Nat → Prop
  | nil {last : Nat} : Numbered reserved last [] []
  | cons {last n : Nat} {kind : Kind} {kinds : List Kind} {ns : List Nat}
    (least : IsLeast {m | last < m ∧ ¬ reserved (kind.typeName ++ toString m)} n)
    (rest : Numbered reserved n kinds ns) : Numbered reserved last (kind :: kinds) (n :: ns)

/-- Numbers rise strictly. -/
theorem Numbered.rising {reserved : String → Prop} {last : Nat} {kinds : List Kind} {ns : List Nat}
    (h : Numbered reserved last kinds ns) : (last :: ns).Pairwise (· < ·) := by
  induction h with
  | nil => exact List.pairwise_singleton ..
  | cons least _ ih =>
    refine List.pairwise_cons.2 ⟨fun m hm => ?_, ih⟩
    rcases List.mem_cons.1 hm with rfl | hm
    · exact least.1.1
    · exact Nat.lt_trans least.1.1 ((List.pairwise_cons.1 ih).1 m hm)

/-- The nodes that are given numbers: they have no internal id and no claim. -/
def unclaimed (claims : List (NodeId × String)) (ns : List (NodeId × Node)) : List (NodeId × Node) :=
  ns.filter fun n => n.2.internalId.isNone && (claims.lookup n.1).isNone

/-- The free number after the last one is the least whose id is not reserved, if all ids that are taken are
reserved or were numbered. -/
theorem freeNumber_isLeast {reserved : String → Prop} {last : Nat} {taken : List String}
    (hreserved : ∀ id, reserved id → id ∈ taken)
    (htaken : ∀ id ∈ taken, reserved id ∨ ∃ kind : Kind, ∃ n ≤ last, id = kind.typeName ++ toString n) (kind : Kind) :
    IsLeast {m | last < m ∧ ¬ reserved (kind.typeName ++ toString m)}
      (freeNumber kind.typeName taken taken.length (last + 1)) := by
  obtain ⟨tries, -, hs⟩ := exists_searches kind.typeName taken (last + 1)
  obtain ⟨⟨hle, hfree⟩, hleast⟩ := hs.isLeast
  refine ⟨⟨hle, fun hr => hfree (hreserved _ hr)⟩, fun m ⟨hm, hr⟩ => hleast ⟨hm, fun hmem => ?_⟩⟩
  -- an id that was numbered has a smaller number
  rcases htaken _ hmem with h | ⟨kind', n, hn, h⟩
  · exact hr h
  · have := number_inj h
    omega

/-- The ids of nodes without one are numbered in order, but for those with a claim. -/
theorem assignIds_numbered {reserved : String → Prop} (claims : List (NodeId × String)) :
    ∀ (ns : List (NodeId × Node)) (last : Nat) (taken : List String), (∀ id, reserved id → id ∈ taken) →
      (∀ id ∈ taken, reserved id ∨ ∃ kind : Kind, ∃ n ≤ last, id = kind.typeName ++ toString n) →
      ∃ numbers, Numbered reserved last ((unclaimed claims ns).map (·.2.kind)) numbers ∧
        List.Forall₂ (fun n m => (n.1, n.2.kind.typeName ++ toString m) ∈ assignIds claims ns last taken)
          (unclaimed claims ns) numbers
  | [], _, _, _, _ => ⟨[], .nil, .nil⟩
  | (i, n) :: ns, last, taken, hreserved, htaken => by
    unfold assignIds unclaimed
    split
    · rename_i hsome
      rw [List.filter_cons_of_neg (by simp [Option.isSome_iff_ne_none.1 hsome])]
      exact assignIds_numbered claims ns last taken hreserved htaken
    · rename_i hnone
      split
      · rename_i id hid
        rw [List.filter_cons_of_neg (by simp [hid])]
        obtain ⟨numbers, hnumbered, hids⟩ := assignIds_numbered claims ns last taken hreserved htaken
        exact ⟨numbers, hnumbered, hids.imp fun _ _ h => List.mem_cons_of_mem _ h⟩
      · rename_i hfree
        rw [List.filter_cons_of_pos (by simp [hfree, Option.not_isSome_iff_eq_none.1 hnone])]
        have hleast := freeNumber_isLeast hreserved htaken n.kind
        dsimp only
        generalize freeNumber n.kind.typeName taken taken.length (last + 1) = number at hleast ⊢
        obtain ⟨numbers, hnumbered, hids⟩ :=
          assignIds_numbered claims ns number ((n.kind.typeName ++ toString number) :: taken)
            (fun id hr => List.mem_cons_of_mem _ (hreserved id hr)) (by
              intro id hid
              rcases List.mem_cons.1 hid with rfl | hid
              · exact .inr ⟨n.kind, number, Nat.le_refl _, rfl⟩
              · refine (htaken id hid).imp_right ?_
                rintro ⟨kind, m, hm, rfl⟩
                have := hleast.1.1
                exact ⟨kind, m, by omega, rfl⟩)
        refine ⟨number :: numbers, ?_, ?_⟩
        · exact .cons hleast hnumbered
        · exact .cons (List.mem_cons_self ..) (hids.imp fun _ _ h => List.mem_cons_of_mem _ h)

/-! ## Claims -/

/-- The user id that a node claims for its internal id, where some ids are preset: it has no internal id, and
its user id is safe and not preset. -/
def Node.claim? (n : Node) (preset : List String) : Option String :=
  if n.internalId.isNone then n.userId.filter fun id => isSafeId id && id ∉ preset else none

theorem Node.claim?_eq_some {n : Node} {preset : List String} {id : String} :
    n.claim? preset = some id ↔ n.internalId = none ∧ n.userId = some id ∧ isSafeId id ∧ id ∉ preset := by
  unfold claim?
  rcases hi : n.internalId with _ | x <;> simp [Option.filter_eq_some_iff]

/-- Where no user id occurs twice, a claim leaves the user ids of later nodes free. -/
theorem claimIds_eq (preset : List String) : ∀ (ns : List (NodeId × Node)) (earlier : List String),
    (ns.filterMap (·.2.userId)).Nodup → (∀ id ∈ earlier, id ∉ ns.filterMap (·.2.userId)) →
      (claimIds ns (earlier ++ preset)).1 = ns.filterMap fun n => (n.2.claim? preset).map (n.1, ·)
  | [], _, _, _ => rfl
  | (i, n) :: ns, earlier, hnd, hearlier => by
    have hnd' : (ns.filterMap (·.2.userId)).Nodup := hnd.sublist ((List.sublist_cons_self ..).filterMap _)
    have hlater : ∀ id ∈ earlier, id ∉ ns.filterMap (·.2.userId) := fun id hid hmem =>
      hearlier id hid (((List.sublist_cons_self ..).filterMap _).subset hmem)
    rw [claimIds.eq_def]
    dsimp only
    rcases hi : n.internalId with _ | x
    · rcases hu : n.userId with _ | id
      · have hnone : n.claim? preset = none := by simp [Node.claim?, hi, hu]
        rw [List.filterMap_cons_none (by simp [hnone])]
        exact claimIds_eq preset ns earlier hnd' hlater
      · have hmem : id ∈ ((i, n) :: ns).filterMap (·.2.userId) := by simp [hu]
        have hfresh : id ∉ earlier := fun h => hearlier id h hmem
        have hid : id ∉ ns.filterMap (·.2.userId) := by
          rw [List.filterMap_cons_some (by exact hu)] at hnd
          exact (List.nodup_cons.1 hnd).1
        have hclaim : n.claim? preset = if isSafeId id && id ∉ preset then some id else none := by
          simp only [Node.claim?, hi, hu, Option.filter_some]
          rfl
        dsimp only
        by_cases hsafe : (isSafeId id && id ∉ preset) = true
        · rw [if_pos (by simpa [hfresh] using hsafe), List.filterMap_cons_some (by rw [hclaim, if_pos hsafe]; rfl)]
          refine congrArg ((i, id) :: ·) (claimIds_eq preset ns (id :: earlier) hnd' fun x hx => ?_)
          rcases List.mem_cons.1 hx with rfl | hx
          · exact hid
          · exact hlater x hx
        · rw [if_neg (by simpa [hfresh] using hsafe), List.filterMap_cons_none (by rw [hclaim, if_neg hsafe]; rfl)]
          exact claimIds_eq preset ns earlier hnd' hlater
    · have hnone : n.claim? preset = none := by simp [Node.claim?, hi]
      rw [List.filterMap_cons_none (by simp [hnone])]
      exact claimIds_eq preset ns earlier hnd' hlater

theorem lookup_filterMap (f : NodeId → Option String) (i : NodeId) : ∀ ids : List NodeId,
    (ids.filterMap fun j => (f j).map (j, ·)).lookup i = if i ∈ ids then f i else none
  | [] => rfl
  | j :: ids => by
    have ih := lookup_filterMap f i ids
    by_cases hj : i = j
    · subst hj
      rcases hf : f i with _ | id
      · rw [List.filterMap_cons_none (by simp [hf]), ih, hf]
        simp
      · rw [List.filterMap_cons_some (by rw [hf]; rfl)]
        simp
    · have hskip : (i == j) = false := by simpa using hj
      rcases hf : f j with _ | id
      · rw [List.filterMap_cons_none (by simp [hf]), ih]
        simp [hj]
      · rw [List.filterMap_cons_some (by rw [hf]; rfl), List.lookup_cons, hskip]
        simpa [hj] using ih

/-- A node with a claim gets what it claims. -/
theorem mem_assignIds_of_claim {claims : List (NodeId × String)} {i : NodeId} {id : String} {n : Node}
    (hn : n.internalId = none) (hclaim : claims.lookup i = some id) :
    ∀ (ns : List (NodeId × Node)) (last : Nat) (taken : List String), (i, n) ∈ ns →
      (i, id) ∈ assignIds claims ns last taken
  | (j, m) :: ns, last, taken, hmem => by
    unfold assignIds
    rcases List.mem_cons.1 hmem with h | h
    · cases h
      simp [hn, hclaim]
    · have hrest := fun last taken => mem_assignIds_of_claim hn hclaim ns last taken h
      split
      · exact hrest _ _
      · split
        · exact List.mem_cons_of_mem _ (hrest _ _)
        · exact List.mem_cons_of_mem _ (hrest _ _)

/-! ## Internal ids after a preparation -/

namespace Store

variable (s : Store) (roots : List NodeId)

/-- Some node below the roots has the id for its internal id from before. -/
def Preset (id : String) : Prop := ∃ i, s.Reached roots i ∧ (s.node i).internalId = some id

/-- A node below the roots has no internal id, and its user id may serve because no node has it from before. -/
def Claims (i : NodeId) (id : String) : Prop :=
  s.Reached roots i ∧ (s.node i).internalId = none ∧ (s.node i).userId = some id ∧ isSafeId id ∧ ¬ s.Preset roots id

/-- An id that no number may make. -/
def Reserved (id : String) : Prop := s.Preset roots id ∨ ∃ i, s.Claims roots i id

/-- The internal ids below some roots as a preparation gives them: each node has one and no two the same; a
node keeps its own, or gets what it claims; the others get their type names with numbers, which rise in
document order, each the least above the one before it whose id is not reserved. -/
structure IdsGiven (s' : Store) : Prop where
  identified : ∀ i, s.Reached roots i → (s'.node i).internalId.isSome
  distinct : ∀ i j, s.Reached roots i → s.Reached roots j → (s'.node i).internalId = (s'.node j).internalId → i = j
  kept : ∀ i id, s.Reached roots i → (s.node i).internalId = some id → (s'.node i).internalId = some id
  claimed : ∀ i id, s.Claims roots i id → (s'.node i).internalId = some id
  numbered : ∃ (others : List NodeId) (numbers : List Nat), others.Sublist ((s.walk roots).map Prod.fst) ∧
    (∀ i, i ∈ others ↔ s.Reached roots i ∧ (s.node i).internalId = none ∧ ∀ id, ¬ s.Claims roots i id) ∧
    numbers.Pairwise (· < ·) ∧ Numbered (s.Reserved roots) 0 (others.map fun i => (s.node i).kind) numbers ∧
    List.Forall₂ (fun i n => (s'.node i).internalId = some ((s.node i).kind.typeName ++ toString n)) others numbers

/-- What a preparation knows when it gives ids: the nodes that it has collected, and the internal ids that
have passed the checks. -/
structure Collected (ids : List NodeId) (preset : List String) : Prop where
  walk : ids = (s.walk roots).map Prod.fst
  once : ids.Nodup
  lt_size : ∀ i ∈ ids, i < s.size
  reached : ∀ i, i ∈ ids ↔ s.Reached roots i
  checked : checkIds ((s.listed ids).map Prod.snd) [] [] = .ok preset

namespace Collected

variable {s roots} {ids : List NodeId} {preset : List String} {i : NodeId} {id : String}

/-- The user ids and the internal ids of the nodes do not repeat. -/
theorem nodup_ids (h : s.Collected roots ids preset) :
    (ids.filterMap fun i => (s.node i).userId).Nodup ∧
      preset = (ids.filterMap fun i => (s.node i).internalId).reverse ∧ preset.Nodup := by
  have hnodes : ∀ f : Node → Option String,
      ((s.listed ids).map Prod.snd).filterMap f = ids.filterMap fun i => f (s.node i) := by
    intro f
    simp only [listed, List.filterMap_map, List.map_map]
    rfl
  obtain ⟨husers, hpreset, hnd⟩ := checkIds_ok h.checked List.nodup_nil List.nodup_nil
  rw [hnodes, List.append_nil] at husers hpreset
  exact ⟨List.nodup_reverse.1 husers, hpreset, hnd⟩

theorem mem_preset_iff (h : s.Collected roots ids preset) : id ∈ preset ↔ s.Preset roots id := by
  rw [h.nodup_ids.2.1]
  simp [Preset, h.reached]

theorem claim?_iff (h : s.Collected roots ids preset) (hi : i ∈ ids) :
    (s.node i).claim? preset = some id ↔ s.Claims roots i id := by
  rw [Node.claim?_eq_some, h.mem_preset_iff]
  exact ⟨fun hc => ⟨(h.reached i).1 hi, hc⟩, fun hc => hc.2⟩

/-- The claims, in order. -/
theorem claims_eq (h : s.Collected roots ids preset) :
    (claimIds (s.listed ids) preset).1 = ids.filterMap fun i => ((s.node i).claim? preset).map (i, ·) := by
  have husers : ((s.listed ids).filterMap (·.2.userId)).Nodup := by
    rw [listed, List.filterMap_map]
    exact h.nodup_ids.1
  have hclaims := claimIds_eq preset (s.listed ids) [] husers (by simp)
  rw [List.nil_append] at hclaims
  rw [hclaims, listed, List.filterMap_map]
  rfl

theorem lookup_claims (h : s.Collected roots ids preset) (hi : i ∈ ids) :
    (claimIds (s.listed ids) preset).1.lookup i = (s.node i).claim? preset := by
  rw [h.claims_eq, lookup_filterMap (fun j => (s.node j).claim? preset), if_pos hi]

/-- The ids that are taken once the claims are made are those that are reserved. -/
theorem mem_taken_iff (h : s.Collected roots ids preset) :
    id ∈ (claimIds (s.listed ids) preset).2 ↔ s.Reserved roots id := by
  rw [(claimIds_spec (s.listed ids) preset h.nodup_ids.2.2).1, h.claims_eq, List.mem_append, List.mem_reverse,
    h.mem_preset_iff]
  constructor
  · rintro (hid | hid)
    · obtain ⟨a, ha, rfl⟩ := List.mem_map.1 hid
      obtain ⟨i, hi, ha⟩ := List.mem_filterMap.1 ha
      obtain ⟨id, hclaim, rfl⟩ := Option.map_eq_some_iff.1 ha
      exact .inr ⟨i, (h.claim?_iff hi).1 hclaim⟩
    · exact .inl hid
  · rintro (hid | ⟨i, hc⟩)
    · exact .inr hid
    · have hi := (h.reached i).2 hc.1
      refine .inl (List.mem_map.2 ⟨(i, id), List.mem_filterMap.2 ⟨i, hi, ?_⟩, rfl⟩)
      rw [(h.claim?_iff hi).2 hc]
      rfl

/-- The nodes left for numbers are those without an internal id and without a claim. -/
theorem mem_unclaimed_iff (h : s.Collected roots ids preset) {n : NodeId × Node} :
    n ∈ unclaimed (claimIds (s.listed ids) preset).1 (s.listed ids) ↔
      n.2 = s.node n.1 ∧ s.Reached roots n.1 ∧ (s.node n.1).internalId = none ∧ ∀ id, ¬ s.Claims roots n.1 id := by
  obtain ⟨i, n⟩ := n
  simp only [unclaimed, List.mem_filter, Bool.and_eq_true, Option.isNone_iff_eq_none]
  constructor
  · rintro ⟨hmem, hnone, hclaim⟩
    obtain ⟨j, hi, he⟩ := List.mem_map.1 hmem
    cases he
    rw [h.lookup_claims hi] at hclaim
    refine ⟨rfl, (h.reached i).1 hi, hnone, fun id hc => ?_⟩
    rw [(h.claim?_iff hi).2 hc] at hclaim
    cases hclaim
  · rintro ⟨rfl, hr, hnone, hno⟩
    have hi := (h.reached i).2 hr
    refine ⟨List.mem_map_of_mem hi, hnone, ?_⟩
    rw [h.lookup_claims hi, Option.eq_none_iff_forall_ne_some]
    exact fun id hid => hno id ((h.claim?_iff hi).1 hid)

/-- An id that is given to a node is its internal id afterwards. -/
theorem internalId_of_mem (h : s.Collected roots ids preset) (hmem : (i, id) ∈ newIds (s.listed ids) preset) :
    ((s.install (newIds (s.listed ids) preset) (adoptions s (s.listed ids))).node i).internalId = some id := by
  have hi : i ∈ ids := (newIds_unidentified i (List.mem_map_of_mem hmem)).1
  rw [internalId_install h.once (h.lt_size i hi), lookup_of_mem (newIds_keys_nodup h.once) hmem]
  rfl

/-- What a preparation installs gives ids as it should. -/
theorem idsGiven (h : s.Collected roots ids preset) :
    s.IdsGiven roots (s.install (newIds (s.listed ids) preset) (adoptions s (s.listed ids))) where
  identified i hr := by
    have hi := (h.reached i).2 hr
    exact isSome_internalId_install h.once (h.lt_size i hi) hi preset
  distinct i j hri hrj he := by
    have hi := (h.reached i).2 hri
    have hj := (h.reached j).2 hrj
    obtain ⟨x, hx⟩ := Option.isSome_iff_exists.1 (isSome_internalId_install h.once (h.lt_size i hi) hi preset)
    have hy := he.symm.trans hx
    rw [internalId_install h.once (h.lt_size i hi)] at hx
    rw [internalId_install h.once (h.lt_size j hj)] at hy
    exact internalId_install_inj h.once h.checked hi hj hx hy
  kept i id _ hid := by
    rw [((filledIn_listed preset h.once).node i).internalId (by rw [hid]; rfl), hid]
  claimed i id hc := by
    have hi := (h.reached i).2 hc.1
    refine h.internalId_of_mem (mem_assignIds_of_claim hc.2.1 ?_ _ _ _ (List.mem_map_of_mem hi))
    rw [h.lookup_claims hi, (h.claim?_iff hi).2 hc]
  numbered := by
    have hreserved : ∀ id, s.Reserved roots id → id ∈ (claimIds (s.listed ids) preset).2 := fun id => h.mem_taken_iff.2
    obtain ⟨numbers, hnumbered, hmem⟩ := assignIds_numbered (claimIds (s.listed ids) preset).1 (s.listed ids) 0 _
      hreserved (fun id hid => .inl (h.mem_taken_iff.1 hid))
    have hnode := fun n hn => (h.mem_unclaimed_iff (n := n).1 hn).1
    refine ⟨(unclaimed (claimIds (s.listed ids) preset).1 (s.listed ids)).map Prod.fst, numbers, ?_, fun i => ?_,
      (List.pairwise_cons.1 hnumbered.rising).2, ?_, ?_⟩
    · have hids : (s.listed ids).map Prod.fst = ids := by simp [listed, Function.comp_def]
      rw [← h.walk]
      nth_rewrite 3 [← hids]
      exact List.filter_sublist.map Prod.fst
    · rw [List.mem_map]
      constructor
      · rintro ⟨n, hn, rfl⟩
        exact (h.mem_unclaimed_iff.1 hn).2
      · intro hi
        exact ⟨(i, s.node i), h.mem_unclaimed_iff.2 ⟨rfl, hi⟩, rfl⟩
    · have hkinds : (unclaimed (claimIds (s.listed ids) preset).1 (s.listed ids)).map (fun n => (s.node n.1).kind) =
          (unclaimed (claimIds (s.listed ids) preset).1 (s.listed ids)).map (·.2.kind) :=
        List.map_congr_left fun n hn => congrArg Node.kind (hnode n hn).symm
      rw [List.map_map, Function.comp_def, hkinds]
      exact hnumbered
    · rw [List.forall₂_map_left_iff]
      refine ((List.forall₂_and_left _ _).2 ⟨hnode, hmem⟩).imp fun n m hn => ?_
      rw [← hn.1]
      exact h.internalId_of_mem hn.2

end Collected

end Store

theorem idsGiven_of_ok {s s' : Store} {roots : List NodeId} (hc : s.Closed) (hr : ∀ i ∈ roots, i < s.size)
    (h : (prepare roots).run s = (.ok (), s')) : s.IdsGiven roots s' := by
  rcases prepare_cases roots s with ⟨v, hv⟩ | ⟨ids, preset, hcol, hcheck, hi⟩
  · rw [hv] at h
    cases h
  · rw [hi] at h
    cases h
    obtain ⟨-, hids, hnd, hlt⟩ := collect_ok hc hr hcol
    exact Store.Collected.idsGiven ⟨hids, hnd, hlt, mem_collect_iff hcol, hcheck⟩

/-- A preparation that succeeds gives every node below the roots an internal id: its own, the user id that it
claims, or its type name with a number. The search for a free number always ends. -/
theorem prepare_gives_ids {s s' : Store} {roots : List NodeId} (hc : s.Closed) (hr : ∀ i ∈ roots, i < s.size)
    (h : (prepare roots).run s = (.ok (), s')) :
    s.IdsGiven roots s' ∧ ∀ stem taken n, ∃ tries ≤ taken.length + 1,
      Searches stem taken tries n (freeNumber stem taken taken.length n) :=
  ⟨idsGiven_of_ok hc hr h, exists_searches⟩

/-- A group with four children: a label that claims the first number of the group, a label without a claim,
a button that has the third number of labels, and a slider whose user id is what the button has. -/
def crowd (group first second last : Option String) (parent : Option NodeId) : Store := ⟨#[
  { kind := .group, internalId := group, children := [1, 2, 3, 4] },
  { kind := .label, userId := some "Group1", internalId := first, parent },
  { kind := .label, internalId := second, parent },
  { kind := .button, internalId := some "Label3", parent },
  { kind := .slider, userId := some "Label3", internalId := last, parent }]⟩

/-- The group and the second label pass an id over, and the slider gets the next number. -/
theorem prepare_gives_ids_crowd :
    (crowd none none none none none).Closed ∧ (∀ i ∈ [0], i < (crowd none none none none none).size) ∧
    (prepare [0]).run (crowd none none none none none) =
      (.ok (), crowd (some "Group2") (some "Group1") (some "Label4") (some "Slider5") (some 0)) ∧
    (crowd none none none none none).IdsGiven [0]
      (crowd (some "Group2") (some "Group1") (some "Label4") (some "Slider5") (some 0)) := by
  have hc : (crowd none none none none none).Closed := Store.closed_of_nodes (by decide)
  have hr : ∀ i ∈ [0], i < (crowd none none none none none).size := by decide
  have hp : (prepare [0]).run (crowd none none none none none) =
      (.ok (), crowd (some "Group2") (some "Group1") (some "Label4") (some "Slider5") (some 0)) := by
    have hcollect : collect (crowd none none none none none) [(0, none)] [] = .ok [0, 1, 2, 3, 4] := by cbv
    have hcheck : checkIds (((crowd none none none none none).listed [0, 1, 2, 3, 4]).map Prod.snd) [] [] =
        .ok ["Label3"] := by decide +kernel
    have hnew : newIds ((crowd none none none none none).listed [0, 1, 2, 3, 4]) ["Label3"] =
        [(0, "Group2"), (1, "Group1"), (2, "Label4"), (4, "Slider5")] := by decide +kernel
    rw [run_prepare_of_ok hcollect hcheck, hnew]
    rfl
  exact ⟨hc, hr, hp, (prepare_gives_ids hc hr hp).1⟩

end Overlay
