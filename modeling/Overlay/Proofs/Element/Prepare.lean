/-
Preparing. A preparation only fills in what nodes lack: internal ids, and parents of children that have
none. One that fails leaves the store as it was, and one that succeeds leaves trees in which every node
can be told by its internal id.
-/
import Overlay.Proofs.Run
import Overlay.Proofs.Element.Collect
import Overlay.Proofs.Element.Identity

namespace Overlay

open Overlay.Tree

/-! ## Filling in -/

/-- A node with at most an internal id, a parent and a seal more. -/
structure Node.FilledIn (a b : Node) : Prop where
  rest : b = { a with internalId := b.internalId, parent := b.parent, isSealed := b.isSealed }
  internalId : a.internalId.isSome → b.internalId = a.internalId
  parent : a.parent.isSome → b.parent = a.parent
  isSealed : a.isSealed → b.isSealed

namespace Node.FilledIn

variable {a b c : Node}

theorem refl (a : Node) : a.FilledIn a := ⟨rfl, fun _ => rfl, fun _ => rfl, id⟩

theorem trans (h : a.FilledIn b) (h' : b.FilledIn c) : a.FilledIn c where
  rest := by rw [h'.rest, h.rest]
  internalId hi := by
    have hb : b.internalId.isSome := by rw [h.internalId hi]; exact hi
    rw [h'.internalId hb, h.internalId hi]
  parent hp := by
    have hb : b.parent.isSome := by rw [h.parent hp]; exact hp
    rw [h'.parent hb, h.parent hp]
  isSealed hs := h'.isSealed (h.isSealed hs)

theorem children (h : a.FilledIn b) : b.children = a.children := by rw [h.rest]

theorem userId (h : a.FilledIn b) : b.userId = a.userId := by rw [h.rest]

theorem identified (h : a.FilledIn b) (ha : a.internalId.isSome) : b.internalId.isSome := by
  rw [h.internalId ha]; exact ha

end Node.FilledIn

/-- A store with the same nodes, filled in. -/
structure Store.FilledIn (s s' : Store) : Prop where
  size : s'.size = s.size
  node : ∀ i, (s.node i).FilledIn (s'.node i)

namespace Store.FilledIn

instance : IsPreorder Store Store.FilledIn where
  refl _ := ⟨rfl, fun _ => .refl _⟩
  trans _ _ _ h h' := ⟨h'.size.trans h.size, fun i => (h.node i).trans (h'.node i)⟩

theorem children {s s' : Store} (h : s.FilledIn s') (i : NodeId) : (s'.node i).children = (s.node i).children :=
  (h.node i).children

theorem update {s : Store} {i : NodeId} {f : Node → Node} (h : (s.node i).FilledIn (f (s.node i))) :
    s.FilledIn (s.update i f) := by
  refine ⟨size_update s i f, fun j => ?_⟩
  rw [node_update]
  split
  · rename_i hj
    rw [← hj.1]; exact h
  · exact .refl _

end Store.FilledIn

/-! ## What preparing writes -/

namespace Store

/-- The store with internal ids written to nodes. -/
def writeIds (s : Store) (ids : List (NodeId × String)) : Store :=
  ids.foldl (fun s a => s.update a.1 ({ · with internalId := some a.2 })) s

/-- The store with parents written to nodes. -/
def writeParents (s : Store) (parents : List (NodeId × NodeId)) : Store :=
  parents.foldl (fun s a => s.update a.1 ({ · with parent := some a.2 })) s

theorem install_eq (s : Store) (ids : List (NodeId × String)) (parents : List (NodeId × NodeId)) :
    s.install ids parents = (s.writeIds ids).writeParents parents := rfl

@[simp] theorem size_writeIds (ids : List (NodeId × String)) : ∀ s : Store, (s.writeIds ids).size = s.size := by
  induction ids with
  | nil => intro s; rfl
  | cons a ids ih => intro s; exact (ih _).trans (size_update ..)

@[simp] theorem size_writeParents (parents : List (NodeId × NodeId)) :
    ∀ s : Store, (s.writeParents parents).size = s.size := by
  induction parents with
  | nil => intro s; rfl
  | cons a parents ih => intro s; exact (ih _).trans (size_update ..)

theorem lookup_eq_none {α : Type} {l : List (NodeId × α)} {i : NodeId} (h : i ∉ l.map Prod.fst) :
    l.lookup i = none := by
  rw [List.lookup_eq_none_iff]
  intro a ha
  simpa using fun he : i = a.1 => h (he ▸ List.mem_map_of_mem ha)

/-- An id is written to the node that it is for. -/
theorem node_writeIds {ids : List (NodeId × String)} (hnd : (ids.map Prod.fst).Nodup) (j : NodeId) :
    ∀ {s : Store}, j < s.size →
      (s.writeIds ids).node j = { s.node j with internalId := ids.lookup j <|> (s.node j).internalId } := by
  induction ids with
  | nil => intro s _; rfl
  | cons a ids ih =>
    obtain ⟨i, id⟩ := a
    intro s hj
    obtain ⟨ha, hnd⟩ := List.nodup_cons.1 hnd
    show ((s.update i _).writeIds ids).node j = _
    rw [ih hnd (by simpa using hj), node_update]
    by_cases h : i = j
    · subst h
      simp [hj, lookup_eq_none ha]
    · have h' : (j == i) = false := by simpa using fun he : j = i => h he.symm
      simp [List.lookup_cons, h, h']

/-- Only nodes that are listed get a parent. -/
theorem node_writeParents (parents : List (NodeId × NodeId)) (j : NodeId) : ∀ s : Store,
    ∃ p, (s.writeParents parents).node j = { s.node j with parent := p } ∧
      (j ∉ parents.map Prod.fst → p = (s.node j).parent) := by
  induction parents with
  | nil => intro s; exact ⟨(s.node j).parent, rfl, fun _ => rfl⟩
  | cons a parents ih =>
    intro s
    obtain ⟨p, hp, hn⟩ := ih (s.update a.1 ({ · with parent := some a.2 }))
    refine ⟨p, ?_, ?_⟩
    · show ((s.update a.1 _).writeParents parents).node j = _
      rw [hp, node_update]
      split <;> rfl
    · intro hj
      simp only [List.map_cons, List.mem_cons, not_or] at hj
      rw [hn hj.2, node_update, if_neg fun h => hj.1 h.1.symm]

theorem node_of_size_le {s : Store} {i : NodeId} (h : s.size ≤ i) : s.node i = default := by
  unfold node
  rw [Array.getD_eq_getD_getElem?, Array.getElem?_eq_none h]
  rfl

/-- Ids for nodes without one and parents for nodes without one fill the store in. -/
theorem filledIn_install {s : Store} {ids : List (NodeId × String)} {parents : List (NodeId × NodeId)}
    (hnd : (ids.map Prod.fst).Nodup) (hids : ∀ i ∈ ids.map Prod.fst, (s.node i).internalId = none)
    (hparents : ∀ i ∈ parents.map Prod.fst, (s.node i).parent = none) :
    s.FilledIn (s.install ids parents) := by
  refine ⟨by rw [install_eq]; simp, fun j => ?_⟩
  obtain ⟨p, hp, hn⟩ := node_writeParents parents j (s.writeIds ids)
  by_cases hj : j < s.size
  · rw [node_writeIds hnd j hj] at hp hn
    rw [install_eq, hp]
    refine ⟨rfl, fun hi => ?_, fun hpar => ?_, id⟩
    · have hnot : j ∉ ids.map Prod.fst := by
        intro hmem
        rw [hids j hmem] at hi
        cases hi
      simp [lookup_eq_none hnot]
    · refine hn fun hmem => ?_
      rw [hparents j hmem] at hpar
      cases hpar
  · have h1 : s.node j = default := node_of_size_le (Nat.le_of_not_lt hj)
    have h2 : (s.install ids parents).node j = default :=
      node_of_size_le (by rw [install_eq]; simpa using hj)
    rw [h1, h2]
    exact .refl _

end Store

/-! ## New ids -/

/-- The ids that a preparation gives, once it knows those that are there. -/
def newIds (nodes : List (NodeId × Node)) (preset : List String) : List (NodeId × String) :=
  assignIds (claimIds nodes preset).1 nodes 0 (claimIds nodes preset).2

theorem newIds_keys (nodes : List (NodeId × Node)) (preset : List String) :
    (newIds nodes preset).map Prod.fst = (nodes.filter (·.2.internalId.isNone)).map Prod.fst :=
  assignIds_keys _ _ _ _

/-- New ids repeat neither each other nor the ids that are there. -/
theorem newIds_nodup {nodes : List (NodeId × Node)} {preset : List String} (hn : (nodes.map Prod.fst).Nodup)
    (hp : preset.Nodup) :
    ((newIds nodes preset).map Prod.snd).Nodup ∧ ∀ a ∈ newIds nodes preset, a.2 ∉ preset := by
  obtain ⟨htaken, hnd⟩ := claimIds_spec nodes preset hp
  have hmem : ∀ c ∈ (claimIds nodes preset).1, c.2 ∈ (claimIds nodes preset).2 := by
    intro c hc
    rw [htaken]
    exact List.mem_append_left _ (List.mem_reverse.2 (List.mem_map_of_mem hc))
  rw [htaken] at hnd
  obtain ⟨hclaims, -, hdisjoint⟩ := List.nodup_append.1 hnd
  refine ⟨assignIds_nodup (List.nodup_reverse.1 hclaims) hn hmem, fun a ha hpre => ?_⟩
  rcases assignIds_origin _ _ _ _ a ha with h | h
  · exact hdisjoint _ (List.mem_reverse.2 (List.mem_map_of_mem (mem_of_lookup h))) _ hpre rfl
  · exact h (by rw [htaken]; exact List.mem_append_right _ hpre)

/-! ## Running a preparation -/

/-- Nodes with their contents. -/
def Store.listed (s : Store) (ids : List NodeId) : List (NodeId × Node) := ids.map fun i => (i, s.node i)

theorem run_liftExcept {α : Type} (r : Except Violation α) (s : Store) :
    (prepare.liftExcept r).run s = (r, s) := rfl

/-- A preparation checks before it writes anything. -/
theorem run_prepare (roots : List NodeId) (s : Store) :
    (prepare roots).run s =
      match collect s (roots.map (·, none)) [] with
      | .error v => (.error v, s)
      | .ok ids => match checkIds ((s.listed ids).map Prod.snd) [] [] with
        | .error v => (.error v, s)
        | .ok preset => (.ok (), s.install (newIds (s.listed ids) preset) (adoptions s (s.listed ids))) := by
  unfold prepare
  rw [run_bind_ok (run_getThe s), run_bind, run_liftExcept]
  rcases collect s (roots.map (·, none)) [] with v | ids
  · rfl
  · show (prepare.liftExcept (checkIds ((s.listed ids).map Prod.snd) [] []) >>= _).run s = _
    rw [run_bind, run_liftExcept]
    dsimp only
    rcases checkIds ((s.listed ids).map Prod.snd) [] [] with v | preset <;> rfl

/-- A preparation whose checks pass writes. -/
theorem run_prepare_of_ok {roots ids : List NodeId} {s : Store} {preset : List String}
    (hcollect : collect s (roots.map (·, none)) [] = .ok ids)
    (hcheck : checkIds ((s.listed ids).map Prod.snd) [] [] = .ok preset) :
    (prepare roots).run s = (.ok (), s.install (newIds (s.listed ids) preset) (adoptions s (s.listed ids))) := by
  rw [run_prepare, hcollect]
  dsimp only
  rw [hcheck]

theorem adoptions_orphans (s : Store) (nodes : List (NodeId × Node)) :
    ∀ i ∈ (adoptions s nodes).map Prod.fst, (s.node i).parent = none := by
  intro i hi
  obtain ⟨a, ha, rfl⟩ := List.mem_map.1 hi
  obtain ⟨n, -, ha⟩ := List.mem_flatMap.1 ha
  obtain ⟨c, -, hc⟩ := List.mem_filterMap.1 ha
  split at hc
  · rename_i hnone
    cases hc
    simpa using hnone
  · cases hc

theorem newIds_unidentified {s : Store} {ids : List NodeId} {preset : List String} :
    ∀ i ∈ (newIds (s.listed ids) preset).map Prod.fst, i ∈ ids ∧ (s.node i).internalId = none := by
  intro i hi
  rw [newIds_keys] at hi
  obtain ⟨n, hn, rfl⟩ := List.mem_map.1 hi
  obtain ⟨hmem, hnone⟩ := List.mem_filter.1 hn
  obtain ⟨j, hj, rfl⟩ := List.mem_map.1 hmem
  exact ⟨hj, by simpa using hnone⟩

theorem newIds_keys_nodup {s : Store} {ids : List NodeId} {preset : List String} (h : ids.Nodup) :
    ((newIds (s.listed ids) preset).map Prod.fst).Nodup := by
  rw [newIds_keys]
  refine List.Nodup.sublist (List.filter_sublist.map _) ?_
  simpa [Store.listed, Function.comp_def] using h

/-- What a preparation comes to: nothing at all, or ids and parents for the nodes collected. -/
theorem prepare_cases (roots : List NodeId) (s : Store) :
    (∃ v, (prepare roots).run s = (.error v, s)) ∨
    (∃ ids preset, collect s (roots.map (·, none)) [] = .ok ids ∧
      checkIds ((s.listed ids).map Prod.snd) [] [] = .ok preset ∧
      (prepare roots).run s = (.ok (), s.install (newIds (s.listed ids) preset) (adoptions s (s.listed ids)))) := by
  rw [run_prepare]
  rcases collect s (roots.map (·, none)) [] with v | ids
  · exact .inl ⟨v, rfl⟩
  dsimp only
  rcases hcheck : checkIds ((s.listed ids).map Prod.snd) [] [] with v | preset
  · exact .inl ⟨v, rfl⟩
  · exact .inr ⟨ids, preset, rfl, hcheck, rfl⟩

theorem filledIn_listed {s : Store} {ids : List NodeId} (preset : List String) (hnd : ids.Nodup) :
    s.FilledIn (s.install (newIds (s.listed ids) preset) (adoptions s (s.listed ids))) :=
  Store.filledIn_install (newIds_keys_nodup hnd) (fun i hi => (newIds_unidentified i hi).2) (adoptions_orphans s _)

/-- Preparing fills the store in, whatever the roots. -/
theorem filledIn_prepare (roots : List NodeId) : Moves Store.FilledIn (prepare roots) := by
  intro s
  rcases prepare_cases roots s with ⟨v, h⟩ | ⟨ids, preset, hcol, -, h⟩
  · rw [h]
    exact refl s
  · rw [h]
    exact filledIn_listed preset (collect_trees s _ _ hcol List.nodup_nil).1

/-- A preparation that fails leaves the store as it was. -/
theorem prepare_error {roots : List NodeId} {s s' : Store} {v : Violation}
    (h : (prepare roots).run s = (.error v, s')) : s' = s := by
  rcases prepare_cases roots s with ⟨w, hw⟩ | ⟨ids, preset, -, -, hw⟩
  · rw [hw] at h
    cases h
    rfl
  · rw [hw] at h
    cases h

/-! ## Prepared trees -/

/-- Trees as a preparation leaves them: whole, each node with an internal id, and no id twice. -/
structure Store.Prepared (s : Store) (roots : List NodeId) : Prop where
  grounded : s.Grounded roots
  identified : ∀ n ∈ s.walk roots, n.2.internalId.isSome
  internalIds : ((s.walk roots).map (·.2.internalId)).Nodup
  userIds : ((s.walk roots).filterMap (·.2.userId)).Nodup

/-- The nodes of prepared trees are in the store, for what is not has no id. -/
theorem Store.Prepared.lt_size {s : Store} {roots : List NodeId} (h : s.Prepared roots) {n : NodeId × Node}
    (hn : n ∈ s.walk roots) : n.1 < s.size := by
  by_contra hle
  have hid := h.identified n hn
  rw [s.walk_content roots n hn, Store.node_of_size_le (Nat.le_of_not_lt hle)] at hid
  cases hid

/-- Where an internal id after a preparation comes from. -/
theorem internalId_install {s : Store} {ids : List NodeId} {preset : List String} (hnd : ids.Nodup) {i : NodeId}
    (hi : i < s.size) :
    ((s.install (newIds (s.listed ids) preset) (adoptions s (s.listed ids))).node i).internalId =
      ((newIds (s.listed ids) preset).lookup i <|> (s.node i).internalId) := by
  obtain ⟨p, hp, -⟩ := Store.node_writeParents (adoptions s (s.listed ids)) i
    (s.writeIds (newIds (s.listed ids) preset))
  rw [Store.install_eq, hp, Store.node_writeIds (newIds_keys_nodup hnd) i hi]

/-- Preparing gives an id to every node that it visits. -/
theorem isSome_internalId_install {s : Store} {ids : List NodeId} (hnd : ids.Nodup) {i : NodeId} (hi : i < s.size)
    (hmem : i ∈ ids) (preset : List String) :
    ((s.install (newIds (s.listed ids) preset) (adoptions s (s.listed ids))).node i).internalId.isSome := by
  rw [internalId_install hnd hi]
  rcases hn : (s.node i).internalId with _ | id
  · have hkey : i ∈ (newIds (s.listed ids) preset).map Prod.fst := by
      rw [newIds_keys]
      exact List.mem_map.2 ⟨(i, s.node i), List.mem_filter.2 ⟨List.mem_map_of_mem hmem, by simp [hn]⟩, rfl⟩
    obtain ⟨id, hid⟩ : ∃ id, (newIds (s.listed ids) preset).lookup i = some id := by
      rw [← Option.isSome_iff_exists, List.lookup_isSome_iff]
      obtain ⟨a, ha, rfl⟩ := List.mem_map.1 hkey
      exact ⟨a, ha, by simp⟩
    simp [hid]
  · cases (newIds (s.listed ids) preset).lookup i <;> rfl

/-- No two nodes have one internal id after a preparation. -/
theorem internalId_install_inj {s : Store} {ids : List NodeId} {preset : List String} (hnd : ids.Nodup)
    (hcheck : checkIds ((s.listed ids).map Prod.snd) [] [] = .ok preset) {i j : NodeId} (hi : i ∈ ids) (hj : j ∈ ids)
    {x : String} (hx : ((newIds (s.listed ids) preset).lookup i <|> (s.node i).internalId) = some x)
    (hy : ((newIds (s.listed ids) preset).lookup j <|> (s.node j).internalId) = some x) : i = j := by
  obtain ⟨-, hpreset, hpnd⟩ := checkIds_ok hcheck List.nodup_nil List.nodup_nil
  have hkeys : ((s.listed ids).map Prod.fst).Nodup := by simpa [Store.listed, Function.comp_def] using hnd
  obtain ⟨hnew, hfresh⟩ := newIds_nodup hkeys hpnd
  have hpre : ∀ k ∈ ids, (s.node k).internalId = some x → x ∈ preset := by
    intro k hk hkx
    rw [hpreset]
    simp only [List.append_nil, List.mem_reverse, List.mem_filterMap, List.mem_map, Store.listed]
    exact ⟨s.node k, ⟨(k, s.node k), ⟨k, hk, rfl⟩, rfl⟩, hkx⟩
  have horigin : ∀ k, ((newIds (s.listed ids) preset).lookup k <|> (s.node k).internalId) = some x →
      (k, x) ∈ newIds (s.listed ids) preset ∨ (s.node k).internalId = some x := by
    intro k hk
    rcases hl : (newIds (s.listed ids) preset).lookup k with _ | y
    · rw [hl] at hk; exact .inr hk
    · rw [hl] at hk; cases hk; exact .inl (mem_of_lookup hl)
  -- two new ids, a new one and an old one, an old one and a new one, two old ones
  rcases horigin i hx with hi' | hi' <;> rcases horigin j hy with hj' | hj'
  · have := List.inj_on_of_nodup_map hnew hi' hj' rfl
    exact congrArg Prod.fst this
  · exact absurd (hpre j hj hj') (hfresh _ hi')
  · exact absurd (hpre i hi hi') (hfresh _ hj')
  · have hnodes : ((s.listed ids).filterMap (·.2.internalId)).Nodup := by
      rw [hpreset, List.append_nil, List.nodup_reverse, List.filterMap_map] at hpnd
      exact hpnd
    have := eq_of_filterMap_nodup (a := (i, s.node i)) (b := (j, s.node j)) hnodes (List.mem_map_of_mem hi)
      (List.mem_map_of_mem hj) hi' hj'
    exact congrArg Prod.fst this

/-- A preparation that succeeds leaves prepared trees, with the nodes in the order of the collection. -/
theorem prepared_of_ok {s s' : Store} {roots : List NodeId} (hc : s.Closed) (hr : ∀ i ∈ roots, i < s.size)
    (h : (prepare roots).run s = (.ok (), s')) : s'.Prepared roots := by
  rcases prepare_cases roots s with ⟨v, hv⟩ | ⟨ids, preset, hcol, hcheck, hi⟩
  · rw [hv] at h
    cases h
  rw [hi] at h
  cases h
  obtain ⟨hground, hids, hnd, hlt⟩ := collect_ok hc hr hcol
  obtain ⟨husers, -, -⟩ := checkIds_ok hcheck List.nodup_nil List.nodup_nil
  have hfill := filledIn_listed (s := s) preset hnd
  generalize hs' : s.install (newIds (s.listed ids) preset) (adoptions s (s.listed ids)) = s' at hfill
  have hwalk : s'.walk roots = s'.listed ids := by
    rw [Store.walk_of_children hfill.children hfill.size roots, hids]
    simp [Store.listed, Function.comp_def]
  refine ⟨hground.of_children (Nat.le_of_eq hfill.size.symm) fun n _ => hfill.children n.1, ?_, ?_, ?_⟩
  · intro n hn
    rw [hwalk] at hn
    obtain ⟨i, hi, rfl⟩ := List.mem_map.1 hn
    rw [← hs']
    exact isSome_internalId_install hnd (hlt i hi) hi preset
  · rw [hwalk, Store.listed, List.map_map]
    refine List.Nodup.map_on (fun i hi j hj he => ?_) hnd
    simp only [Function.comp_apply, ← hs', internalId_install hnd (hlt i hi), internalId_install hnd (hlt j hj)] at he
    have hid := isSome_internalId_install hnd (hlt i hi) hi preset
    rw [internalId_install hnd (hlt i hi)] at hid
    obtain ⟨x, hx⟩ := Option.isSome_iff_exists.1 hid
    exact internalId_install_inj hnd hcheck hi hj hx (he ▸ hx)
  · have hsame : (s'.listed ids).filterMap (·.2.userId) = ((s.listed ids).map Prod.snd).filterMap (·.userId) := by
      simp only [Store.listed, List.filterMap_map, List.map_map]
      exact List.filterMap_congr fun i _ => (hfill.node i).userId
    rw [hwalk, hsame]
    simpa using husers

end Overlay
