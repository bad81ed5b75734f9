/-
Ownership. A preparation accepts exactly the forests in which every node has no parent or the one that
lists it and no two nodes share an id. What is wrong with the structure is reported before any id is looked
at. After a preparation every node below the roots is at one place, and its parent is the node that lists it.
-/
import Overlay.Proofs.Element.Place
import Overlay.Proofs.Element.Prepare

namespace Overlay

/-! ## Ids that occur twice -/

/-- A violation that is about an id that occurs twice. -/
def Violation.IsDuplicate (v : Violation) : Prop := ∃ field id, v = .duplicateId field id

/-- The checks of ids refuse nothing but ids that occur twice. -/
theorem checkIds_error : ∀ {ns : List Node} {users taken : List String} {v : Violation},
    checkIds ns users taken = .error v → v.IsDuplicate
  | [], _, _, _, h => by cases h
  | n :: ns, users, taken, v, h => by
    rw [checkIds_cons] at h
    split at h
    · cases h
      exact ⟨_, _, rfl⟩
    · cases h
      exact ⟨_, _, rfl⟩
    · exact checkIds_error h

/-- Ids that do not repeat pass the checks. -/
theorem checkIds_of_nodup : ∀ {ns : List Node} {users taken : List String},
    ((ns.filterMap (·.userId)).reverse ++ users).Nodup → ((ns.filterMap (·.internalId)).reverse ++ taken).Nodup →
      ∃ preset, checkIds ns users taken = .ok preset
  | [], _, taken, _, _ => ⟨taken, rfl⟩
  | n :: ns, users, taken, hu, ht => by
    -- moving the ids of the first node to those seen leaves the lists as they are
    have hu' : ((ns.filterMap (·.userId)).reverse ++ (n.userId.toList ++ users)).Nodup := by
      rcases hn : n.userId with _ | u <;> simpa [hn] using hu
    have ht' : ((ns.filterMap (·.internalId)).reverse ++ (n.internalId.toList ++ taken)).Nodup := by
      rcases hn : n.internalId with _ | id <;> simpa [hn] using ht
    have hun : n.userId.filter (· ∈ users) = none := by
      rw [Option.filter_eq_none_iff]
      intro u hn
      rw [hn] at hu'
      simpa using (List.nodup_cons.1 (List.nodup_append.1 hu').2.1).1
    have hin : n.internalId.filter (· ∈ taken) = none := by
      rw [Option.filter_eq_none_iff]
      intro id hn
      rw [hn] at ht'
      simpa using (List.nodup_cons.1 (List.nodup_append.1 ht').2.1).1
    rw [checkIds_cons, hun, hin]
    exact checkIds_of_nodup hu' ht'

/-- Present values of distinct elements do not repeat if no two elements share one. -/
theorem nodup_filterMap {α β : Type} {f : α → Option β} {l : List α} (h : l.Nodup)
    (hf : ∀ a ∈ l, ∀ b ∈ l, ∀ x, f a = some x → f b = some x → a = b) : (l.filterMap f).Nodup := by
  refine List.pairwise_filterMap.2 (h.imp_of_mem fun {a b} ha hb hab x hx y hy => ?_)
  rintro rfl
  exact hab (hf a ha b hb x hx hy)

/-- Two nodes below some roots have one user id or one internal id. -/
def Store.SharedId (s : Store) (roots : List NodeId) : Prop :=
  ∃ i j, i ≠ j ∧ s.Reached roots i ∧ s.Reached roots j ∧
    ((∃ id, (s.node i).userId = some id ∧ (s.node j).userId = some id) ∨
      ∃ id, (s.node i).internalId = some id ∧ (s.node j).internalId = some id)

/-- The ids of all nodes that are reached pass the checks exactly if no two nodes share one. -/
theorem checkIds_ok_iff {s : Store} {roots ids : List NodeId} (hnd : ids.Nodup)
    (hids : ∀ i, i ∈ ids ↔ s.Reached roots i) :
    (∃ preset, checkIds ((s.listed ids).map Prod.snd) [] [] = .ok preset) ↔ ¬ s.SharedId roots := by
  have hnodes : ∀ f : Node → Option String,
      ((s.listed ids).map Prod.snd).filterMap f = ids.filterMap fun i => f (s.node i) := by
    intro f
    simp only [Store.listed, List.filterMap_map, List.map_map]
    rfl
  constructor
  · rintro ⟨preset, h⟩ ⟨i, j, hij, hi, hj, hshared⟩
    obtain ⟨husers, hpreset, hnp⟩ := checkIds_ok h List.nodup_nil List.nodup_nil
    rw [hnodes, List.append_nil, List.nodup_reverse] at husers
    rw [hpreset, hnodes, List.append_nil, List.nodup_reverse] at hnp
    rcases hshared with ⟨id, hu, hu'⟩ | ⟨id, hn, hn'⟩
    · exact hij (eq_of_filterMap_nodup husers ((hids i).2 hi) ((hids j).2 hj) hu hu')
    · exact hij (eq_of_filterMap_nodup hnp ((hids i).2 hi) ((hids j).2 hj) hn hn')
  · intro h
    have hapart : ∀ i ∈ ids, ∀ j ∈ ids,
        (∀ id, (s.node i).userId = some id → (s.node j).userId = some id → i = j) ∧
        (∀ id, (s.node i).internalId = some id → (s.node j).internalId = some id → i = j) := by
      intro i hi j hj
      constructor
      · intro id hu hu'
        by_contra hij
        exact h ⟨i, j, hij, (hids i).1 hi, (hids j).1 hj, .inl ⟨id, hu, hu'⟩⟩
      · intro id hn hn'
        by_contra hij
        exact h ⟨i, j, hij, (hids i).1 hi, (hids j).1 hj, .inr ⟨id, hn, hn'⟩⟩
    refine checkIds_of_nodup ?_ ?_
    · rw [hnodes, List.append_nil, List.nodup_reverse]
      exact nodup_filterMap hnd fun i hi j hj => (hapart i hi j hj).1
    · rw [hnodes, List.append_nil, List.nodup_reverse]
      exact nodup_filterMap hnd fun i hi j hj => (hapart i hi j hj).2

/-! ## Parents -/

namespace Store

/-- A node that is listed with one parent gets that parent. -/
theorem parent_writeParents {parents : List (NodeId × NodeId)} {j p : NodeId} (hj : j ∈ parents.map Prod.fst)
    (hp : ∀ a ∈ parents, a.1 = j → a.2 = p) : ∀ {s : Store}, j < s.size →
      ((s.writeParents parents).node j).parent = some p := by
  induction parents with
  | nil => cases hj
  | cons a parents ih =>
    intro s hs
    show (((s.update a.1 _).writeParents parents).node j).parent = _
    by_cases hlater : j ∈ parents.map Prod.fst
    · exact ih hlater (fun b hb => hp b (List.mem_cons_of_mem _ hb)) (by simpa using hs)
    · have haj : a.1 = j := by
        rcases List.mem_cons.1 hj with h | h
        · exact h.symm
        · exact absurd h hlater
      obtain ⟨q, hq, hkeep⟩ := node_writeParents parents j (s.update a.1 ({ · with parent := some a.2 }))
      rw [hq, hkeep hlater, node_update, if_pos ⟨haj, hs⟩, hp a (List.mem_cons_self ..) haj]

theorem parent_writeIds {ids : List (NodeId × String)} (hnd : (ids.map Prod.fst).Nodup) {s : Store} {j : NodeId}
    (hj : j < s.size) : ((s.writeIds ids).node j).parent = (s.node j).parent := by
  rw [node_writeIds hnd j hj]

theorem mem_adoptions {s : Store} {ids : List NodeId} {a : NodeId × NodeId} :
    a ∈ adoptions s (s.listed ids) ↔ a.2 ∈ ids ∧ a.1 ∈ (s.node a.2).children ∧ (s.node a.1).parent = none := by
  obtain ⟨c, p⟩ := a
  simp only [adoptions, listed, List.mem_flatMap, List.mem_map, List.mem_filterMap]
  constructor
  · rintro ⟨n, ⟨i, hi, rfl⟩, d, hd, hs⟩
    split at hs
    · rename_i hnone
      cases hs
      exact ⟨hi, hd, by simpa using hnone⟩
    · cases hs
  · rintro ⟨hp, hc, hnone⟩
    exact ⟨(p, s.node p), ⟨p, hp, rfl⟩, c, hc, by simp [hnone]⟩

variable {s : Store} {roots ids : List NodeId}

/-- Whoever adopts a node lists it, so where every node is at one place it is adopted by its lister. -/
theorem lister_of_mem_adoptions (hs : ¬ s.ReachedTwice roots) (hids : ∀ i, i ∈ ids ↔ s.Reached roots i)
    {place : List Nat} {lister : Option NodeId} {a : NodeId × NodeId} (hp : s.At roots place lister a.1)
    (ha : a ∈ adoptions s (s.listed ids)) : lister = some a.2 := by
  obtain ⟨hadopter, hchild, -⟩ := mem_adoptions.1 ha
  obtain ⟨place', lister', hp'⟩ := (hids a.2).1 hadopter
  obtain ⟨k, hk⟩ := List.getElem?_of_mem hchild
  by_cases hplace : place = k :: place'
  · subst hplace
    exact (hp.unique (.child hp' hk)).1
  · exact absurd ⟨a.1, place, k :: place', lister, some a.2, hplace, hp, .child hp' hk⟩ hs

/-- Where every node is at one place and none has a foreign parent, adoptions give each node below a root
the parent that lists it, and leave the roots alone. -/
theorem parent_install (hs : ¬ s.ReachedTwice roots) (hf : ¬ s.ReachedForeign roots) (hnd : ids.Nodup)
    (hids : ∀ i, i ∈ ids ↔ s.Reached roots i) (preset : List String) {place : List Nat} {lister : Option NodeId}
    {i : NodeId} (hp : s.At roots place lister i) (hi : i < s.size) :
    ((s.install (newIds (s.listed ids) preset) (adoptions s (s.listed ids))).node i).parent = lister := by
  rw [install_eq]
  -- a node that nobody adopts keeps the parent it has
  have hkept : i ∉ (adoptions s (s.listed ids)).map Prod.fst →
      (((s.writeIds (newIds (s.listed ids) preset)).writeParents (adoptions s (s.listed ids))).node i).parent =
        (s.node i).parent := by
    intro hnot
    obtain ⟨q, hq, hkeep⟩ :=
      node_writeParents (adoptions s (s.listed ids)) i (s.writeIds (newIds (s.listed ids) preset))
    rw [hq, hkeep hnot]
    exact parent_writeIds (newIds_keys_nodup hnd) hi
  by_cases hnone : (s.node i).parent = none
  · cases hp with
    | root hroot =>
      refine (hkept fun hmem => ?_).trans hnone
      obtain ⟨a, ha, rfl⟩ := List.mem_map.1 hmem
      cases lister_of_mem_adoptions hs hids (.root hroot) ha
    | @child _ _ p _ _ above hc =>
      have hmem : (i, p) ∈ adoptions s (s.listed ids) :=
        mem_adoptions.2 ⟨(hids p).2 ⟨_, _, above⟩, List.mem_of_getElem? hc, hnone⟩
      refine parent_writeParents (List.mem_map.2 ⟨_, hmem, rfl⟩) (fun a ha hai => ?_) (by simpa using hi)
      subst hai
      exact (Option.some.inj (lister_of_mem_adoptions hs hids (.child above hc) ha)).symm
  · rw [hkept fun hmem => hnone (adoptions_orphans s _ i hmem)]
    by_contra hne
    exact hf ⟨place, lister, i, hp, Option.isSome_iff_ne_none.2 hnone, hne⟩

theorem At.lt_size (hc : s.Closed) (hr : ∀ i ∈ roots, i < s.size) {place : List Nat} {lister : Option NodeId}
    {i : NodeId} (h : s.At roots place lister i) : i < s.size := by
  cases h with
  | root h => exact hr i (List.mem_of_getElem? h)
  | child _ h => exact hc _ i (List.mem_of_getElem? h)

end Store

/-! ## What a preparation accepts -/

open Store

/-- What a preparation comes to, by what is below the roots. -/
theorem prepare_outcomes (s : Store) (roots : List NodeId) :
    ((s.ReachedTwice roots ∨ s.ReachedForeign roots) ∧
      ∃ v, ¬ v.IsDuplicate ∧ (prepare roots).run s = (.error v, s)) ∨
    ((¬ s.ReachedTwice roots ∧ ¬ s.ReachedForeign roots) ∧ s.SharedId roots ∧
      ∃ v, v.IsDuplicate ∧ (prepare roots).run s = (.error v, s)) ∨
    ((¬ s.ReachedTwice roots ∧ ¬ s.ReachedForeign roots) ∧ ¬ s.SharedId roots ∧
      ∃ ids preset, ids.Nodup ∧ (∀ i, i ∈ ids ↔ s.Reached roots i) ∧
        (prepare roots).run s = (.ok (), s.install (newIds (s.listed ids) preset) (adoptions s (s.listed ids)))) := by
  rw [run_prepare]
  rcases collect_search (Search.start s roots) with ⟨done, h, hok⟩ | ⟨i, hs, herr⟩ | ⟨i, hs, herr⟩
  · rw [List.map_nil] at hok
    rw [hok]
    have hwell := And.intro h.not_reachedTwice h.not_reachedForeign
    have hnd : (done.map Prod.fst).reverse.Nodup := List.nodup_reverse.2 h.once
    have hids : ∀ i, i ∈ (done.map Prod.fst).reverse ↔ s.Reached roots i := by
      intro i
      rw [List.mem_reverse, h.mem_iff]
    have hiff := checkIds_ok_iff hnd hids
    dsimp only
    rcases hcheck : checkIds ((s.listed (done.map Prod.fst).reverse).map Prod.snd) [] [] with v | preset
    · rw [hcheck] at hiff
      have hshared : s.SharedId roots := by
        by_contra hn
        obtain ⟨preset, hp⟩ := hiff.2 hn
        cases hp
      exact .inr (.inl ⟨hwell, hshared, v, checkIds_error hcheck, rfl⟩)
    · exact .inr (.inr ⟨hwell, hiff.1 ⟨preset, hcheck⟩, _, preset, hnd, hids, rfl⟩)
  · rw [List.map_nil] at herr
    rw [herr]
    exact .inl ⟨.inl hs, _, (by rintro ⟨_, _, h⟩; cases h), rfl⟩
  · rw [List.map_nil] at herr
    rw [herr]
    exact .inl ⟨.inr hs, _, (by rintro ⟨_, _, h⟩; cases h), rfl⟩

/-- A preparation ends on every graph. It refuses the structure exactly if a node is reached twice or by
another node than its parent, and otherwise the ids exactly if two nodes share one; what it accepts is then
a forest in which the parent of every node is the node that lists it. -/
theorem prepare_accepts_forests {s : Store} {roots : List NodeId} (hc : s.Closed) (hr : ∀ i ∈ roots, i < s.size) :
    ((∃ visits ≤ s.size + 1, Collects s visits (roots.map (·, none)) [] (collect s (roots.map (·, none)) [])) ∧
      ∀ stem taken n, stem ++ toString (freeNumber stem taken taken.length n) ∉ taken) ∧
    ((∃ v, ((prepare roots).run s).1 = .error v ∧ ¬ v.IsDuplicate) ↔ s.ReachedTwice roots ∨ s.ReachedForeign roots) ∧
    (¬ (s.ReachedTwice roots ∨ s.ReachedForeign roots) →
      ((∃ v, ((prepare roots).run s).1 = .error v ∧ v.IsDuplicate) ↔ s.SharedId roots)) ∧
    ∀ s', (prepare roots).run s = (.ok (), s') →
      (∀ i, s'.Reached roots i → ∃! place, ∃ lister, s'.At roots place lister i) ∧
      ∀ place lister i, s'.At roots place lister i → (s'.node i).parent = lister := by
  have hlisted : ∀ e ∈ roots.map (·, (none : Option NodeId)), e.1 < s.size := by
    intro e he
    obtain ⟨i, hi, rfl⟩ := List.mem_map.1 he
    exact hr i hi
  have hends := exists_collects hc [] hlisted
  rw [unseen_nil] at hends
  refine ⟨⟨hends, freeNumber_free⟩, ?_⟩
  rcases prepare_outcomes s roots with ⟨hbad, v, hv, h⟩ | ⟨⟨hs, hf⟩, hshared, v, hv, h⟩ |
    ⟨⟨hs, hf⟩, hshared, ids, preset, hnd, hids, h⟩ <;> rw [h]
  · refine ⟨iff_of_true ⟨v, rfl, hv⟩ hbad, fun hn => absurd hbad hn, fun s' h' => by cases h'⟩
  · refine ⟨iff_of_false ?_ (by simp [hs, hf]), fun _ => iff_of_true ⟨v, rfl, hv⟩ hshared, fun s' h' => by cases h'⟩
    rintro ⟨w, hw, hnot⟩
    cases hw
    exact hnot hv
  · refine ⟨iff_of_false ?_ (by simp [hs, hf]), fun _ => iff_of_false ?_ hshared, fun s' h' => ?_⟩
    · rintro ⟨w, hw, -⟩
      cases hw
    · rintro ⟨w, hw, -⟩
      cases hw
    · cases h'
      have hchildren := (filledIn_listed (s := s) preset hnd).children
      have hat : ∀ {place lister i}, (s.install (newIds (s.listed ids) preset) (adoptions s (s.listed ids))).At roots
          place lister i → s.At roots place lister i := fun hp => hp.of_children fun j => (hchildren j).symm
      constructor
      · rintro i ⟨place, lister, hp⟩
        refine ⟨place, ⟨lister, hp⟩, ?_⟩
        rintro place' ⟨lister', hp'⟩
        by_contra hne
        exact hs ⟨i, place', place, lister', lister, hne, hat hp', hat hp⟩
      · intro place lister i hp
        exact parent_install hs hf hnd hids preset (hat hp) ((hat hp).lt_size hc hr)

/-- Two groups that list each other. -/
def ring : Store := ⟨#[{ kind := .group, children := [1] }, { kind := .group, children := [0] }]⟩

theorem ring_closed : ring.Closed := Store.closed_of_nodes (by decide)

/-- The search ends on a ring, and the ring is refused for its structure. -/
theorem ring_refused : ring.Closed ∧ (∀ i ∈ [0], i < ring.size) ∧
    (∃ visits ≤ ring.size + 1, Collects ring visits [(0, none)] [] (collect ring [(0, none)] [])) ∧
    ∃ v, ((prepare [0]).run ring).1 = .error v ∧ ¬ v.IsDuplicate := by
  have hr : ∀ i ∈ [0], i < ring.size := by decide
  obtain ⟨⟨hends, -⟩, hiff, -, -⟩ := prepare_accepts_forests ring_closed hr
  refine ⟨ring_closed, hr, hends, hiff.2 (.inl ⟨0, [0], [0, 0, 0], none, some 1, by decide, .root rfl, ?_⟩)⟩
  have h1 : ring.At [0] [0, 0] (some 0) 1 := .child (.root rfl) rfl
  exact .child h1 rfl

/-! ## Owned trees -/

/-- A tree over a store in which the parent of every node is the node above it. -/
inductive Tree.Owned (s : Store) : Option NodeId → Tree → Prop
  | node {lister : Option NodeId} {i : NodeId} {ts : List Tree} (parent : (s.node i).parent = lister)
    (children : ts.map Tree.id = (s.node i).children) (subtrees : ∀ t ∈ ts, Owned s (some i) t) :
    Owned s lister (.node i (s.node i) ts)

/-- A whole tree is owned if every place has the parent that it should have. -/
theorem Tree.Whole.owned {s : Store} {roots : List NodeId}
    (hp : ∀ place lister i, s.At roots place lister i → (s.node i).parent = lister) {t : Tree} (h : t.Whole s) :
    ∀ {place : List Nat} {lister : Option NodeId}, s.At roots place lister t.id → t.Owned s lister := by
  induction h with
  | @node i ts children _ ih =>
    intro place lister hat
    refine .node (hp _ _ _ hat) children fun t ht => ?_
    obtain ⟨k, hk⟩ := List.getElem?_of_mem ht
    refine ih t ht (.child (k := k) hat ?_)
    show (s.node i).children[k]? = some t.id
    rw [← children, List.getElem?_map, hk]
    rfl

/-- A preparation that succeeds found every node at one place, and leaves it with its lister as parent. -/
theorem parent_of_prepare {s s' : Store} {roots : List NodeId} (hc : s.Closed) (hr : ∀ i ∈ roots, i < s.size)
    (h : (prepare roots).run s = (.ok (), s')) :
    ¬ s.ReachedTwice roots ∧ ∀ place lister i, s.At roots place lister i → (s'.node i).parent = lister := by
  rcases prepare_outcomes s roots with
    ⟨-, v, -, hrun⟩ | ⟨-, -, v, -, hrun⟩ | ⟨⟨hs, hf⟩, -, ids, preset, hnd, hids, hrun⟩
  · rw [hrun] at h
    cases h
  · rw [hrun] at h
    cases h
  · rw [hrun] at h
    cases h
    exact ⟨hs, fun place lister i hat => parent_install hs hf hnd hids preset hat (hat.lt_size hc hr)⟩

/-- A preparation that succeeds leaves owned trees, whose roots have no parent. -/
theorem owned_of_ok {s s' : Store} {roots : List NodeId} (hc : s.Closed) (hr : ∀ i ∈ roots, i < s.size)
    (h : (prepare roots).run s = (.ok (), s')) : ∀ t ∈ s'.forest roots, t.Owned s' none := by
  have hground := (prepared_of_ok hc hr h).grounded
  have hfill := filledIn_prepare roots s
  rw [h] at hfill
  obtain ⟨-, hparent⟩ := parent_of_prepare hc hr h
  intro t ht
  obtain ⟨i, hi, rfl⟩ := List.mem_map.1 ht
  obtain ⟨k, hk⟩ := List.getElem?_of_mem hi
  refine (hground _ ht).owned (fun place lister j hat => ?_) (.root (k := k) (by rw [hk, Store.id_tree]))
  exact hparent place lister j (hat.of_children fun j => (hfill.children j).symm)

end Overlay
