/-
Installing trees. An installation only fills in nodes, and one that fails leaves the store as it was.
After one that succeeds every node of the trees is frozen and told apart by its ids, and whatever
keeps the store, and the children of these nodes, keeps these trees.
-/
import Overlay.Live.Interface
import Overlay.Proofs.Element.Acyclic
import Overlay.Proofs.Element.Edit

namespace Overlay

open Overlay.Tree

/-! ## Running an installation -/

theorem Store.walk_cons (s : Store) (i : NodeId) (roots : List NodeId) :
    s.walk (i :: roots) = s.walk [i] ++ s.walk roots := by
  simp [walk, forest, flattenAll]

theorem Store.FilledIn.walk_ids {s s' : Store} (h : s.FilledIn s') (roots : List NodeId) :
    (s'.walk roots).map Prod.fst = (s.walk roots).map Prod.fst := by
  rw [walk_of_children h.children h.size, List.map_map]
  rfl

namespace Edit

theorem run_forM_sealTree (roots : List NodeId) : ∀ s : Store,
    (roots.forM sealTree).run s = (.ok (), s.sealAll ((s.walk roots).map Prod.fst)) := by
  induction roots with
  | nil => exact fun s => rfl
  | cons i roots ih =>
    intro s
    rw [run_forM_cons, run_bind_ok (run_sealTree i s), ih, (s.filledIn_sealAll _).walk_ids, ← Store.sealAll_append,
      ← List.map_append, ← Store.walk_cons]

/-- Top-level elements are looked at in order; the first that is attached is refused. -/
theorem run_refuseAttached (roots : List NodeId) (s : Store) :
    (roots.forM fun i => do
      let n ← get i
      if n.parent.isSome then throw (.attachedRoot n.kind) : Edit Unit).run s =
      match roots.find? fun i => (s.node i).parent.isSome with
      | some i => (.error (.attachedRoot (s.node i).kind), s)
      | none => (.ok (), s) := by
  induction roots with
  | nil => rfl
  | cons i roots ih =>
    rw [run_forM_cons]
    by_cases h : (s.node i).parent.isSome = true
    · rw [List.find?_cons_of_pos (p := fun i => (s.node i).parent.isSome) h]
      refine run_bind_error ?_
      rw [run_bind_ok (run_get i s)]
      simp only [if_pos h]
      rfl
    · rw [List.find?_cons_of_neg (p := fun i => (s.node i).parent.isSome) h, ← ih]
      refine run_bind_ok (a := ()) ?_
      rw [run_bind_ok (run_get i s)]
      simp only [if_neg h]
      rfl

end Edit

/-- What an installation does: it looks for a list and for attached roots, prepares, and seals. -/
theorem run_installTree (elements : Option (List NodeId)) (s : Store) :
    (installTree elements).run s = match elements with
      | none => (.error .noElements, s)
      | some roots => match roots.find? fun i => (s.node i).parent.isSome with
        | some i => (.error (.attachedRoot (s.node i).kind), s)
        | none => match (prepare roots).run s with
          | (.error v, s') => (.error v, s')
          | (.ok (), s') => (.ok roots, s'.sealAll ((s'.walk roots).map Prod.fst)) := by
  unfold installTree
  rcases elements with _ | roots
  · rfl
  rw [run_bind_ok (a := roots) (t := s) (by rfl), run_bind, Edit.run_refuseAttached]
  dsimp only
  rcases roots.find? fun i => (s.node i).parent.isSome with _ | i
  · dsimp only
    rw [run_bind]
    rcases (prepare roots).run s with ⟨v | ⟨⟩, s'⟩
    · rfl
    · dsimp only
      rw [run_bind_ok (Edit.run_forM_sealTree roots s')]
      rfl
  · rfl

/-- What an installation comes to: nothing at all, or a preparation and then seals. -/
theorem installTree_cases (elements : Option (List NodeId)) (s : Store) :
    (∃ v, (installTree elements).run s = (.error v, s)) ∨
    (∃ roots s', elements = some roots ∧ (∀ i ∈ roots, (s.node i).parent = none) ∧
      (prepare roots).run s = (.ok (), s') ∧
      (installTree elements).run s = (.ok roots, s'.sealAll ((s'.walk roots).map Prod.fst))) := by
  rw [run_installTree]
  rcases elements with _ | roots
  · exact .inl ⟨_, rfl⟩
  dsimp only
  rcases hf : roots.find? fun i => (s.node i).parent.isSome with _ | i
  · have hroots : ∀ i ∈ roots, (s.node i).parent = none := by
      intro i hi
      simpa using List.find?_eq_none.1 hf i hi
    dsimp only
    rcases hp : (prepare roots).run s with ⟨v | ⟨⟩, s'⟩
    · refine .inl ⟨v, ?_⟩
      rw [prepare_error hp]
    · exact .inr ⟨roots, s', rfl, hroots, hp, rfl⟩
  · exact .inl ⟨_, rfl⟩

/-- Installing fills the store in, whatever the elements. -/
theorem filledIn_installTree (elements : Option (List NodeId)) : Moves Store.FilledIn (installTree elements) := by
  intro s
  rcases installTree_cases elements s with ⟨v, h⟩ | ⟨roots, s', -, -, hp, h⟩
  · rw [h]; exact refl s
  · rw [h]
    have hprep := filledIn_prepare roots s
    rw [hp] at hprep
    exact IsTrans.trans _ _ _ hprep (s'.filledIn_sealAll _)

/-! ## Installed trees -/

/-- Trees as an interface holds them: prepared and sealed. -/
structure Store.Installed (s : Store) (roots : List NodeId) : Prop extends s.Prepared roots where
  isSealed : ∀ n ∈ s.walk roots, n.2.isSealed

/-- Filling in keeps prepared trees prepared. -/
theorem Store.Prepared.fill {s s' : Store} {roots : List NodeId} (h : s.Prepared roots) (hf : s.FilledIn s') :
    s'.Prepared roots := by
  have hwalk := walk_of_children hf.children hf.size roots
  have hcontent : ∀ n ∈ s.walk roots, n.2.FilledIn (s'.node n.1) := by
    intro n hn
    rw [s.walk_content roots n hn]
    exact hf.node n.1
  refine ⟨h.grounded.of_children (Nat.le_of_eq hf.size.symm) fun n _ => hf.children n.1, ?_, ?_, ?_⟩
  · intro n hn
    rw [hwalk] at hn
    obtain ⟨m, hm, rfl⟩ := List.mem_map.1 hn
    exact (hcontent m hm).identified (h.identified m hm)
  · have hsame : (s'.walk roots).map (·.2.internalId) = (s.walk roots).map (·.2.internalId) := by
      rw [hwalk, List.map_map]
      exact List.map_congr_left fun n hn => (hcontent n hn).internalId (h.identified n hn)
    rw [hsame]
    exact h.internalIds
  · have hsame : (s'.walk roots).filterMap (·.2.userId) = (s.walk roots).filterMap (·.2.userId) := by
      rw [hwalk, List.filterMap_map]
      exact List.filterMap_congr fun n hn => (hcontent n hn).userId
    rw [hsame]
    exact h.userIds

/-- An installation that succeeds leaves its roots installed. -/
theorem installed_of_ok {s s' : Store} {elements : Option (List NodeId)} {roots : List NodeId} (hc : s.Closed)
    (hr : ∀ i ∈ roots, i < s.size) (h : (installTree elements).run s = (.ok roots, s')) : s'.Installed roots := by
  rcases installTree_cases elements s with ⟨v, hv⟩ | ⟨roots', s₁, -, -, hp, hi⟩
  · rw [hv] at h; cases h
  rw [hi] at h
  cases h
  -- sealing only fills in, so what preparing gave is there after it
  have hfill := s₁.filledIn_sealAll ((s₁.walk roots).map Prod.fst)
  have hprep := prepared_of_ok hc hr hp
  refine ⟨hprep.fill hfill, ?_⟩
  intro n hn
  rw [Store.walk_of_children hfill.children hfill.size] at hn
  obtain ⟨m, hm, rfl⟩ := List.mem_map.1 hn
  exact Store.isSealed_sealAll (List.mem_map_of_mem hm) (hprep.lt_size hm)

/-- The nodes of some trees have the children in a later store that they had. -/
def Store.SameChildren (s s' : Store) (roots : List NodeId) : Prop :=
  ∀ i, s.Reached roots i → (s'.node i).children = (s.node i).children

namespace Store.SameChildren

variable {s s' s'' : Store} {roots : List NodeId}

theorem refl (s : Store) (roots : List NodeId) : s.SameChildren s roots := fun _ _ => rfl

/-- Where the children are the same, so are the places. -/
theorem at_iff (h : s.SameChildren s' roots) {place : List Nat} {lister : Option NodeId} {i : NodeId} :
    s'.At roots place lister i ↔ s.At roots place lister i := by
  constructor
  · intro hp
    induction hp with
    | root hk => exact .root hk
    | child _ hk ih => exact .child ih (h _ ⟨_, _, ih⟩ ▸ hk)
  · intro hp
    induction hp with
    | root hk => exact .root hk
    | child above hk ih => exact .child ih (h _ ⟨_, _, above⟩ ▸ hk)

theorem reached_iff (h : s.SameChildren s' roots) {i : NodeId} : s'.Reached roots i ↔ s.Reached roots i :=
  exists₂_congr fun _ _ => h.at_iff

theorem trans (h : s.SameChildren s' roots) (h' : s'.SameChildren s'' roots) : s.SameChildren s'' roots :=
  fun i hi => (h' i (h.reached_iff.2 hi)).trans (h i hi)

end Store.SameChildren

namespace Store.Installed

variable {s s' : Store} {roots : List NodeId}

theorem frozen (h : s.Installed roots) {n : NodeId × Node} (hn : n ∈ s.walk roots) : (s.node n.1).Frozen := by
  rw [← s.walk_content roots n hn]
  exact ⟨h.isSealed n hn, h.identified n hn⟩

theorem frozen_of_reached (h : s.Installed roots) {i : NodeId} (hi : s.Reached roots i) : (s.node i).Frozen := by
  obtain ⟨place, lister, hp⟩ := hi
  exact h.frozen (h.grounded.mem_walk hp)

/-- What keeps the store and the children keeps the walk of installed trees, up to fields that a seal leaves open. -/
theorem walk_eq (h : s.Installed roots) (hk : s.Keeps s') (hc : s.SameChildren s' roots) :
    s'.walk roots = (s.walk roots).map fun n => (n.1, s'.node n.1) :=
  h.grounded.walk_eq hk.size fun _ hn => hc _ (reached_of_mem_walk hn)

theorem identity_eq (h : s.Installed roots) (hk : s.Keeps s') (hc : s.SameChildren s' roots) :
    (s'.walk roots).map (·.2.identity) = (s.walk roots).map (·.2.identity) := by
  rw [h.walk_eq hk hc, List.map_map]
  refine List.map_congr_left fun n hn => ?_
  have hcontent := s.walk_content roots n hn
  simp only [Function.comp_apply, hk.identity _ (h.frozen hn), hcontent]

/-- Installed trees stay installed. -/
theorem keep (h : s.Installed roots) (hk : s.Keeps s') (hc : s.SameChildren s' roots) : s'.Installed roots := by
  have hidentity := h.identity_eq hk hc
  have hinternal : (s'.walk roots).map (·.2.internalId) = (s.walk roots).map (·.2.internalId) := by
    simpa [List.map_map, Function.comp_def, Node.identity] using congrArg (List.map Identity.internalId) hidentity
  have huser : (s'.walk roots).filterMap (·.2.userId) = (s.walk roots).filterMap (·.2.userId) := by
    simpa [List.filterMap_map, Function.comp_def, Node.identity] using
      congrArg (List.filterMap Identity.userId) hidentity
  have hfrozen : ∀ n ∈ s'.walk roots, n.2.Frozen := by
    intro n hn
    rw [h.walk_eq hk hc] at hn
    obtain ⟨m, hm, rfl⟩ := List.mem_map.1 hn
    exact hk.frozen (h.frozen hm)
  refine ⟨⟨?_, fun n hn => (hfrozen n hn).identified, ?_, ?_⟩, fun n hn => (hfrozen n hn).isSealed⟩
  · exact h.grounded.of_children hk.size fun _ hn => hc _ (reached_of_mem_walk hn)
  · rw [hinternal]; exact h.internalIds
  · rw [huser]; exact h.userIds

end Store.Installed

end Overlay
