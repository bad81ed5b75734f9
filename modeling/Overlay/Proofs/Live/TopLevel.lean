/-
Top-level elements. A seal does not protect the parent of a node: whoever attaches a live element to a
node that is open, or prepares trees in which another node lists it, gives it a parent. Nor does it keep a child
from a live node that holds its list together with an open one. After either the list of elements can not be
installed again, until an update has put in other trees.
-/
import Overlay.Proofs.Element.Again
import Overlay.Proofs.Element.Parent
import Overlay.Proofs.Live.Visibility

namespace Overlay

/-! ## Installed trees -/

/-- Trees in which no node is at two places and every node below a root has its lister as parent. -/
structure Store.Placed (s : Store) (roots : List NodeId) : Prop where
  once : ¬ s.ReachedTwice roots
  owned : ∀ place p i, s.At roots place (some p) i → (s.node i).parent = some p

/-- An installation that succeeds leaves its trees placed, and no parent above them. -/
theorem Store.placed_of_ok {s s' : Store} {elements : Option (List NodeId)} {roots : List NodeId} (hc : s.Closed)
    (hr : ∀ i ∈ roots, i < s.size) (h : (installTree elements).run s = (.ok roots, s')) :
    s'.Placed roots ∧ ∀ i ∈ roots, (s'.node i).parent = none := by
  rcases installTree_cases elements s with ⟨v, hv⟩ | ⟨roots', s₁, -, -, hp, hi⟩
  · rw [hv] at h
    cases h
  rw [hi] at h
  cases h
  have hsettled := Store.settled_of_ok hc hr hp
  have hback : ∀ {place lister i}, (s₁.sealAll ((s₁.walk roots).map Prod.fst)).At roots place lister i →
      s₁.At roots place lister i := fun hat =>
    hat.of_children fun j => ((s₁.filledIn_sealAll ((s₁.walk roots).map Prod.fst)).children j).symm
  -- the parent of a node at a place is its lister, and a seal leaves it
  have hparent : ∀ {place lister i}, s₁.At roots place lister i →
      ((s₁.sealAll ((s₁.walk roots).map Prod.fst)).node i).parent = lister := by
    intro place lister i hat
    rw [(Store.SameParents.sealAll _ s₁).parent i (hsettled.lt_size (hsettled.grounded.mem_walk hat))]
    exact hsettled.owned place lister i hat
  refine ⟨⟨?_, fun place p i hat => hparent (hback hat)⟩, fun i hi => ?_⟩
  · rintro ⟨i, place, place', lister, lister', hne, hat, hat'⟩
    exact hsettled.once ⟨i, place, place', lister, lister', hne, hback hat, hback hat'⟩
  · obtain ⟨k, hk⟩ := List.getElem?_of_mem hi
    exact hparent (.root hk)

namespace Store

variable {s s' : Store} {roots : List NodeId}

theorem Placed.keep (h : s.Placed roots) (hs : s.SameChildren s' roots) {given : NodeId → Prop}
    (ha : s.Attaches s' given) : s'.Placed roots := by
  constructor
  · rintro ⟨i, place, place', lister, lister', hne, hp, hp'⟩
    exact h.once ⟨i, place, place', lister, lister', hne, hs.at_iff.1 hp, hs.at_iff.1 hp'⟩
  · intro place p i hp
    have hparent := h.owned place p i (hs.at_iff.1 hp)
    rw [ha.kept i (by simp [hparent]), hparent]

/-- Trees that are installed and placed can be installed again exactly if no parent is above them. -/
theorem Placed.installTree_iff (h : s.Placed roots) (hi : s.Installed roots) :
    (∃ s', (installTree (some roots)).run s = (.ok roots, s')) ↔ ∀ i ∈ roots, (s.node i).parent = none := by
  constructor
  · rintro ⟨s', hok⟩ i hmem
    rcases installTree_cases (some roots) s with ⟨v, hv⟩ | ⟨roots', s₁, he, hnone, -, -⟩
    · rw [hv] at hok
      cases hok
    · cases he
      exact hnone i hmem
  · intro htop
    have hfind : (roots.find? fun i => (s.node i).parent.isSome) = none := by
      refine List.find?_eq_none.2 fun i hmem => ?_
      simp [htop i hmem]
    have hforeign : ¬ s.ReachedForeign roots := by
      rintro ⟨place, lister, i, hp, hsome, hne⟩
      rcases lister with _ | p
      · cases hp with
        | root hk => rw [htop i (List.mem_of_getElem? hk)] at hsome; cases hsome
      · exact hne (h.owned place p i hp)
    rw [run_installTree]
    dsimp only
    rw [hfind]
    rcases prepare_outcomes s roots with ⟨hbad, -⟩ | ⟨-, hshared, -⟩ | ⟨-, -, ids, preset, -, -, hrun⟩
    · exact absurd hbad (by simp [h.once, hforeign])
    · exact absurd hshared hi.not_sharedId
    · dsimp only
      rw [hrun]
      exact ⟨_, rfl⟩

/-- Trees in which a node has a foreign parent can not be installed. -/
theorem ReachedForeign.not_installable (h : s.ReachedForeign roots) :
    ¬ ∃ s', (installTree (some roots)).run s = (.ok roots, s') := by
  rintro ⟨s', hok⟩
  rcases installTree_cases (some roots) s with ⟨v, hv⟩ | ⟨roots', s₁, he, -, hp, -⟩
  · rw [hv] at hok
    cases hok
  · cases he
    rcases prepare_outcomes s roots with ⟨-, v, -, hrun⟩ | ⟨-, -, v, -, hrun⟩ | ⟨hgood, -⟩
    · rw [hrun] at hp
      cases hp
    · rw [hrun] at hp
      cases hp
    · exact hgood.2 h

/-- Where lists only grow, a node stays at its places. -/
theorem Grows.at_of (h : s.Grows s') {place : List Nat} {lister : Option NodeId} {i : NodeId}
    (hp : s.At roots place lister i) : s'.At roots place lister i := by
  induction hp with
  | root hk => exact .root hk
  | child _ hk ih =>
    obtain ⟨hlt, -⟩ := List.getElem?_eq_some_iff.1 hk
    obtain ⟨new, hnew⟩ := h.children _
    refine .child ih ?_
    rw [← hnew, List.getElem?_append_left hlt]
    exact hk

/-- Nothing takes a foreign parent away. -/
theorem ReachedForeign.grow (h : s.ReachedForeign roots) (hg : s.Grows s') {given : NodeId → Prop}
    (ha : s.Attaches s' given) : s'.ReachedForeign roots := by
  obtain ⟨place, lister, i, hp, hsome, hne⟩ := h
  have hkept := ha.kept i hsome
  exact ⟨place, lister, i, hg.at_of hp, by rw [hkept]; exact hsome, by rw [hkept]; exact hne⟩

end Store

/-! ## Who gives parents -/

/-- A node that another one lists below some elements that are installed. -/
def Store.Adopts (s : Store) (elements : Option (List NodeId)) (i : NodeId) : Prop :=
  ∃ roots, ((installTree elements).run s).1 = .ok roots ∧ s.ListedBelow roots i

theorem installTree_attaches (elements : Option (List NodeId)) (s : Store) :
    s.Attaches ((installTree elements).run s).2 (s.Adopts elements) := by
  unfold Store.Adopts
  rcases installTree_cases elements s with ⟨v, h⟩ | ⟨roots, s', -, -, hp, h⟩
  · rw [h]
    refine Store.SameParents.attaches (refl s) ?_
    rintro i ⟨roots, hok, -⟩
    cases hok
  · have hprepare := prepare_attaches roots s
    rw [hp] at hprepare
    rw [h]
    refine (hprepare.sameParents (.sealAll _ s')).congr fun i => ?_
    simp

/-- A world in which every node has the parent that it had. -/
def World.SameParents (w w' : World) : Prop := w.store.SameParents w'.store

instance : IsPreorder World World.SameParents where
  refl w := refl w.store
  trans _ _ _ h h' := IsTrans.trans (r := Store.SameParents) _ _ _ h h'

theorem Act.ofEdit_sameParents {α : Type} {e : Edit α} (h : Moves Store.SameParents e) :
    Moves World.SameParents (ofEdit e) := by
  intro w
  unfold World.SameParents
  rw [ofEdit_store]
  exact h w.store

theorem OpenField.assign_sameParents (i : NodeId) (field : OpenField) : Moves Store.SameParents (field.assign i) := by
  cases field <;> exact Edit.change_sameParents fun _ => rfl

namespace Handling

/-- Whether a handling gives a node a parent, if the node has none. -/
def GivesParent (w : World) (i : NodeId) : Handling → Prop
  | addChild parent child => ((Edit.addChild parent child).run w.store).1 = .ok () ∧ i = child
  | prepare roots => ((Overlay.prepare roots).run w.store).1 = .ok () ∧ w.store.ListedBelow roots i
  | start _ _ elements _ _ => w.store.Adopts elements i
  | _ => False

theorem attaches (h : Handling) (w : World) : w.store.Attaches (h.after w).store fun i => h.GivesParent w i := by
  have hquiet : ∀ {α : Type} {e : Edit α}, Moves Store.SameParents e →
      w.store.Attaches ((Act.ofEdit e).run w).2.store fun _ => False := by
    intro α e he
    rw [Act.ofEdit_store]
    exact (he w.store).attaches fun _ => id
  cases h with
  | create n => exact hquiet (Edit.create_sameParents n)
  | assign i field => exact hquiet (OpenField.assign_sameParents i field)
  | setUserId i id => exact hquiet (Edit.setUserId_sameParents i id)
  | addChild parent child =>
    rw [after, Act.ofEdit_store]
    exact Edit.addChild_attaches parent child w.store
  | listen i event callback => exact hquiet (Edit.listen_sameParents i event callback)
  | hookBefore i hook => exact hquiet (Edit.hookBefore_sameParents i hook)
  | hookAfter i hook => exact hquiet (Edit.hookAfter_sameParents i hook)
  | sealTree i => exact hquiet (Edit.sealTree_sameParents i)
  | prepare roots =>
    rw [after, Act.ofEdit_store]
    exact prepare_attaches roots w.store
  | applyStyles i properties =>
    have hstyles : Moves World.SameParents (Act.applyStyles i properties) :=
      Act.applyStyles_moves (fun _ w => refl w.store) i properties fun r =>
        Act.ofEdit_sameParents (Edit.restyle_sameParents i r)
    exact Store.SameParents.attaches (hstyles w) fun _ => id
  | start settings pushes elements blocks baseFile =>
    have hinstall := installTree_attaches elements w.store
    rw [after, Interface.run_start]
    rcases hi : (installTree elements).run w.store with ⟨v | roots, s⟩ <;> rw [hi] at hinstall <;> exact hinstall

end Handling

/-- A request writes no parents. -/
theorem Request.sameParents (r : Request) (l : Live) : l.world.store.SameParents (r.run.run l).2.world.store := by
  rw [run_eq]
  cases r with
  | build => exact Operation.build_store l ▸ refl _
  | handleEvent depth p => exact Operation.handleEvent_store depth p l ▸ refl _
  | setVisibility visible =>
    dsimp only
    rw [Operation.setVisibility_store]
    rcases l.marker? with _ | i
    · exact refl _
    · exact .update fun _ => rfl

/-- An update writes what its installation writes, whether it goes through or fails. -/
theorem Operation.update_store (elements : Option (List NodeId)) (blocks : List Block) (baseFile : Option String)
    (l : Live) :
    ((update elements blocks baseFile).run l).2.world.store = ((installTree elements).run l.world.store).2 := by
  rw [run_update]
  rcases (installTree elements).run l.world.store with ⟨v | roots, s⟩
  · rfl
  dsimp only
  rcases emit l.hud.settings.setup (s.forest roots) blocks (baseFile <|> l.hud.settings.baseFile) with f | p
  · rfl
  · exact Live.pushed_world_store _ p

namespace Deed

/-- Whether a deed gives a node a parent, if the node has none. -/
def GivesParent (l : Live) (i : NodeId) : Deed → Prop
  | handling h => h.GivesParent l.world i
  | request _ => False
  | update elements _ _ => l.world.store.Adopts elements i

theorem attaches (d : Deed) (l : Live) :
    l.world.store.Attaches (d.after l).world.store fun i => d.GivesParent l i := by
  cases d with
  | handling h => exact h.attaches l.world
  | request r => exact (r.sameParents l).attaches fun _ => id
  | update elements blocks baseFile =>
    rw [after, Operation.update_store]
    exact installTree_attaches elements l.world.store

end Deed

/-! ## Steps -/

namespace Live

namespace Step

/-- Whether a step gives a node a parent, if the node has none. -/
def GivesParent (l : Live) (i : NodeId) : Step → Prop
  | own d => d.GivesParent l i
  | elsewhere other d => d.GivesParent ⟨l.world, other⟩ i

/-- Whether a step gives a live element a parent and leaves it in the list. -/
def Captures (l : Live) (st : Step) : Prop := ¬ st.Replaces l ∧ ∃ i ∈ l.hud.elements, st.GivesParent l i

/-- Whether a step gives a live element a parent or a live node a child, and leaves the trees. -/
def Disturbs (l : Live) (st : Step) : Prop :=
  ¬ st.Replaces l ∧ ((∃ i ∈ l.hud.elements, st.GivesParent l i) ∨ ¬ st.Spares l)

variable {l : Live} {st : Step}

theorem attaches (st : Step) (l : Live) :
    l.world.store.Attaches (st.after l).world.store fun i => st.GivesParent l i := by
  cases st with
  | own d => exact d.attaches l
  | elsewhere other d => exact d.attaches ⟨l.world, other⟩

end Step

/-- No element of the interface has a parent. -/
def OnTop (l : Live) : Prop := ∀ i ∈ l.hud.elements, (l.world.store.node i).parent = none

/-- The trees of an interface, as an installation leaves them. -/
def Placed (l : Live) : Prop := l.world.store.Placed l.hud.elements

variable {l : Live} {st : Step}

theorem Started.placed (h : l.Started) : l.Placed ∧ l.OnTop := by
  obtain @⟨w, w', settings, pushes, elements, blocks, baseFile, hud, closed, named, h⟩ := h
  rw [Interface.run_start] at h
  rcases installTree_cases elements w.store with ⟨v, hv⟩ | ⟨roots, s, he, -, -, hi⟩
  · rw [hv] at h
    cases h
  · rw [hi] at h
    cases h
    exact Store.placed_of_ok closed (named roots he) hi

/-- A step that puts new trees in leaves them placed and on top. -/
theorem Step.placed_of_replaces (hc : l.world.store.Closed) (hn : st.Names l.world.store)
    (hr : st.Replaces l) :
    (st.after l).Placed ∧ (st.after l).OnTop := by
  match st with
  | .elsewhere _ _ => exact hr.elim
  | .own (.handling _) => exact hr.elim
  | .own (.request _) => exact hr.elim
  | .own (.update elements blocks baseFile) =>
    obtain ⟨q, hq⟩ := hr
    show Placed ((Operation.update elements blocks baseFile).run l).2 ∧
      OnTop ((Operation.update elements blocks baseFile).run l).2
    rcases Operation.update_cases elements blocks baseFile l with ⟨f, s, -, hu⟩ | ⟨roots, s, p, rfl, hi, hu⟩
    · rw [hu] at hq
      cases hq
    · rw [hu]
      unfold Placed OnTop
      rw [pushed_world_store, pushed_hud]
      exact Store.placed_of_ok hc (hn roots rfl) hi

/-! ## Elements that stay on top -/

/-- Children and elements of an interface are nodes of its store. -/
structure Named (l : Live) : Prop where
  closed : l.world.store.Closed
  elements : ∀ i ∈ l.hud.elements, i < l.world.store.size

theorem Sound.named (h : l.Sound) : l.Named := by
  refine ⟨h.closed, fun i hi => h.lt_size ?_⟩
  obtain ⟨k, hk⟩ := List.getElem?_of_mem hi
  exact ⟨[k], none, .root hk⟩

theorem Named.step (h : l.Named) (hn : st.Names l.world.store) : (st.after l).Named := by
  have hk := Step.keeps hn
  by_cases hr : st.Replaces l
  · exact Sound.named ⟨hk.closed h.closed, Step.installed_of_replaces h.closed hn hr⟩
  · refine ⟨hk.closed h.closed, fun i hi => ?_⟩
    rw [Step.elements_eq hr] at hi
    exact Nat.lt_of_lt_of_le (h.elements i hi) hk.size

theorem AllNamed.named {ss : List Step} (hn : l.AllNamed ss) (h : l.Named) : (l.afterSteps ss).Named := by
  induction ss generalizing l with
  | nil => exact h
  | cons st ss ih => exact ih hn.2 (h.step hn.1)

/-- While the trees are not replaced, the elements stay on top exactly if the step captures none. -/
theorem Step.onTop_iff (h : l.Named) (hr : ¬ st.Replaces l) : (st.after l).OnTop ↔ l.OnTop ∧ ¬ st.Captures l := by
  have hparent : ∀ i ∈ l.hud.elements, ((st.after l).world.store.node i).parent = none ↔
      (l.world.store.node i).parent = none ∧ ¬ st.GivesParent l i := by
    intro i hi
    have hiff := not_congr ((st.attaches l).isSome_parent_iff (h.elements i hi))
    simpa only [not_or, Bool.not_eq_true, Option.isSome_eq_false_iff, Option.isNone_iff_eq_none] using hiff
  unfold OnTop Step.Captures
  rw [elements_eq hr]
  constructor
  · intro htop
    refine ⟨fun i hi => ((hparent i hi).1 (htop i hi)).1, ?_⟩
    rintro ⟨-, i, hi, hg⟩
    exact ((hparent i hi).1 (htop i hi)).2 hg
  · rintro ⟨htop, hcaptures⟩ i hi
    exact (hparent i hi).2 ⟨htop i hi, fun hg => hcaptures ⟨hr, i, hi, hg⟩⟩

/-! ## Trees that can be installed again -/

/-- An interface with its trees as an installation leaves them. -/
structure Intact (l : Live) : Prop extends l.Sound where
  placed : l.Placed
  onTop : l.OnTop

/-- The elements of an interface pass the checks of an installation. -/
def Installable (l : Live) : Prop :=
  ∃ s, (installTree (some l.hud.elements)).run l.world.store = (.ok l.hud.elements, s)

theorem Intact.installable (h : l.Intact) : l.Installable := (h.placed.installTree_iff h.installed).2 h.onTop

theorem Intact.of_replaces (hc : l.world.store.Closed) (hn : st.Names l.world.store) (hr : st.Replaces l) :
    (st.after l).Intact := by
  obtain ⟨hplaced, htop⟩ := Step.placed_of_replaces hc hn hr
  exact ⟨⟨(Step.keeps hn).closed hc, Step.installed_of_replaces hc hn hr⟩, hplaced, htop⟩

/-- A step that does not disturb the trees leaves them intact. -/
theorem Intact.step (h : l.Intact) (hn : st.Names l.world.store) (hr : ¬ st.Replaces l) (hd : ¬ st.Disturbs l) :
    (st.after l).Intact := by
  have hspares : st.Spares l := by
    by_contra hnot
    exact hd ⟨hr, .inr hnot⟩
  refine ⟨h.toSound.step st hn hspares, ?_, (Step.onTop_iff h.named hr).2 ⟨h.onTop, fun hc => hd ⟨hr, .inl hc.2⟩⟩⟩
  unfold Live.Placed
  rw [Step.elements_eq hr]
  exact h.placed.keep hspares (st.attaches l)

/-- A step that disturbs intact trees leaves in them a node with a foreign parent. -/
theorem Intact.reachedForeign (h : l.Intact) (hn : st.Names l.world.store) (hd : st.Disturbs l) :
    (st.after l).world.store.ReachedForeign (st.after l).hud.elements := by
  obtain ⟨hr, hd⟩ := hd
  rw [Step.elements_eq hr]
  rcases hd with ⟨i, hi, hgiven⟩ | hnot
  · obtain ⟨k, hk⟩ := List.getElem?_of_mem hi
    have hsome := ((st.attaches l).isSome_parent_iff (h.named.elements i hi)).2 (.inr hgiven)
    refine ⟨[k], none, i, .root hk, hsome, fun hnone => ?_⟩
    rw [hnone] at hsome
    cases hsome
  · rw [h.spares_iff] at hnot
    push Not at hnot
    obtain ⟨⟨p, x⟩, hmem, c, rfl, j, hj, hholds⟩ := hnot
    -- the new child has the open node as parent, and the live node that lists it is sealed
    obtain ⟨hafter, hopen, hlt⟩ := Step.attach_of_appended hmem
    have hne : p ≠ j := by
      rintro rfl
      exact hopen (h.installed.frozen_of_reached hj).isSealed
    have hlist : l.world.store.childList j = l.world.store.childList p := hholds
    have hchild : c ∈ ((st.after l).world.store.node j).children := by
      rw [hafter, Store.children_attach _ p c (h.lt_size hj), if_pos hlist]
      simp
    have hparent : ((st.after l).world.store.node c).parent = some p := by
      rw [hafter, Store.parent_attach _ p c (hlt hn), if_pos rfl]
    obtain ⟨place, lister, hp⟩ := hj
    obtain ⟨k, hk⟩ := List.getElem?_of_mem hchild
    refine ⟨k :: place, some j, c, .child ((st.receives l).grows.at_of hp) hk, by simp [hparent], ?_⟩
    rw [hparent]
    exact fun hsame => hne (Option.some.inj hsame)

/-! ## Sequences of steps -/

/-- Every step of a kind is followed by one that puts new trees in. -/
def MadeUp (l : Live) (bad : Live → Step → Prop) (ss : List Step) : Prop :=
  ∀ earlier st later, ss = earlier ++ st :: later → bad (l.afterSteps earlier) st →
    ∃ between r rest, later = between ++ r :: rest ∧ r.Replaces (l.afterSteps (earlier ++ st :: between))

section MadeUp

variable {bad : Live → Step → Prop} {ss : List Step}

theorem madeUp_nil : l.MadeUp bad [] := by
  intro earlier st later heq _
  simp at heq

/-- New trees at the end make up for everything before. -/
theorem madeUp_concat_replaces (hbad : ∀ l st, bad l st → ¬ st.Replaces l) (hr : st.Replaces (l.afterSteps ss)) :
    l.MadeUp bad (ss ++ [st]) := by
  intro earlier c later heq hc
  rcases concat_eq_append_cons heq with ⟨rfl, rfl, rfl⟩ | ⟨later', rfl, rfl⟩
  · exact absurd hr (hbad _ _ hc)
  · exact ⟨later', st, [], rfl, hr⟩

/-- Another step at the end must not be of the kind itself. -/
theorem madeUp_concat (hr : ¬ st.Replaces (l.afterSteps ss)) :
    l.MadeUp bad (ss ++ [st]) ↔ l.MadeUp bad ss ∧ ¬ bad (l.afterSteps ss) st := by
  constructor
  · intro h
    constructor
    · rintro earlier c later rfl hc
      obtain ⟨between, r, rest, hlater, hreplaces⟩ := h earlier c (later ++ [st]) (by simp) hc
      rcases concat_eq_append_cons hlater with ⟨-, rfl, rfl⟩ | ⟨rest', -, rfl⟩
      · exact absurd hreplaces hr
      · exact ⟨between, r, rest', rfl, hreplaces⟩
    · intro hc
      obtain ⟨between, r, rest, hlater, -⟩ := h ss st [] rfl hc
      simp at hlater
  · rintro ⟨h, hnot⟩ earlier c later heq hc
    rcases concat_eq_append_cons heq with ⟨-, rfl, rfl⟩ | ⟨later', rfl, hss⟩
    · exact absurd hc hnot
    · obtain ⟨between, r, rest, rfl, hreplaces⟩ := h earlier c later' hss hc
      exact ⟨between, r, rest ++ [st], by simp, hreplaces⟩

end MadeUp

/-- Every step that captures a live element is followed by one that puts new trees in. -/
def LeftOnTop (l : Live) (ss : List Step) : Prop := l.MadeUp (fun l st => st.Captures l) ss

/-- Every step that disturbs the live trees is followed by one that puts new trees in. -/
def LeftIntact (l : Live) (ss : List Step) : Prop := l.MadeUp (fun l st => st.Disturbs l) ss

theorem Started.onTop_iff (h : l.Started) {ss : List Step} (hn : l.AllNamed ss) :
    (l.afterSteps ss).OnTop ↔ l.LeftOnTop ss := by
  unfold LeftOnTop
  induction ss using List.reverseRecOn with
  | nil => exact iff_of_true h.placed.2 madeUp_nil
  | append_singleton ss st ih =>
    obtain ⟨hfirst, hnames, -⟩ := allNamed_append.1 hn
    have hnamed := hfirst.named h.sound.1.named
    rw [afterSteps_concat]
    by_cases hr : st.Replaces (l.afterSteps ss)
    · exact iff_of_true (Step.placed_of_replaces hnamed.closed hnames hr).2
        (madeUp_concat_replaces (fun _ _ hc => hc.1) hr)
    · rw [Step.onTop_iff hnamed hr, madeUp_concat hr, ih hfirst]

/-- Steps leave the trees intact if every disturbance is made up for, and else a node with a foreign parent. -/
theorem Started.intact_or_foreign (h : l.Started) {ss : List Step} (hn : l.AllNamed ss) :
    (l.LeftIntact ss ∧ (l.afterSteps ss).Intact) ∨
      (¬ l.LeftIntact ss ∧ (l.afterSteps ss).world.store.ReachedForeign (l.afterSteps ss).hud.elements) := by
  unfold LeftIntact
  induction ss using List.reverseRecOn with
  | nil => exact .inl ⟨madeUp_nil, h.sound.1, h.placed.1, h.placed.2⟩
  | append_singleton ss st ih =>
    obtain ⟨hfirst, hnames, -⟩ := allNamed_append.1 hn
    have hnamed := hfirst.named h.sound.1.named
    rw [afterSteps_concat]
    by_cases hr : st.Replaces (l.afterSteps ss)
    · exact .inl ⟨madeUp_concat_replaces (fun _ _ hd => hd.1) hr, .of_replaces hnamed.closed hnames hr⟩
    rw [madeUp_concat hr]
    rcases ih hfirst with ⟨hgood, hintact⟩ | ⟨hbad, hforeign⟩
    · by_cases hd : st.Disturbs (l.afterSteps ss)
      · exact .inr ⟨fun hc => hc.2 hd, hintact.reachedForeign hnames hd⟩
      · exact .inl ⟨⟨hgood, hd⟩, hintact.step hnames hr hd⟩
    · refine .inr ⟨fun hc => hbad hc.1, ?_⟩
      rw [Step.elements_eq hr]
      exact hforeign.grow (st.receives _).grows (st.attaches _)

/-- After a start and any steps, the elements are on top exactly if every step that gave a live element a parent was
followed by one that put new trees in. They can be installed again exactly if this is so, and also every step that gave
a live node a child, by way of an open node that holds its list, was followed by one that put new trees in. -/
theorem Started.onTop_afterSteps_iff {l : Live} (h : l.Started) {ss : List Step} (hn : l.AllNamed ss) :
    ((l.afterSteps ss).OnTop ↔ l.LeftOnTop ss) ∧
    ((∃ s, (installTree (some (l.afterSteps ss).hud.elements)).run (l.afterSteps ss).world.store =
      (.ok (l.afterSteps ss).hud.elements, s)) ↔ l.LeftIntact ss) := by
  refine ⟨h.onTop_iff hn, ?_⟩
  rcases h.intact_or_foreign hn with ⟨hgood, hintact⟩ | ⟨hbad, hforeign⟩
  · exact iff_of_true hintact.installable hgood
  · exact iff_of_false hforeign.not_installable hbad

/-- A new group takes in the live label. -/
def captureLabel : List Step := [.own (.handling (.create { kind := .group })), .own (.handling (.addChild 2 0))]

/-- The same, and then the second label replaces the first. -/
def captureAndSwap : List Step := captureLabel ++ [.own (.update (some [1]) [] none)]

theorem captureLabel_named : (firstLabel []).AllNamed captureLabel := by
  refine ⟨.of_own (fun c hc => by cases hc) rfl, ?_, trivial⟩
  show (0 : Nat) < _
  cbv

theorem captureAndSwap_named : (firstLabel []).AllNamed captureAndSwap := by
  refine allNamed_append.2 ⟨captureLabel_named, ?_, trivial⟩
  intro roots h i hi
  cases h
  rw [List.mem_singleton.1 hi]
  cbv

/-- The label is no longer on top, and an update brings other elements on top. -/
theorem Started.onTop_afterSteps_iff_captureAndSwap :
    (((firstLabel []).afterSteps captureAndSwap).OnTop ↔ (firstLabel []).LeftOnTop captureAndSwap) ∧
    ((∃ s, (installTree (some ((firstLabel []).afterSteps captureAndSwap).hud.elements)).run
        ((firstLabel []).afterSteps captureAndSwap).world.store =
      (.ok ((firstLabel []).afterSteps captureAndSwap).hud.elements, s)) ↔
      (firstLabel []).LeftIntact captureAndSwap) :=
  (firstLabel_started []).onTop_afterSteps_iff captureAndSwap_named

/-- A live label gets a parent, and an update with the interface's own elements is refused for it. -/
theorem not_onTop_captureLabel :
    (firstLabel []).Started ∧ (firstLabel []).AllNamed captureLabel ∧
    ¬ ((firstLabel []).afterSteps captureLabel).OnTop ∧
    ((Operation.update (some ((firstLabel []).afterSteps captureLabel).hud.elements) [] none).run
      ((firstLabel []).afterSteps captureLabel)).1 = .error (.violation (.attachedRoot .label)) := by
  refine ⟨firstLabel_started [], captureLabel_named, fun htop => ?_, by cbv⟩
  have hparent : (((firstLabel []).afterSteps captureLabel).world.store.node 0).parent = some 2 := by cbv
  rw [htop 0 (List.mem_singleton.2 rfl)] at hparent
  cases hparent

end Live

end Overlay
