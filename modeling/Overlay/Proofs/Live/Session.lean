/-
Sessions: an interface is started, and then client code handles nodes, makes requests, replaces the
trees, and does the same with other interfaces of the host, in any order, each deed going through or
failing. The nodes that a deed names are there. A seal keeps the lists of a live node from additions to this node,
not from additions to an open one that holds them too; as long as none of these gives a live node a child, the trees
of the interface stay installed, and from one replacement to the next they are the same.
-/
import Overlay.Proofs.Live.Deed
import Mathlib

namespace Overlay

/-! ## Runs -/

/-- An interface just started, in any world of nodes and over any elements of it. -/
inductive Live.Started : Live → Prop
  | start {w w' : World} {settings : Settings} {pushes : Bool} {elements : Option (List NodeId)}
    {blocks : List Block} {baseFile : Option String} {hud : Interface} (closed : w.store.Closed)
    (named : ∀ roots, elements = some roots → ∀ i ∈ roots, i < w.store.size)
    (h : (Interface.start settings pushes elements blocks baseFile).run w = (.ok hud, w')) : Started ⟨w', hud⟩

/-- The states that come after a start and any steps. -/
inductive Live.Reachable : Live → Prop
  | start {l : Live} (h : l.Started) : Reachable l
  | step {l : Live} (h : Reachable l) (st : Step) (named : st.Names l.world.store) : Reachable (st.after l)

/-- A node of the trees of an interface. -/
def Live.Lives (l : Live) (j : NodeId) : Prop := l.world.store.Reached l.hud.elements j

/-- A step gives no live node a child. -/
def Live.Step.Spares (l : Live) (st : Step) : Prop :=
  l.world.store.SameChildren (st.after l).world.store l.hud.elements

/-- The states that an interface comes to, as long as live nodes get no children. This begins anew when the trees are
replaced, whatever was before. -/
inductive Session : Live → Prop
  | start {l : Live} (h : l.Started) : Session l
  | renewed {l : Live} (h : l.Reachable) (st : Live.Step) (named : st.Names l.world.store) (replaces : st.Replaces l) :
    Session (st.after l)
  | step {l : Live} (h : Session l) (st : Live.Step) (named : st.Names l.world.store) (spares : st.Spares l) :
    Session (st.after l)

/-! ## A host with two labels -/

/-- Two labels under the marker's id, the second one not visible. -/
def twoLabels : World where
  store := ⟨#[{ kind := .label, userId := some "HudRoot" },
    { kind := .label, userId := some "HudRoot", visible := false }]⟩

/-- The interface that starts over the first label, with some blocks. -/
def firstLabel (blocks : List Block) : Live where
  world := { store := ⟨#[
    { kind := .label, userId := some "HudRoot", internalId := some "HudRoot", isSealed := true },
    { kind := .label, userId := some "HudRoot", visible := false }]⟩ }
  hud := { settings := {}, elements := [0], blocks, baseFile := none, hidden := false, pushes := true }

theorem twoLabels_closed : twoLabels.store.Closed := Store.closed_of_nodes (by decide)

theorem firstLabel_started (blocks : List Block) : (firstLabel blocks).Started := by
  have hstart : (Interface.start {} true (some [0]) blocks none).run twoLabels =
      (.ok (firstLabel blocks).hud, (firstLabel blocks).world) := by cbv
  refine .start twoLabels_closed (fun roots h i hi => ?_) hstart
  cases h
  rw [List.mem_singleton.1 hi]
  decide

/-! ## Live trees -/

theorem Request.elements_eq (r : Request) (l : Live) : (r.run.run l).2.hud.elements = l.hud.elements := by
  rw [run_eq]
  cases r with
  | build =>
    dsimp only
    rw [Operation.run_build]
    rcases l.render with f | p <;> rfl
  | handleEvent depth p => exact congrArg (fun r => r.2.hud.elements) (Operation.run_handleEvent depth p l)
  | setVisibility visible =>
    dsimp only
    rw [Operation.run_setVisibility]
    rcases l.marker? with _ | i
    · rfl
    dsimp only
    rcases (l.toggle i visible).render with f | p
    · rfl
    · dsimp only [Live.pushed]
      split <;> rfl

/-- What an update comes to: it fails and only fills the store in, or the new trees are installed. -/
theorem Operation.update_cases (elements : Option (List NodeId)) (blocks : List Block) (baseFile : Option String)
    (l : Live) :
    (∃ f s, l.world.store.FilledIn s ∧ (update elements blocks baseFile).run l = (.error f, l.withStore s)) ∨
    (∃ roots s p, elements = some roots ∧ (installTree elements).run l.world.store = (.ok roots, s) ∧
      (update elements blocks baseFile).run l =
        (.ok p, ((l.withStore s).swap roots blocks (baseFile <|> l.hud.settings.baseFile) p).pushed p)) := by
  have hf := filledIn_installTree elements l.world.store
  rw [run_update]
  rcases hi : (installTree elements).run l.world.store with ⟨v | roots, s⟩ <;> rw [hi] at hf
  · exact .inl ⟨_, s, hf, rfl⟩
  dsimp only
  rcases emit l.hud.settings.setup (s.forest roots) blocks (baseFile <|> l.hud.settings.baseFile) with f | p
  · exact .inl ⟨f, s, hf, rfl⟩
  · rcases installTree_cases elements l.world.store with ⟨v, hv⟩ | ⟨roots', s', he, -, -, hr⟩
    · rw [hv] at hi; cases hi
    · rw [hr] at hi
      cases hi
      exact .inr ⟨roots, _, p, he, rfl, rfl⟩

theorem Live.pushed_world_store (l : Live) (p : Program) : (l.pushed p).world.store = l.world.store := by
  unfold pushed
  split <;> rfl

theorem Live.pushed_hud (l : Live) (p : Program) : (l.pushed p).hud = l.hud := by
  unfold pushed
  split <;> rfl

/-- A deed that does not replace the trees leaves the list of elements alone. -/
theorem Deed.elements_eq {d : Deed} {l : Live} (h : ¬ d.Replaces l) : (d.after l).hud.elements = l.hud.elements := by
  cases d with
  | handling h => rfl
  | request r => exact r.elements_eq l
  | update elements blocks baseFile =>
    rcases Operation.update_cases elements blocks baseFile l with ⟨f, s, -, hu⟩ | ⟨roots, s, p, -, -, hu⟩
    · show ((Operation.update elements blocks baseFile).run l).2.hud.elements = _
      rw [hu]
      rfl
    · exact absurd ⟨p, congrArg Prod.fst hu⟩ h

theorem Live.Step.elements_eq {st : Step} {l : Live} (h : ¬ st.Replaces l) :
    (st.after l).hud.elements = l.hud.elements := by
  cases st with
  | own d => exact Deed.elements_eq h
  | elsewhere other d => rfl

/-- What holds of an interface all along: children name nodes, and its trees are installed. -/
structure Live.Sound (l : Live) : Prop where
  closed : l.world.store.Closed
  installed : l.world.store.Installed l.hud.elements

/-- New trees are installed. -/
theorem Live.Step.installed_of_replaces {st : Step} {l : Live} (hc : l.world.store.Closed)
    (hn : st.Names l.world.store) (hr : st.Replaces l) :
    (st.after l).world.store.Installed (st.after l).hud.elements := by
  match st with
  | .elsewhere _ _ => exact hr.elim
  | .own (.handling _) => exact hr.elim
  | .own (.request _) => exact hr.elim
  | .own (.update elements blocks baseFile) =>
    obtain ⟨q, hq⟩ := hr
    show (((Operation.update elements blocks baseFile).run l).2.world.store).Installed
      ((Operation.update elements blocks baseFile).run l).2.hud.elements
    rcases Operation.update_cases elements blocks baseFile l with ⟨f, s, -, hu⟩ | ⟨roots, s, p, rfl, hi, hu⟩
    · rw [hu] at hq
      cases hq
    · rw [hu, Live.pushed_world_store, Live.pushed_hud]
      exact installed_of_ok hc (hn roots rfl) hi

namespace Live.Sound

variable {l l' : Live} {st : Step}

theorem lt_size (h : l.Sound) {j : NodeId} (hj : l.Lives j) : j < l.world.store.size :=
  Store.lt_size_of_isSealed (h.installed.frozen_of_reached hj).isSealed

/-- A step that spares the live nodes, or puts in others, keeps an interface sound. -/
theorem step (h : l.Sound) (st : Step) (hn : st.Names l.world.store) (hs : st.Spares l) : (st.after l).Sound := by
  refine ⟨(Step.keeps hn).closed h.closed, ?_⟩
  by_cases hr : st.Replaces l
  · exact Step.installed_of_replaces h.closed hn hr
  · rw [Step.elements_eq hr]
    exact h.installed.keep (Step.keeps hn) hs

/-- A step spares the live nodes exactly if it appends no child to a list that one of them holds. -/
theorem spares_iff (h : l.Sound) (st : Step) : st.Spares l ↔
    ∀ a ∈ st.appended l, ∀ c, a.2 = .child c → ∀ j, l.Lives j → ¬ l.world.store.Holds a.1 a.2 j := by
  have hchildren : st.Spares l ↔ ∀ j, l.Lives j →
      ∀ a ∈ st.appended l, ∀ c, a.2 = .child c → ¬ l.world.store.Holds a.1 a.2 j :=
    forall₂_congr fun j hj => (st.receives l).children_eq_iff (h.lt_size hj)
  rw [hchildren]
  exact ⟨fun hall a ha c hc j hj => hall j hj a ha c hc, fun hall j hj a ha c hc => hall a ha c hc j hj⟩

theorem spares_of_appended (h : l.Sound) (hnil : st.appended l = []) : st.Spares l := by
  rw [h.spares_iff, hnil]
  simp

/-- Where the lists of children of live nodes are held by sealed nodes only, every step spares the live nodes. -/
theorem spares_of_holders (h : l.Sound) (hholders : ∀ i j, l.Lives j →
    l.world.store.childList j = l.world.store.childList i → (l.world.store.node i).isSealed) (st : Step) :
    st.Spares l := by
  rw [h.spares_iff]
  rintro ⟨i, x⟩ hmem c rfl j hj hholds
  exact (Step.attach_of_appended hmem).2.1 (hholders i j hj hholds)

/-- Operations on an interface append nothing. -/
theorem spares_request (h : l.Sound) (r : Request) : (Step.own (.request r)).Spares l := h.spares_of_appended rfl

theorem spares_update (h : l.Sound) (elements : Option (List NodeId)) (blocks : List Block)
    (baseFile : Option String) : (Step.own (.update elements blocks baseFile)).Spares l :=
  h.spares_of_appended rfl

end Live.Sound

/-- What starting comes to: the trees are installed and the flag is as the marker is. -/
theorem Live.Started.sound {l : Live} (h : l.Started) :
    l.Sound ∧ l.hud.hidden = markerHidden l.world.store l.hud.elements l.hud.settings.markerId := by
  obtain @⟨w, w', settings, pushes, elements, blocks, baseFile, hud, closed, named, h⟩ := h
  have hfill := filledIn_installTree elements w.store
  rw [Interface.run_start] at h
  rcases installTree_cases elements w.store with ⟨v, hv⟩ | ⟨roots, s, he, -, -, hi⟩
  · rw [hv] at h; cases h
  · rw [hi] at h hfill
    cases h
    exact ⟨⟨hfill.keeps.closed closed, installed_of_ok closed (named roots he) hi⟩, rfl⟩

theorem Live.Reachable.closed {l : Live} (h : l.Reachable) : l.world.store.Closed := by
  induction h with
  | start h => exact h.sound.1.closed
  | step _ _ hn ih => exact (Step.keeps hn).closed ih

/-- All along a session the trees of the interface are installed. -/
theorem Session.sound {l : Live} (h : Session l) : l.Sound := by
  induction h with
  | start h => exact h.sound.1
  | renewed h st hn hr => exact ⟨(Live.Step.keeps hn).closed h.closed, Live.Step.installed_of_replaces h.closed hn hr⟩
  | step _ st hn hs ih => exact ih.step st hn hs

/-- The interface after client code tried to rename the live label and listed it in a new group. -/
def listedLabel (blocks : List Block) : Live :=
  (Deed.handling (.create { kind := .group, children := [0] })).after
    ((Deed.handling (.setUserId 0 "Other")).after (firstLabel blocks))

theorem listedLabel_session (blocks : List Block) : Session (listedLabel blocks) := by
  have hstart : Session (firstLabel blocks) := .start (firstLabel_started blocks)
  have hrename := hstart.step (.own (.handling (.setUserId 0 "Other"))) trivial (hstart.sound.spares_of_appended rfl)
  refine hrename.step (.own (.handling (.create { kind := .group, children := [0] }))) (.of_own (fun c hc => ?_) rfl)
    (hrename.sound.spares_of_appended rfl)
  rw [List.mem_singleton.1 hc]
  cbv

end Overlay
