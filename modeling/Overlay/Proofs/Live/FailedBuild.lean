/-
Builds and toggles that fail. By the time the emission fails the cache is refilled, and a toggle has set
the marker and the flag as well; the program is the old one and nothing is pushed. So all is as before
only where what was written was there already.
-/
import Overlay.Proofs.Live.Visibility

namespace Overlay

namespace Live

/-- Whether the marker is visible, if it is live. -/
def markerVisible? (l : Live) : Option Bool := l.marker?.map fun i => (l.world.store.node i).visible

/-- The cache holds what it would after a refill. -/
def HoldsInitial (l : Live) : Prop :=
  ∀ id, (l.world.store.initialCache l.hud.elements).get? id = l.hud.cache.get? id

/-- What a host can tell of an interface is the same in both. -/
structure Untouched (l l' : Live) : Prop where
  cache : ∀ id, l'.hud.cache.get? id = l.hud.cache.get? id
  program : l'.hud.program = l.hud.program
  hidden : l'.hud.hidden = l.hud.hidden
  markerVisible : l'.markerVisible? = l.markerVisible?
  pushes : l'.world.log.pushes = l.world.log.pushes

theorem Untouched.refl (l : Live) : l.Untouched l := ⟨fun _ => rfl, rfl, rfl, rfl, rfl⟩

/-! ## What has been written when an emission fails -/

theorem pushes_note_report (l : Live) (r : Report) : (l.note (.report r)).world.log.pushes = l.world.log.pushes := by
  simp [note, Log.pushes]

theorem pushes_refill (l : Live) : l.refill.world.log.pushes = l.world.log.pushes :=
  pushes_note_report l _

theorem pushes_toggle (l : Live) (i : NodeId) (visible : Bool) :
    (l.toggle i visible).world.log.pushes = l.world.log.pushes :=
  pushes_note_report (l.withStore _) _

/-- Initial values do not depend on what is visible. -/
theorem initialCache_toggle (l : Live) (i : NodeId) (visible : Bool) :
    (l.toggle i visible).world.store.initialCache l.hud.elements = l.world.store.initialCache l.hud.elements :=
  Store.initialCache_update (f := ({ · with visible })) (fun _ => rfl) (fun _ => rfl) (fun _ => rfl) l.world.store i
    l.hud.elements

theorem markerVisible?_toggle {l : Live} {i : NodeId} (h : l.marker? = some i) (visible : Bool) :
    (l.toggle i visible).markerVisible? = some visible := by
  unfold markerVisible?
  rw [marker?_toggle, h]
  exact congrArg some (visible_toggle h visible)

theorem untouched_refill_iff (l : Live) : l.Untouched l.refill ↔ l.HoldsInitial := by
  constructor
  · intro h
    exact h.cache
  · intro h
    exact ⟨h, rfl, rfl, rfl, l.pushes_refill⟩

theorem untouched_toggle_iff {l : Live} {i : NodeId} (h : l.marker? = some i) (visible : Bool) :
    l.Untouched (l.toggle i visible).refill ↔
      l.markerVisible? = some visible ∧ l.hud.hidden = !visible ∧ l.HoldsInitial := by
  have hcache : (l.toggle i visible).refill.hud.cache = l.world.store.initialCache l.hud.elements :=
    l.initialCache_toggle i visible
  have hvisible : (l.toggle i visible).refill.markerVisible? = some visible := markerVisible?_toggle h visible
  constructor
  · intro hu
    refine ⟨hu.markerVisible.symm.trans hvisible, hu.hidden.symm, fun id => ?_⟩
    rw [← hcache]
    exact hu.cache id
  · rintro ⟨hv, hh, hc⟩
    refine ⟨fun id => ?_, rfl, hh.symm, hvisible.trans hv.symm, ?_⟩
    · rw [hcache]
      exact hc id
    · rw [pushes_refill, pushes_toggle]

end Live

/-! ## Failing -/

/-- A build or a toggle that fails leaves the program and pushes nothing. The rest is as before exactly
if the cache held the initial values and, for a toggle of a marker that is live, the marker and the flag
were so already. -/
theorem Operation.untouched_iff_of_error {l l' : Live} {f : Failure} :
    (build.run l = (.error f, l') →
      l'.hud.program = l.hud.program ∧ l'.world.log.pushes = l.world.log.pushes ∧
      (l.Untouched l' ↔ l.HoldsInitial)) ∧
    ∀ visible, (setVisibility visible).run l = (.error f, l') →
      l'.hud.program = l.hud.program ∧ l'.world.log.pushes = l.world.log.pushes ∧
      (l.Untouched l' ↔ l.marker? = none ∨
        (l.markerVisible? = some visible ∧ l.hud.hidden = !visible ∧ l.HoldsInitial)) := by
  constructor
  · intro h
    rw [run_build] at h
    rcases hr : l.render with g | p <;> rw [hr] at h <;> cases h
    exact ⟨rfl, l.pushes_refill, l.untouched_refill_iff⟩
  · intro visible h
    rw [run_setVisibility] at h
    rcases hm : l.marker? with _ | i <;> rw [hm] at h <;> dsimp only at h
    · cases h
      exact ⟨rfl, rfl, iff_of_true (.refl l) (.inl rfl)⟩
    · rcases hr : (l.toggle i visible).render with g | p <;> rw [hr] at h <;> cases h
      refine ⟨rfl, (Live.pushes_refill _).trans (l.pushes_toggle i visible), ?_⟩
      rw [Live.untouched_toggle_iff hm]
      constructor
      · exact .inr
      · rintro (hnone | hsame)
        · cases hnone
        · exact hsame

/-- The interface over the first label with a block that gives up. -/
def failingLabel : Live := firstLabel [.error (.raised "stop")]

theorem Operation.run_failingLabel :
    build.run failingLabel = (.error (.raised "stop"), failingLabel.refill) ∧
    (setVisibility false).run failingLabel = (.error (.raised "stop"), (failingLabel.toggle 0 false).refill) :=
  ⟨by cbv, by cbv⟩

theorem Operation.untouched_iff_of_error_failingLabel :
    (failingLabel.Untouched failingLabel.refill ↔ failingLabel.HoldsInitial) ∧
    (failingLabel.Untouched (failingLabel.toggle 0 false).refill ↔ failingLabel.marker? = none ∨
      (failingLabel.markerVisible? = some false ∧ failingLabel.hud.hidden = !false ∧ failingLabel.HoldsInitial)) :=
  ⟨(untouched_iff_of_error.1 run_failingLabel.1).2.2, (untouched_iff_of_error.2 false run_failingLabel.2).2.2⟩

/-- Hiding fails at the block, and the flag is set. -/
theorem Operation.not_untouched_failingLabel :
    Session failingLabel ∧
    (setVisibility false).run failingLabel = (.error (.raised "stop"), (failingLabel.toggle 0 false).refill) ∧
    ¬ failingLabel.Untouched (failingLabel.toggle 0 false).refill := by
  refine ⟨.start (firstLabel_started _), run_failingLabel.2, fun h => ?_⟩
  have hflag : true = false := h.hidden
  cases hflag

end Overlay
