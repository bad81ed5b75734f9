/-
Updates that fail. The interface, the log and the pushed programs are as before; what the update wrote
before it failed are ids, parents and seals, and of these the live trees, being frozen, take parents at
most. Requests do not look at parents, so all later answers are the same.
-/
import Overlay.Proofs.Element.Bare
import Overlay.Proofs.Live.Session

namespace Overlay

/-! ## Interfaces that are alike -/

namespace Live

/-- The same interface and log over a store that is alike to the trees. -/
def Alike (l l' : Live) : Prop := ∃ t, l.world.store.Alike l.hud.elements t ∧ l' = l.withStore t

/-- The same result, and interfaces that are alike. -/
def Agree {α : Type} (r r' : Except Failure α × Live) : Prop := r'.1 = r.1 ∧ r.2.Alike r'.2

namespace Alike

variable {l l' : Live}

theorem hud (h : l.Alike l') : l'.hud = l.hud := by
  obtain ⟨t, -, rfl⟩ := h
  rfl

theorem note (h : l.Alike l') (e : Entry) : (l.note e).Alike (l'.note e) := by
  obtain ⟨t, ht, rfl⟩ := h
  exact ⟨t, ht, rfl⟩

theorem pushed (h : l.Alike l') (p : Program) : (l.pushed p).Alike (l'.pushed p) := by
  unfold Live.pushed
  rw [h.hud]
  split
  · exact h.note _
  · exact h

theorem refill (h : l.Alike l') : l.refill.Alike l'.refill := by
  obtain ⟨t, ht, rfl⟩ := h
  refine ⟨t, ht, ?_⟩
  have hcache : t.initialCache l.hud.elements = l.world.store.initialCache l.hud.elements := ht.initialCache
  simp only [Live.refill, Live.note, Live.withStore, hcache]

theorem built (h : l.Alike l') (p : Program) : (l.built p).Alike (l'.built p) := by
  obtain ⟨t, ht, rfl⟩ := h
  exact ⟨t, ht, rfl⟩

theorem render (h : l.Alike l') : l'.render = l.render := by
  obtain ⟨t, ht, rfl⟩ := h
  exact ht.emit l.hud.settings.setup l.hud.blocks l.hud.baseFile

theorem marker? (h : l.Alike l') : l'.marker? = l.marker? := by
  obtain ⟨t, ht, rfl⟩ := h
  exact ht.findByUserId l.hud.settings.markerId

theorem toggle (h : l.Alike l') (i : NodeId) (visible : Bool) : (l.toggle i visible).Alike (l'.toggle i visible) := by
  obtain ⟨t, ht, rfl⟩ := h
  have hupdate := ht.update (f := ({ · with visible })) (fun _ => rfl) (fun _ => rfl) i
  exact ⟨_, hupdate, rfl⟩

/-! ## Requests over alike stores -/

theorem build (h : l.Alike l') : Agree (Operation.build.run l) (Operation.build.run l') := by
  rw [Operation.run_build, Operation.run_build, h.render]
  rcases l.render with f | p
  · exact ⟨rfl, h.refill⟩
  · exact ⟨rfl, h.refill.built p⟩

theorem handleEvent (h : l.Alike l') (depth : Nat) (p : Payload) :
    Agree ((Operation.handleEvent depth p).run l) ((Operation.handleEvent depth p).run l') := by
  obtain ⟨t, ht, rfl⟩ := h
  have hroute : route .own (l.withStore t).walk depth p = route .own l.walk depth p := ht.route .own depth p
  rw [Operation.run_handleEvent, Operation.run_handleEvent, hroute]
  exact ⟨rfl, t, ht, rfl⟩

theorem setVisibility (h : l.Alike l') (visible : Bool) :
    Agree ((Operation.setVisibility visible).run l) ((Operation.setVisibility visible).run l') := by
  rw [Operation.run_setVisibility, Operation.run_setVisibility, h.marker?, h.hud]
  rcases l.marker? with _ | i
  · exact ⟨rfl, h⟩
  have htoggle := h.toggle i visible
  dsimp only
  rw [htoggle.render]
  rcases (l.toggle i visible).render with f | p
  · exact ⟨rfl, htoggle.refill⟩
  · exact ⟨rfl, (htoggle.refill.built p).pushed p⟩

theorem request (h : l.Alike l') (r : Request) : Agree (r.run.run l) (r.run.run l') := by
  cases r with
  | build =>
    obtain ⟨hr, ha⟩ := h.build
    rw [Request.run_eq, Request.run_eq]
    exact ⟨congrArg (Except.map Answer.program) hr, ha⟩
  | handleEvent depth p =>
    obtain ⟨hr, ha⟩ := h.handleEvent depth p
    rw [Request.run_eq, Request.run_eq]
    exact ⟨congrArg (Except.map Answer.dispatches) hr, ha⟩
  | setVisibility visible =>
    obtain ⟨hr, ha⟩ := h.setVisibility visible
    rw [Request.run_eq, Request.run_eq]
    exact ⟨congrArg (Except.map Answer.program) hr, ha⟩

end Alike

/-- What an interface gives back to requests made one after another. -/
def answers (l : Live) : List Request → List (Except Failure Answer)
  | [] => []
  | r :: rs => (r.run.run l).1 :: answers (r.run.run l).2 rs

theorem Alike.answers {l l' : Live} (h : l.Alike l') (rs : List Request) : l'.answers rs = l.answers rs := by
  induction rs generalizing l l' with
  | nil => rfl
  | cons r rs ih =>
    obtain ⟨hr, ha⟩ := h.request r
    simp only [Live.answers]
    rw [hr, ih ha]

end Live

/-! ## Failing -/

/-- An update that fails leaves the interface and the log as they were, so that nothing is pushed, and
does not change what any later requests give back, be the new trees fresh, prepared, shared with the
live ones or no trees at all. This takes it that hooks and blocks add to the program, or give up, without a
look at the program so far, and that they do nothing else. -/
theorem Operation.update_atomic {l l' : Live} (h : Session l) {elements : Option (List NodeId)} {blocks : List Block}
    {baseFile : Option String} {f : Failure} (hu : (update elements blocks baseFile).run l = (.error f, l')) :
    l'.hud = l.hud ∧ l'.world.log = l.world.log ∧ ∀ rs : List Request, l'.answers rs = l.answers rs := by
  rcases update_cases elements blocks baseFile l with ⟨f', s, hfill, hr⟩ | ⟨roots, s, p, -, -, hr⟩
  · rw [hr] at hu
    cases hu
    -- the failed update filled the store in, and the live nodes were frozen before
    have halike : l.Alike (l.withStore s) :=
      ⟨s, hfill.alike fun n hn => h.sound.installed.frozen hn, rfl⟩
    exact ⟨rfl, rfl, fun rs => halike.answers rs⟩
  · rw [hr] at hu
    cases hu

/-- The interface after a block gave up in an update with the group that lists the live label. -/
def refusedGroup : Live := ((Operation.update (some [2]) [.error (.raised "stop")] none).run (listedLabel [])).2

/-- The group has become the label's parent, and still nothing is different. -/
theorem Operation.update_atomic_refusedGroup :
    (refusedGroup.world.store.node 0).parent = some 2 ∧
    refusedGroup.hud = (listedLabel []).hud ∧ refusedGroup.world.log = (listedLabel []).world.log ∧
    ∀ rs : List Request, refusedGroup.answers rs = (listedLabel []).answers rs := by
  have hu : (update (some [2]) [.error (.raised "stop")] none).run (listedLabel []) =
      (.error (.raised "stop"), refusedGroup) := Prod.ext (by cbv) rfl
  exact ⟨by cbv, update_atomic (listedLabel_session []) hu⟩

end Overlay
