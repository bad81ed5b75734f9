/-
Running operations on an interface: what each of them answers and writes, in every case. A build fails
only in its emission and has refilled the cache by then; an update that fails has written nothing but
what its installation filled in.
-/
import Overlay.Proofs.Live.Install

namespace Overlay

/-! ## Actions -/

namespace Act

theorem run_store (w : World) : store.run w = (.ok w.store, w) := rfl

theorem run_ofEdit {α : Type} (e : Edit α) (w : World) :
    (ofEdit e).run w = match e.run w.store with
      | (.ok a, s) => (.ok a, { w with store := s })
      | (.error v, s) => (.error (.violation v), { w with store := s }) := by
  unfold ofEdit
  rw [run_bind_ok (run_getThe w)]
  rcases e.run w.store with ⟨v | a, s⟩ <;> rfl

theorem run_ofExcept {α : Type} (r : Except Failure α) (w : World) : (ofExcept r).run w = (r, w) := rfl

/-- An emission reads the store, and reports only if it succeeds. -/
theorem run_emit (setup : Setup) (roots : List NodeId) (blocks : List Block) (baseFile : Option String) (w : World) :
    (emit setup roots blocks baseFile).run w = match Overlay.emit setup (w.store.forest roots) blocks baseFile with
      | .ok p => (.ok p, { w with log := w.log ++ [.report (.emitted p.commands.length p.bindings.length)] })
      | .error f => (.error f, w) := by
  unfold emit
  rw [run_bind_ok (run_store w), run_bind, run_ofExcept]
  rcases Overlay.emit setup (w.store.forest roots) blocks baseFile with f | p <;> rfl

end Act

/-! ## What operations write -/

namespace Live

/-- The nodes of an interface in document order. -/
def walk (l : Live) : List (NodeId × Node) := l.world.store.walk l.hud.elements

/-- The cache and the log of an interface, as a routing works on them. -/
def desk (l : Live) : Desk := ⟨l.hud.cache, l.world.log⟩

/-- The node with the marker's id. -/
def marker? (l : Live) : Option NodeId := l.world.store.findByUserId l.hud.elements l.hud.settings.markerId

/-- The program of an interface as it is now. -/
def render (l : Live) : Except Failure Program :=
  emit l.hud.settings.setup (l.world.store.forest l.hud.elements) l.hud.blocks l.hud.baseFile

/-- One more entry in the log. -/
def note (l : Live) (e : Entry) : Live := { l with world := { l.world with log := l.world.log ++ [e] } }

def withStore (l : Live) (s : Store) : Live := { l with world := { l.world with store := s } }

/-- The cache with the initial values, as a build begins. -/
def refill (l : Live) : Live :=
  { l.note (.report (.buildStarted l.hud.baseFile l.hud.elements.length)) with
    hud := { l.hud with cache := l.world.store.initialCache l.hud.elements } }

/-- A program that a build has emitted. -/
def built (l : Live) (p : Program) : Live :=
  { (l.note (.report (.emitted p.commands.length p.bindings.length))).note
      (.report (.buildDone p.commands.length l.hud.cache.size)) with
    hud := { l.hud with program := some p } }

/-- The visibility of the marker and the flag, as a toggle begins. -/
def toggle (l : Live) (i : NodeId) (visible : Bool) : Live :=
  { (l.withStore (l.world.store.update i ({ · with visible }))).note (.report (.visibility visible)) with
    hud := { l.hud with hidden := !visible } }

/-- A program pushed to the host, if there is one. -/
def pushed (l : Live) (p : Program) : Live := if l.hud.pushes then l.note (.push p) else l

/-- New trees in the place of the old ones, with their program. -/
def swap (l : Live) (roots : List NodeId) (blocks : List Block) (baseFile : Option String) (p : Program) : Live :=
  { (l.note (.report (.emitted p.commands.length p.bindings.length))).note
      (.report (.updated roots.length p.commands.length)) with
    hud := { l.hud with
      elements := roots, blocks, baseFile, cache := l.world.store.initialCache roots, program := some p } }

end Live

/-! ## Running operations -/

namespace Operation

theorem run_hud (l : Live) : hud.run l = (.ok l.hud, l) := rfl

theorem run_setHud (f : Interface → Interface) (l : Live) :
    (setHud f).run l = (.ok (), { l with hud := f l.hud }) := rfl

theorem run_act {α : Type} (a : Act α) (l : Live) :
    (act a).run l = ((a.run l.world).1, { l with world := (a.run l.world).2 }) := by
  unfold act
  rw [run_bind_ok (run_getThe l)]
  rcases a.run l.world with ⟨f | x, w⟩ <;> rfl

theorem run_push (p : Program) (l : Live) : (push p).run l = (.ok (), l.pushed p) := by
  unfold push
  rw [run_bind_ok (run_hud l)]
  unfold Live.pushed
  by_cases h : l.hud.pushes = true
  · simp only [if_pos h]; rfl
  · simp only [if_neg h]; rfl

theorem run_store (l : Live) : (act Act.store).run l = (.ok l.world.store, l) := rfl

theorem run_report (r : Report) (l : Live) : (act (Act.report r)).run l = (.ok (), l.note (.report r)) := rfl

theorem run_edit {α : Type} (e : Edit α) (l : Live) :
    (act (Act.ofEdit e)).run l = match e.run l.world.store with
      | (.ok a, s) => (.ok a, l.withStore s)
      | (.error v, s) => (.error (.violation v), l.withStore s) := by
  rw [run_act, Act.run_ofEdit]
  rcases e.run l.world.store with ⟨v | a, s⟩ <;> rfl

theorem run_emit (setup : Setup) (roots : List NodeId) (blocks : List Block) (baseFile : Option String) (l : Live) :
    (act (Act.emit setup roots blocks baseFile)).run l =
      match emit setup (l.world.store.forest roots) blocks baseFile with
      | .ok p => (.ok p, l.note (.report (.emitted p.commands.length p.bindings.length)))
      | .error f => (.error f, l) := by
  rw [run_act, Act.run_emit]
  rcases emit setup (l.world.store.forest roots) blocks baseFile with f | p <;> rfl

/-- A build refills the cache and then emits. -/
theorem run_build (l : Live) :
    build.run l = match l.render with
      | .ok p => (.ok p, l.refill.built p)
      | .error f => (.error f, l.refill) := by
  unfold build
  rw [run_bind_ok (run_hud l), run_bind_ok (run_report ..), run_bind_ok (run_store _), run_bind_ok (run_setHud ..)]
  have hemit := run_emit l.hud.settings.setup l.hud.elements l.hud.blocks l.hud.baseFile l.refill
  rcases hr : l.render with f | p <;>
    rw [show emit l.hud.settings.setup (l.refill.world.store.forest l.hud.elements) l.hud.blocks l.hud.baseFile = _
      from hr] at hemit
  · exact run_bind_error hemit
  · refine (run_bind_ok hemit).trans ?_
    rw [run_bind_ok (run_setHud ..), run_bind_ok (run_hud _), run_bind_ok (run_report ..)]
    rfl

/-- Routing an event changes the cache and the log alone. -/
theorem run_handleEvent (depth : Nat) (p : Payload) (l : Live) :
    (handleEvent depth p).run l =
      let r := (route .own l.walk depth p).run ⟨l.hud.cache, l.world.log⟩
      (r.1, { l with world := { l.world with log := r.2.log }, hud := { l.hud with cache := r.2.cache } }) := by
  unfold handleEvent
  rw [run_bind_ok (run_getThe l)]
  unfold Live.walk
  dsimp only
  rcases (route .own (l.world.store.walk l.hud.elements) depth p).run ⟨l.hud.cache, l.world.log⟩ with
    ⟨f | made, desk⟩ <;> rfl

/-- An update installs the new trees, emits them, and swaps them in only then. -/
theorem run_update (elements : Option (List NodeId)) (blocks : List Block) (baseFile : Option String) (l : Live) :
    (update elements blocks baseFile).run l = match (installTree elements).run l.world.store with
      | (.error v, s) => (.error (.violation v), l.withStore s)
      | (.ok roots, s) =>
        match emit l.hud.settings.setup (s.forest roots) blocks (baseFile <|> l.hud.settings.baseFile) with
        | .error f => (.error f, l.withStore s)
        | .ok p => (.ok p, ((l.withStore s).swap roots blocks (baseFile <|> l.hud.settings.baseFile) p).pushed p) := by
  unfold update
  rw [run_bind_ok (run_hud l)]
  have hinstall := run_edit (installTree elements) l
  rcases hi : (installTree elements).run l.world.store with ⟨v | roots, s⟩ <;> rw [hi] at hinstall
  · exact run_bind_error hinstall
  dsimp only at hinstall ⊢
  rw [run_bind_ok hinstall, run_bind_ok (run_store _)]
  have hemit := run_emit l.hud.settings.setup roots blocks (baseFile <|> l.hud.settings.baseFile) (l.withStore s)
  rw [show (l.withStore s).world.store = s from rfl] at hemit
  rcases hr : emit l.hud.settings.setup (s.forest roots) blocks (baseFile <|> l.hud.settings.baseFile) with f | p <;>
    rw [hr] at hemit
  · exact run_bind_error hemit
  · refine (run_bind_ok hemit).trans ?_
    rw [run_bind_ok (run_setHud ..), run_bind_ok (run_report ..), run_bind_ok (run_push ..)]
    rfl

/-- A toggle writes the marker's visibility and the flag, builds, and pushes. -/
theorem run_setVisibility (visible : Bool) (l : Live) :
    (setVisibility visible).run l = match l.marker? with
      | none => (.error (.violation (.noMarker l.hud.settings.markerId)), l)
      | some i => match (l.toggle i visible).render with
        | .ok p => (.ok p, ((l.toggle i visible).refill.built p).pushed p)
        | .error f => (.error f, (l.toggle i visible).refill) := by
  unfold setVisibility
  rw [run_bind_ok (run_hud l), run_bind_ok (run_store l)]
  show (match l.marker? with
    | none => _
    | some i => _ : Operation Program).run l = _
  rcases l.marker? with _ | i
  · rfl
  dsimp only
  rw [run_bind_ok (run_edit ..), run_bind_ok (run_setHud ..), run_bind_ok (run_report ..)]
  have hbuild := run_build (l.toggle i visible)
  rcases hr : (l.toggle i visible).render with f | p <;> rw [hr] at hbuild
  · exact run_bind_error hbuild
  · refine (run_bind_ok hbuild).trans ?_
    rw [run_bind_ok (run_push ..)]
    rfl

/-! ## What operations do to the store -/

theorem build_store (l : Live) : (build.run l).2.world.store = l.world.store := by
  rw [run_build]
  rcases l.render with f | p <;> rfl

theorem handleEvent_store (depth : Nat) (p : Payload) (l : Live) :
    ((handleEvent depth p).run l).2.world.store = l.world.store := by
  rw [run_handleEvent]

/-- An update fills the store in, whether it goes through or fails. -/
theorem update_filledIn (elements : Option (List NodeId)) (blocks : List Block) (baseFile : Option String) (l : Live) :
    l.world.store.FilledIn ((update elements blocks baseFile).run l).2.world.store := by
  have hf := filledIn_installTree elements l.world.store
  rw [run_update]
  rcases hi : (installTree elements).run l.world.store with ⟨v | roots, s⟩ <;> rw [hi] at hf
  · exact hf
  dsimp only
  rcases emit l.hud.settings.setup (s.forest roots) blocks (baseFile <|> l.hud.settings.baseFile) with f | p
  · exact hf
  · dsimp only [Live.pushed]
    split <;> exact hf

/-- A toggle sets one node's visibility and nothing else in the store. -/
theorem setVisibility_store (visible : Bool) (l : Live) :
    ((setVisibility visible).run l).2.world.store = match l.marker? with
      | none => l.world.store
      | some i => l.world.store.update i ({ · with visible }) := by
  rw [run_setVisibility]
  rcases l.marker? with _ | i
  · rfl
  dsimp only
  rcases (l.toggle i visible).render with f | p
  · rfl
  · dsimp only [Live.pushed]
    split <;> rfl

end Operation

end Overlay
