/-
Updates against new interfaces. To update an interface comes to the same as to start a new one over the new
trees, under the same settings and in the same world, and to build it: both fail alike, or both give one
program and end with one cache. The logs differ, but in reports and pushes only, and to these no event that
is routed later pays attention.
-/
import Overlay.Proofs.Event.Replay
import Overlay.Proofs.Live.Session

namespace Overlay

/-! ## Interfaces that go alike -/

/-- Two interfaces over the same nodes of one store, with one cache and the same calls behind them. -/
structure Live.Twins (l l' : Live) : Prop where
  store : l'.world.store = l.world.store
  calls : l'.world.log.calls = l.world.log.calls
  elements : l'.hud.elements = l.hud.elements
  baseFile : l'.hud.baseFile = l.hud.baseFile
  cache : l'.hud.cache = l.hud.cache

/-- What is given back to events that are routed one after another, each time with the cache after it. -/
def Live.replies (l : Live) : List (Nat × Payload) → List (Except Failure (List Dispatch) × Cache)
  | [] => []
  | (depth, p) :: events =>
    let after := ((Operation.handleEvent depth p).run l).2
    (((Operation.handleEvent depth p).run l).1, after.hud.cache) :: after.replies events

namespace Live.Twins

variable {l l' : Live}

/-- An event is answered alike by twins, and they are twins after it. -/
theorem handleEvent (h : l.Twins l') (depth : Nat) (p : Payload) :
    ((Operation.handleEvent depth p).run l').1 = ((Operation.handleEvent depth p).run l).1 ∧
    ((Operation.handleEvent depth p).run l).2.Twins ((Operation.handleEvent depth p).run l').2 := by
  have hwalk : l'.walk = l.walk := by
    unfold walk
    rw [h.store, h.elements]
  have hdesk : l.desk.Agree l'.desk := ⟨h.cache, h.calls⟩
  obtain ⟨hr, ha⟩ := Routing.Replays.route .own l.walk depth p _ _ hdesk
  rw [Operation.run_handleEvent, Operation.run_handleEvent, hwalk]
  exact ⟨hr, h.store, ha.calls, h.elements, h.baseFile, ha.cache⟩

theorem replies (h : l.Twins l') (events : List (Nat × Payload)) : l'.replies events = l.replies events := by
  induction events generalizing l l' with
  | nil => rfl
  | cons e events ih =>
    obtain ⟨depth, p⟩ := e
    obtain ⟨hr, ha⟩ := h.handleEvent depth p
    simp only [Live.replies]
    rw [hr, ha.cache, ih ha]

end Live.Twins

/-! ## Updating and building -/

/-- The value and the state that a run ends with, if it does not fail. -/
def outcome {α σ : Type} : Except Failure α × σ → Except Failure (α × σ)
  | (.ok a, s) => .ok (a, s)
  | (.error f, _) => .error f

/-- An update, with the interface after it. -/
def Live.updated (l : Live) (elements : Option (List NodeId)) (blocks : List Block) (baseFile : Option String) :
    Except Failure (Program × Live) :=
  outcome ((Operation.update elements blocks baseFile).run l)

/-- A start and the first build, with the new interface after it. -/
def World.builtAnew (w : World) (settings : Settings) (pushes : Bool) (elements : Option (List NodeId))
    (blocks : List Block) (baseFile : Option String) : Except Failure (Program × Live) := do
  let (hud, world) ← outcome ((Interface.start settings pushes elements blocks baseFile).run w)
  outcome (Operation.build.run ⟨world, hud⟩)

/-- A new interface over installed trees. -/
def Live.anew (w : World) (settings : Settings) (pushes : Bool) (roots : List NodeId) (blocks : List Block)
    (baseFile : Option String) : Live where
  world := w
  hud := {
    settings, elements := roots, blocks, pushes
    baseFile := baseFile <|> settings.baseFile
    hidden := markerHidden w.store roots settings.markerId }

/-- An update comes to an installation, an emission and a swap. -/
theorem Live.updated_eq (l : Live) (elements : Option (List NodeId)) (blocks : List Block) (baseFile : Option String) :
    l.updated elements blocks baseFile = match (installTree elements).run l.world.store with
      | (.error v, _) => .error (.violation v)
      | (.ok roots, s) =>
        (emit l.hud.settings.setup (s.forest roots) blocks (baseFile <|> l.hud.settings.baseFile)).map fun p =>
          (p, ((l.withStore s).swap roots blocks (baseFile <|> l.hud.settings.baseFile) p).pushed p) := by
  unfold updated
  rw [Operation.run_update]
  rcases (installTree elements).run l.world.store with ⟨v | roots, s⟩
  · rfl
  · dsimp only
    cases emit l.hud.settings.setup (s.forest roots) blocks (baseFile <|> l.hud.settings.baseFile) <;> rfl

/-- A start and a build come to an installation and an emission, with a refill before it. -/
theorem World.builtAnew_eq (w : World) (settings : Settings) (pushes : Bool) (elements : Option (List NodeId))
    (blocks : List Block) (baseFile : Option String) :
    w.builtAnew settings pushes elements blocks baseFile = match (installTree elements).run w.store with
      | (.error v, _) => .error (.violation v)
      | (.ok roots, s) =>
        (emit settings.setup (s.forest roots) blocks (baseFile <|> settings.baseFile)).map fun p =>
          (p, (Live.anew { w with store := s } settings pushes roots blocks baseFile).refill.built p) := by
  unfold builtAnew
  rw [Interface.run_start]
  rcases (installTree elements).run w.store with ⟨v | roots, s⟩
  · rfl
  · have hbuild := Operation.run_build (Live.anew { w with store := s } settings pushes roots blocks baseFile)
    have hrender : (Live.anew { w with store := s } settings pushes roots blocks baseFile).render =
        emit settings.setup (s.forest roots) blocks (baseFile <|> settings.baseFile) := rfl
    rw [hrender] at hbuild
    show outcome (Operation.build.run (Live.anew { w with store := s } settings pushes roots blocks baseFile)) = _
    rw [hbuild]
    dsimp only
    cases emit settings.setup (s.forest roots) blocks (baseFile <|> settings.baseFile) <;> rfl

/-! ## Calls -/

theorem Live.calls_note_report (l : Live) (r : Report) : (l.note (.report r)).world.log.calls = l.world.log.calls := by
  simp [note, Log.calls]

theorem Live.calls_pushed (l : Live) (p : Program) : (l.pushed p).world.log.calls = l.world.log.calls := by
  unfold pushed
  split
  · simp [note, Log.calls]
  · rfl

theorem Live.calls_swap (l : Live) (roots : List NodeId) (blocks : List Block) (baseFile : Option String)
    (p : Program) : (l.swap roots blocks baseFile p).world.log.calls = l.world.log.calls :=
  (calls_note_report _ _).trans (calls_note_report _ _)

theorem Live.calls_refill (l : Live) : l.refill.world.log.calls = l.world.log.calls := calls_note_report l _

theorem Live.calls_built (l : Live) (p : Program) : (l.built p).world.log.calls = l.world.log.calls :=
  (calls_note_report _ _).trans (calls_note_report _ _)

/-- Updating an interface agrees with building a new one. From one world both fail with the same failure, or
both succeed with the same program, elements, base file and cache, and whatever events come then, the same
dispatches are given back and the same values cached. This takes it that hooks and blocks add to the program, or give
up, without a look at the program so far, and that they do nothing else. -/
theorem update_agrees_with_build (l : Live) (pushes : Bool) (elements : Option (List NodeId)) (blocks : List Block)
    (baseFile : Option String) :
    (∃ f, l.updated elements blocks baseFile = .error f ∧
      l.world.builtAnew l.hud.settings pushes elements blocks baseFile = .error f) ∨
    (∃ p l₁ l₂, l.updated elements blocks baseFile = .ok (p, l₁) ∧
      l.world.builtAnew l.hud.settings pushes elements blocks baseFile = .ok (p, l₂) ∧
      l₂.hud.elements = l₁.hud.elements ∧ l₂.hud.baseFile = l₁.hud.baseFile ∧ l₂.hud.cache = l₁.hud.cache ∧
      ∀ events, l₂.replies events = l₁.replies events) := by
  rw [Live.updated_eq, World.builtAnew_eq]
  rcases (installTree elements).run l.world.store with ⟨v | roots, s⟩
  · exact .inl ⟨_, rfl, rfl⟩
  dsimp only
  rcases emit l.hud.settings.setup (s.forest roots) blocks (baseFile <|> l.hud.settings.baseFile) with f | p
  · exact .inl ⟨f, rfl, rfl⟩
  · have hhud := ((l.withStore s).swap roots blocks (baseFile <|> l.hud.settings.baseFile) p).pushed_hud p
    -- the two logs got different reports, and a push perhaps, but no calls
    have htwins : (((l.withStore s).swap roots blocks (baseFile <|> l.hud.settings.baseFile) p).pushed p).Twins
        ((Live.anew { l.world with store := s } l.hud.settings pushes roots blocks baseFile).refill.built p) := by
      refine ⟨?_, ?_, ?_, ?_, ?_⟩
      · rw [Live.pushed_world_store]; rfl
      · rw [Live.calls_pushed, Live.calls_swap, Live.calls_built, Live.calls_refill]; rfl
      · rw [hhud]; rfl
      · rw [hhud]; rfl
      · rw [hhud]; rfl
    exact .inr ⟨p, _, _, rfl, rfl, htwins.elements, htwins.baseFile, htwins.cache, htwins.replies⟩

end Overlay
