/-
Toggling. Builds, events and toggles change nothing that an emission looks at but the visibility of the
marker, so what a build gives depends on the last toggle alone, and toggling back gives the program again.
-/
import Overlay.Proofs.Event.Binding
import Overlay.Proofs.Live.Visibility
import Overlay.Proofs.Program.Selector
import Overlay.Proofs.Program.Toggle

namespace Overlay

open Overlay.Tree

/-! ## What emissions look at -/

/-- What the emission of an interface and the search for its marker look at. -/
structure Scene where
  store : Store
  elements : List NodeId
  settings : Settings
  blocks : List Block
  baseFile : Option String

namespace Live

def scene (l : Live) : Scene := ⟨l.world.store, l.hud.elements, l.hud.settings, l.hud.blocks, l.hud.baseFile⟩

theorem scene_refill (l : Live) : l.refill.scene = l.scene := rfl

theorem scene_built (l : Live) (p : Program) : (l.built p).scene = l.scene := rfl

theorem scene_pushed (l : Live) (p : Program) : (l.pushed p).scene = l.scene := by
  unfold pushed
  split <;> rfl

theorem scene_build (l : Live) : (Operation.build.run l).2.scene = l.scene := by
  rw [Operation.run_build]
  rcases l.render with f | p
  · exact l.scene_refill
  · exact (l.refill.scene_built p).trans l.scene_refill

theorem scene_handleEvent (depth : Nat) (p : Payload) (l : Live) :
    ((Operation.handleEvent depth p).run l).2.scene = l.scene := by
  rw [Operation.run_handleEvent]
  rfl

/-! ## A marker shown or not -/

/-- A later state with the trees of an earlier one, but for the visibility of the marker. -/
structure Shows (l : Live) (i : NodeId) (b : Bool) (l' : Live) : Prop where
  marker : l'.marker? = some i
  forest : l'.world.store.forest l'.hud.elements = (l.world.store.forest l.hud.elements).map (withVisible i b)
  settings : l'.hud.settings = l.hud.settings
  blocks : l'.hud.blocks = l.hud.blocks
  baseFile : l'.hud.baseFile = l.hud.baseFile

namespace Shows

variable {l l' l'' : Live} {i : NodeId} {b : Bool}

theorem of_scene (h : l.Shows i b l') (hs : l''.scene = l'.scene) : l.Shows i b l'' := by
  have hstore : l''.world.store = l'.world.store := congrArg Scene.store hs
  have helements : l''.hud.elements = l'.hud.elements := congrArg Scene.elements hs
  have hsettings : l''.hud.settings = l'.hud.settings := congrArg Scene.settings hs
  constructor
  · unfold marker?
    rw [hstore, helements, hsettings]
    exact h.marker
  · rw [hstore, helements, h.forest]
  · rw [hsettings, h.settings]
  · exact (congrArg Scene.blocks hs).trans h.blocks
  · exact (congrArg Scene.baseFile hs).trans h.baseFile

/-- At first the marker is as it is. -/
theorem start (hm : l.marker? = some i) : l.Shows i (l.world.store.node i).visible l := by
  refine ⟨hm, ?_, rfl, rfl, rfl⟩
  refine ((List.map_congr_left fun t ht => ?_).trans (List.map_id _)).symm
  refine map_eq_self fun n hn => ?_
  split
  · rename_i hi
    rw [hi, ← l.world.store.walk_content l.hud.elements n (mem_flattenAll.2 ⟨t, ht, hn⟩)]
    exact n.2.withVisible_visible
  · rfl

/-- A toggle shows the marker or not, whatever it was before. -/
theorem toggle (h : l.Shows i b l') (b' : Bool) : l.Shows i b' (l'.toggle i b') := by
  have hi : i < l'.world.store.size := Store.lt_size_of_userId (Store.findByUserId_eq_some h.marker).2
  refine ⟨(marker?_toggle l' i b').trans h.marker, ?_, h.settings, h.blocks, h.baseFile⟩
  show (l'.world.store.update i (·.withVisible b')).forest l'.hud.elements = _
  have hforest : (l'.world.store.update i (·.withVisible b')).forest l'.hud.elements =
      (l'.world.store.forest l'.hud.elements).map (withVisible i b') := by
    rw [Store.forest_update (f := (·.withVisible b')) fun _ => rfl]
    refine List.map_congr_left fun t _ => map_congr t fun n _ => ?_
    by_cases hn : i = n.1
    · rw [if_pos ⟨hn, hn ▸ hi⟩, if_pos hn]
    · rw [if_neg fun h => hn h.1, if_neg hn]
  rw [hforest, h.forest, List.map_map]
  exact List.map_congr_left fun t _ => withVisible_withVisible i b b' t

theorem render_eq (h : l.Shows i b l') : l'.render = emit l.hud.settings.setup
    ((l.world.store.forest l.hud.elements).map (withVisible i b)) l.hud.blocks l.hud.baseFile := by
  unfold render
  rw [h.forest, h.settings, h.blocks, h.baseFile]

end Shows

end Live

/-! ## Sequences of requests -/

/-- Whether a request shows the marker, if it is a toggle. -/
def Request.shown? : Request → Option Bool
  | setVisibility visible => some visible
  | _ => none

namespace Live

/-- Whether the last toggle of some requests shows the marker, if there is one. -/
def shownAfter (b : Bool) (rs : List Request) : Bool := (rs.filterMap Request.shown?).getLast?.getD b

theorem shownAfter_concat (b : Bool) (rs : List Request) (r : Request) :
    shownAfter b (rs ++ [r]) = r.shown?.getD (shownAfter b rs) := by
  unfold shownAfter
  rw [List.filterMap_append]
  rcases hr : r.shown? with _ | visible
  · simp [hr]
  · simp [hr]

variable {l l' : Live} {i : NodeId} {b : Bool}

/-- A request shows the marker if it is a toggle that does, and leaves it as it is if it is no toggle. -/
theorem Shows.request (h : l.Shows i b l') (r : Request) : l.Shows i (r.shown?.getD b) (r.run.run l').2 := by
  rw [Request.run_eq]
  cases r with
  | build => exact h.of_scene l'.scene_build
  | handleEvent depth p => exact h.of_scene (scene_handleEvent depth p l')
  | setVisibility visible =>
    have htoggle := h.toggle visible
    dsimp only [Request.shown?, Option.getD_some]
    rw [Operation.run_setVisibility, h.marker]
    dsimp only
    rcases (l'.toggle i visible).render with f | p
    · exact htoggle.of_scene (scene_refill _)
    · refine htoggle.of_scene ?_
      rw [scene_pushed, scene_built, scene_refill]

theorem shows_afterAll (hm : l.marker? = some i) (rs : List Request) :
    l.Shows i (shownAfter (l.world.store.node i).visible rs) (l.afterAll (rs.map .request)) := by
  induction rs using List.reverseRecOn with
  | nil => exact .start hm
  | append_singleton rs r ih =>
    rw [List.map_append, List.map_singleton, afterAll_concat, shownAfter_concat]
    exact ih.request r

/-- What a build answers. -/
theorem run_build_request (l : Live) : (Request.build.run.run l).1 = l.render.map .program := by
  rw [Request.run_eq]
  dsimp only
  rw [Operation.run_build]
  rcases l.render with f | p <;> rfl

/-- What a toggle answers where there is a marker. -/
theorem run_setVisibility_request (hm : l.marker? = some i) (visible : Bool) :
    ((Request.setVisibility visible).run.run l).1 = (l.toggle i visible).render.map .program := by
  rw [Request.run_eq]
  dsimp only
  rw [Operation.run_setVisibility, hm]
  dsimp only
  rcases (l.toggle i visible).render with f | p <;> rfl

end Live

/-- An interface with a marker that can be emitted has two programs. After any builds, events and toggles,
whether they go through or fail, a build gives the one that the last toggle calls for, and a toggle gives its
own. The two differ in the definition of the marker alone, and that in whether `Visible: false` is listed. -/
theorem Session.two_programs {l : Live} (h : Session l) {i : NodeId} (hm : l.marker? = some i) {p : Program}
    (hp : l.render = .ok p) :
    ∃ program : Bool → Program,
      (∀ rs : List Request,
        (Request.build.run.run (l.afterAll (rs.map .request))).1 =
          .ok (.program (program (Live.shownAfter (l.world.store.node i).visible rs))) ∧
        ∀ visible, ((Request.setVisibility visible).run.run (l.afterAll (rs.map .request))).1 =
          .ok (.program (program visible))) ∧
      (∃ g within, ∀ visible, program visible =
        Gapped.fill g (.insert within ((l.world.store.node i).withVisible visible).definition)) ∧
      ∃ front back, ∀ visible, ((l.world.store.node i).withVisible visible).properties =
        front ++ (if visible then [] else [("Visible", "false")]) ++ back := by
  have hnodup : ((l.world.store.walk l.hud.elements).map Prod.fst).Nodup := h.sound.installed.toPrepared.nodup_walk
  have hmem : (i, l.world.store.node i) ∈ l.world.store.walk l.hud.elements := (Store.findByUserId_eq_some hm).1
  obtain ⟨g, within, hg⟩ := emit_withVisible hp hnodup hmem
  have hrender : ∀ {l' : Live} {visible : Bool}, l.Shows i visible l' → l'.render =
      .ok (g.fill (.insert within ((l.world.store.node i).withVisible visible).definition)) := by
    intro l' visible hs
    rw [hs.render_eq]
    exact hg visible
  refine ⟨fun visible => g.fill (.insert within ((l.world.store.node i).withVisible visible).definition), ?_,
    ⟨g, within, fun _ => rfl⟩, (l.world.store.node i).properties_withVisible⟩
  intro rs
  have hs := Live.shows_afterAll hm rs
  constructor
  · rw [Live.run_build_request, hrender hs]
    rfl
  · intro visible
    rw [Live.run_setVisibility_request hs.marker, hrender (hs.toggle visible)]
    rfl

/-! ## A console of controls -/

/-- The group that is the marker, between two hooks, perhaps with an internal id. -/
def consoleRoot (internalId : Option String) : Node where
  kind := .group
  userId := some "HudRoot"
  internalId := internalId
  children := [1, 2]
  listeners := [⟨.activating, idle 4⟩]
  before := [.assign "Layer" "2"]
  after := [.assign "Title" "\"HUD\""]

/-- A slider and a label in the group, and a checkbox beside it. -/
def consoleHost : World where
  store := ⟨#[consoleRoot none, volume none, { kind := .label, text := some "loud" }, mute none]⟩

/-- The interface that starts over the group and the checkbox, with a base file and a block. -/
def console : Live where
  world := { store := ⟨#[
    { consoleRoot (some "HudRoot") with isSealed := true },
    { volume (some "volume") with parent := some 0, isSealed := true },
    { kind := .label, text := some "loud", internalId := some "Label1", parent := some 0, isSealed := true },
    { mute (some "mute") with isSealed := true }]⟩ }
  hud := {
    settings := {}
    elements := [0, 3]
    blocks := [.ok (.ofCommands [.assign "#Frame.Scale" "2"])]
    baseFile := some "hud.ui"
    hidden := false
    pushes := true }

theorem console_started : console.Started := by
  have hstart : (Interface.start {} true (some [0, 3]) console.hud.blocks (some "hud.ui")).run consoleHost =
      (.ok console.hud, console.world) := by cbv
  refine .start (Store.closed_of_nodes (by decide)) (fun roots h i hi => ?_) hstart
  cases h
  simp only [List.mem_cons, List.not_mem_nil, or_false] at hi
  rcases hi with rfl | rfl <;> decide

/-- The program of the console, with a definition of the group. -/
def consoleProgram (definition : String) : Program where
  commands := [
    .load "hud.ui",
    .assign "#Frame.Scale" "2",
    .assign "#HudRoot.Layer" "2",
    .insert "" definition,
    .insert "#HudRoot" "Slider #volume \x7b Value: 5; \x7d",
    .insert "#HudRoot" "Label #Label1 \x7b Text: \"loud\"; \x7d",
    .assign "#HudRoot.Title" "\"HUD\"",
    .insert "" "CheckBox #mute \x7b\x7d"]
  bindings := (consoleRoot (some "HudRoot")).bindings "#HudRoot" ++
    (volume (some "volume")).bindings "#HudRoot #volume" ++ (mute (some "mute")).bindings "#mute"

/-- Whatever is done with the console, its controls, hooks and bindings stay in the program. -/
theorem Session.two_programs_console :
    ∃ program : Bool → Program, program true = consoleProgram "Group #HudRoot \x7b\x7d" ∧
      program false = consoleProgram "Group #HudRoot \x7b Visible: false; \x7d" ∧
      ∀ rs : List Request,
        (Request.build.run.run (console.afterAll (rs.map .request))).1 =
          .ok (.program (program (Live.shownAfter true rs))) ∧
        ∀ visible, ((Request.setVisibility visible).run.run (console.afterAll (rs.map .request))).1 =
          .ok (.program (program visible)) := by
  have hrender : console.render = .ok (consoleProgram "Group #HudRoot \x7b\x7d") := by cbv
  obtain ⟨program, hrequests, -, -⟩ := Session.two_programs (.start console_started) (i := 0) (by cbv) hrender
  obtain ⟨-, hset⟩ := hrequests []
  have hshown : ((Request.setVisibility true).run.run console).1 =
      .ok (.program (consoleProgram "Group #HudRoot \x7b\x7d")) := by cbv
  have hhidden : ((Request.setVisibility false).run.run console).1 =
      .ok (.program (consoleProgram "Group #HudRoot \x7b Visible: false; \x7d")) := by cbv
  refine ⟨program, ?_, ?_, hrequests⟩
  · exact Answer.program.inj (Except.ok.inj ((hset true).symm.trans hshown))
  · exact Answer.program.inj (Except.ok.inj ((hset false).symm.trans hhidden))

end Overlay
