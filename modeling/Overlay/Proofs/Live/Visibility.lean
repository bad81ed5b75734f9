/-
The marker and the flag. Starting sets the flag as the marker is, and so does every toggle. Builds and
events touch neither. An update changes the trees and leaves the flag, so that the two agree after it
only if the new marker is as hidden as the flag says.
-/
import Overlay.Proofs.Element.Find
import Overlay.Proofs.Live.Session
import Mathlib.Data.List.Induction

namespace Overlay

/-! ## The marker -/

/-- In prepared trees the marker is hidden if the node with its id is there and not visible. -/
theorem markerHidden_iff {s : Store} {roots : List NodeId} (h : s.Prepared roots) (id : String) :
    markerHidden s roots id = true ↔ ∃ n ∈ s.walk roots, n.2.userId = some id ∧ n.2.visible = false := by
  unfold markerHidden
  rcases hf : s.findByUserId roots id with _ | i
  · constructor
    · intro hv
      cases hv
    · rintro ⟨n, hn, hid, -⟩
      exact absurd hid (Store.findByUserId_eq_none hf n hn)
  · obtain ⟨hmem, hid⟩ := Store.findByUserId_eq_some hf
    constructor
    · intro hv
      exact ⟨_, hmem, hid, by simpa using hv⟩
    · rintro ⟨n, hn, hnid, hv⟩
      obtain rfl : n = (i, s.node i) := h.eq_of_userId hn hmem hnid hid
      simpa using hv

namespace Live

/-- The node with the marker's id is live and not visible. -/
def HiddenMarker (l : Live) : Prop := ∃ n ∈ l.walk, n.2.userId = some l.hud.settings.markerId ∧ n.2.visible = false

/-- The flag is set exactly when the marker is hidden. -/
def Mirrors (l : Live) : Prop := l.hud.hidden = true ↔ l.HiddenMarker

theorem Sound.hiddenMarker_iff {l : Live} (h : l.Sound) :
    markerHidden l.world.store l.hud.elements l.hud.settings.markerId = true ↔ l.HiddenMarker :=
  markerHidden_iff h.installed.toPrepared l.hud.settings.markerId

theorem Started.mirrors {l : Live} (h : l.Started) : l.Mirrors := by
  obtain ⟨hs, hflag⟩ := h.sound
  unfold Mirrors
  rw [hflag]
  exact hs.hiddenMarker_iff

/-! ## Toggles -/

variable {l : Live} {i : NodeId}

@[simp] theorem marker?_toggle (l : Live) (i : NodeId) (visible : Bool) : (l.toggle i visible).marker? = l.marker? :=
  Store.findByUserId_update (f := ({ · with visible })) (fun _ => rfl) (fun _ => rfl) l.world.store i l.hud.elements
    l.hud.settings.markerId

/-- A toggle makes the marker visible or not. -/
theorem visible_toggle (h : l.marker? = some i) (visible : Bool) :
    ((l.toggle i visible).world.store.node i).visible = visible := by
  have hi : i < l.world.store.size := Store.lt_size_of_userId (Store.findByUserId_eq_some h).2
  show ((l.world.store.update i _).node i).visible = visible
  rw [Store.node_update, if_pos ⟨rfl, hi⟩]

theorem markerHidden_toggle (h : l.marker? = some i) (visible : Bool) :
    markerHidden (l.toggle i visible).world.store l.hud.elements l.hud.settings.markerId = !visible := by
  have hfind : (l.toggle i visible).world.store.findByUserId l.hud.elements l.hud.settings.markerId = some i :=
    (marker?_toggle l i visible).trans h
  unfold markerHidden
  rw [hfind]
  exact congrArg (!·) (visible_toggle h visible)

/-! ## What the flag and the marker depend on -/

/-- The flag and the marker are the same in both. -/
structure SameMarker (l l' : Live) : Prop where
  store : l'.world.store = l.world.store
  elements : l'.hud.elements = l.hud.elements
  settings : l'.hud.settings = l.hud.settings
  hidden : l'.hud.hidden = l.hud.hidden

namespace SameMarker

variable {l l' l'' : Live}

theorem trans (h : l.SameMarker l') (h' : l'.SameMarker l'') : l.SameMarker l'' :=
  ⟨h'.store.trans h.store, h'.elements.trans h.elements, h'.settings.trans h.settings, h'.hidden.trans h.hidden⟩

theorem hiddenMarker_iff (h : l.SameMarker l') : l'.HiddenMarker ↔ l.HiddenMarker := by
  unfold HiddenMarker walk
  rw [h.store, h.elements, h.settings]

theorem mirrors_iff (h : l.SameMarker l') : l'.Mirrors ↔ l.Mirrors := by
  unfold Mirrors
  rw [h.hidden, h.hiddenMarker_iff]

end SameMarker

theorem sameMarker_note (l : Live) (e : Entry) : l.SameMarker (l.note e) := ⟨rfl, rfl, rfl, rfl⟩

theorem sameMarker_refill (l : Live) : l.SameMarker l.refill := ⟨rfl, rfl, rfl, rfl⟩

theorem sameMarker_built (l : Live) (p : Program) : l.SameMarker (l.built p) := ⟨rfl, rfl, rfl, rfl⟩

theorem sameMarker_pushed (l : Live) (p : Program) : l.SameMarker (l.pushed p) := by
  unfold pushed
  split
  · exact l.sameMarker_note _
  · exact ⟨rfl, rfl, rfl, rfl⟩

theorem sameMarker_build (l : Live) : l.SameMarker (Operation.build.run l).2 := by
  rw [Operation.run_build]
  rcases l.render with f | p
  · exact l.sameMarker_refill
  · exact l.sameMarker_refill.trans (l.refill.sameMarker_built p)

theorem sameMarker_handleEvent (l : Live) (depth : Nat) (p : Payload) :
    l.SameMarker ((Operation.handleEvent depth p).run l).2 := by
  rw [Operation.run_handleEvent]
  exact ⟨rfl, rfl, rfl, rfl⟩

/-- After a toggle that goes through, the flag and the marker agree. -/
theorem Sound.mirrors_setVisibility (h : l.Sound) {visible : Bool} {p : Program}
    (hr : ((Operation.setVisibility visible).run l).1 = .ok p) :
    ((Operation.setVisibility visible).run l).2.Mirrors := by
  -- the search for the marker finds every node with its id only in installed trees
  have hsound : ((Operation.setVisibility visible).run l).2.Sound := by
    have hafter := h.step (.own (.request (.setVisibility visible))) trivial (h.spares_request _)
    rwa [Step.after, Deed.after, Request.run_eq] at hafter
  rw [Operation.run_setVisibility] at hr hsound ⊢
  rcases hm : l.marker? with _ | i
  · rw [hm] at hr; cases hr
  rw [hm] at hr hsound
  dsimp only at hr hsound ⊢
  rcases hp : (l.toggle i visible).render with f | q
  · rw [hp] at hr; cases hr
  rw [hp] at hsound
  dsimp only at hsound ⊢
  have hsame : (l.toggle i visible).SameMarker (((l.toggle i visible).refill.built q).pushed q) :=
    ((l.toggle i visible).sameMarker_refill.trans (sameMarker_built _ q)).trans (sameMarker_pushed _ q)
  unfold Mirrors
  rw [← hsound.hiddenMarker_iff, hsame.hidden, hsame.store, hsame.elements, hsame.settings]
  exact iff_of_eq (congrArg (· = true) (markerHidden_toggle hm visible).symm)

end Live

/-! ## Runs of operations that go through -/

namespace Deed

/-- An operation on the interface that returns normally. -/
def GoesThrough (l : Live) : Deed → Prop
  | handling _ => False
  | request r => ∃ a, (r.run.run l).1 = .ok a
  | update elements blocks baseFile => ∃ p, ((Operation.update elements blocks baseFile).run l).1 = .ok p

/-- A build or an event, which leave the marker alone. -/
inductive IsQuiet : Deed → Prop
  | build : IsQuiet (request .build)
  | handleEvent (depth : Nat) (p : Payload) : IsQuiet (request (.handleEvent depth p))

theorem IsQuiet.sameMarker {d : Deed} (h : d.IsQuiet) (l : Live) : l.SameMarker (d.after l) := by
  cases h with
  | build =>
    rw [after, Request.run_eq]
    exact l.sameMarker_build
  | handleEvent depth p =>
    rw [after, Request.run_eq]
    exact l.sameMarker_handleEvent depth p

/-- An update that goes through leaves the flag. -/
theorem hidden_update {l : Live} {elements : Option (List NodeId)} {blocks : List Block} {baseFile : Option String}
    (h : (update elements blocks baseFile).GoesThrough l) :
    ((update elements blocks baseFile).after l).hud.hidden = l.hud.hidden := by
  obtain ⟨q, hq⟩ := h
  show ((Operation.update elements blocks baseFile).run l).2.hud.hidden = _
  rcases Operation.update_cases elements blocks baseFile l with ⟨f, s, -, hu⟩ | ⟨roots, s, p, -, -, hu⟩
  · rw [hu] at hq; cases hq
  · rw [hu, Live.pushed_hud]
    rfl

end Deed

namespace Live

/-- The state after some deeds. -/
def afterAll (l : Live) (ds : List Deed) : Live := ds.foldl Deed.after l

/-- Operations over nodes that are there, one after another, all of which return normally. -/
def AllGoThrough : Live → List Deed → Prop
  | _, [] => True
  | l, d :: ds => d.GoesThrough l ∧ d.Names l.world.store ∧ AllGoThrough (d.after l) ds

theorem allGoThrough_append : ∀ {l : Live} {ds es : List Deed},
    l.AllGoThrough (ds ++ es) ↔ l.AllGoThrough ds ∧ (l.afterAll ds).AllGoThrough es
  | _, [], _ => by simp [AllGoThrough, afterAll]
  | l, d :: ds, es => by
    simp only [List.cons_append, AllGoThrough, afterAll, List.foldl_cons, and_assoc]
    rw [allGoThrough_append]
    rfl

theorem afterAll_concat (l : Live) (ds : List Deed) (d : Deed) : l.afterAll (ds ++ [d]) = d.after (l.afterAll ds) := by
  simp [afterAll]

theorem AllGoThrough.sound : ∀ {l : Live} {ds : List Deed}, l.AllGoThrough ds → l.Sound → (l.afterAll ds).Sound
  | _, [], _, hs => hs
  | l, d :: _, ⟨hthrough, hn, h⟩, hs => by
    have hspares : (Step.own d).Spares l := by
      cases d with
      | handling _ => exact hthrough.elim
      | request r => exact hs.spares_request r
      | update elements blocks baseFile => exact hs.spares_update elements blocks baseFile
    have hnext : (d.after l).Sound := hs.step (.own d) hn hspares
    exact h.sound hnext

/-- The last update, if only builds and events come after it, put in trees whose marker is as hidden as
the flag was. -/
def LastUpdateFits (l : Live) (ds : List Deed) : Prop :=
  ∀ earlier later elements blocks baseFile, ds = earlier ++ .update elements blocks baseFile :: later →
    (∀ d ∈ later, d.IsQuiet) →
    ((l.afterAll earlier).hud.hidden = true ↔
      ((Deed.update elements blocks baseFile).after (l.afterAll earlier)).HiddenMarker)

/-- Where a list with an element at its end is split: before that element, or at it. -/
theorem concat_eq_append_cons {α : Type} {ds earlier later : List α} {d u : α}
    (h : ds ++ [d] = earlier ++ u :: later) :
    (later = [] ∧ ds = earlier ∧ d = u) ∨ ∃ later', later = later' ++ [d] ∧ ds = earlier ++ u :: later' := by
  rcases List.eq_nil_or_concat' later with rfl | ⟨later', e, rfl⟩
  · obtain ⟨hds, hd⟩ := List.append_inj' h rfl
    exact .inl ⟨rfl, hds, List.singleton_inj.1 hd⟩
  · rw [← List.cons_append, ← List.append_assoc] at h
    obtain ⟨hds, hd⟩ := List.append_inj' h rfl
    rw [List.singleton_inj.1 hd]
    exact .inr ⟨later', rfl, hds⟩

/-- A quiet deed at the end changes nothing about the last update. -/
theorem lastUpdateFits_concat_quiet {l : Live} {ds : List Deed} {d : Deed} (hd : d.IsQuiet) :
    l.LastUpdateFits (ds ++ [d]) ↔ l.LastUpdateFits ds := by
  constructor
  · rintro h earlier later elements blocks baseFile rfl hq
    refine h earlier (later ++ [d]) elements blocks baseFile (by simp) fun e he => ?_
    rcases List.mem_append.1 he with he | he
    · exact hq e he
    · rw [List.mem_singleton.1 he]
      exact hd
  · intro h earlier later elements blocks baseFile heq hq
    rcases concat_eq_append_cons heq with ⟨-, -, rfl⟩ | ⟨later', rfl, hds⟩
    · cases hd
    · exact h earlier later' elements blocks baseFile hds fun e he => hq e (List.mem_append_left _ he)

/-- Every update is earlier than a toggle at the end. -/
theorem lastUpdateFits_concat_setVisibility (l : Live) (ds : List Deed) (visible : Bool) :
    l.LastUpdateFits (ds ++ [.request (.setVisibility visible)]) := by
  intro earlier later elements blocks baseFile heq hq
  rcases concat_eq_append_cons heq with ⟨-, -, hd⟩ | ⟨later', rfl, -⟩
  · cases hd
  · cases hq _ (List.mem_append_right _ (List.mem_singleton_self _))

/-- An update at the end is the last one. -/
theorem lastUpdateFits_concat_update {l : Live} {ds : List Deed} {elements : Option (List NodeId)}
    {blocks : List Block} {baseFile : Option String} :
    l.LastUpdateFits (ds ++ [.update elements blocks baseFile]) ↔
      ((l.afterAll ds).hud.hidden = true ↔
        ((Deed.update elements blocks baseFile).after (l.afterAll ds)).HiddenMarker) := by
  constructor
  · intro h
    exact h ds [] elements blocks baseFile rfl fun d hd => by cases hd
  · intro h earlier later elements' blocks' baseFile' heq hq
    rcases concat_eq_append_cons heq with ⟨-, rfl, hd⟩ | ⟨later', rfl, -⟩
    · cases hd
      exact h
    · cases hq _ (List.mem_append_right _ (List.mem_singleton_self _))

/-- After a start and operations that all return normally, the flag mirrors the marker exactly if the
last update, with no toggle after it, put in a marker as hidden as the flag was. -/
theorem Started.mirrors_afterAll_iff {l : Live} (h : l.Started) {ds : List Deed} (hds : l.AllGoThrough ds) :
    (l.afterAll ds).Mirrors ↔ l.LastUpdateFits ds := by
  induction ds using List.reverseRecOn with
  | nil =>
    refine iff_of_true h.mirrors fun earlier later elements blocks baseFile heq _ => ?_
    simp at heq
  | append_singleton ds d ih =>
    -- only the last deed counts, unless it is quiet
    obtain ⟨hfirst, hthrough, hnames, -⟩ := allGoThrough_append.1 hds
    have hsound := hfirst.sound h.sound.1
    rw [afterAll_concat]
    match d with
    | .handling _ => exact hthrough.elim
    | .request .build =>
      have hquiet := Deed.IsQuiet.build
      rw [(hquiet.sameMarker _).mirrors_iff, lastUpdateFits_concat_quiet hquiet]
      exact ih hfirst
    | .request (.handleEvent depth p) =>
      have hquiet := Deed.IsQuiet.handleEvent depth p
      rw [(hquiet.sameMarker _).mirrors_iff, lastUpdateFits_concat_quiet hquiet]
      exact ih hfirst
    | .request (.setVisibility visible) =>
      refine iff_of_true ?_ (l.lastUpdateFits_concat_setVisibility ds visible)
      obtain ⟨a, ha⟩ := hthrough
      rw [Request.run_eq] at ha
      rw [Deed.after, Request.run_eq]
      dsimp only at ha ⊢
      rcases hr : ((Operation.setVisibility visible).run (l.afterAll ds)).1 with f | p
      · rw [hr] at ha; cases ha
      · exact hsound.mirrors_setVisibility hr
    | .update elements blocks baseFile =>
      rw [lastUpdateFits_concat_update]
      unfold Mirrors
      rw [Deed.hidden_update hthrough]

/-- The operations that put in the second label and build. -/
def swapAndBuild : List Deed := [.update (some [1]) [] none, .request .build]

theorem swapAndBuild_goThrough : (firstLabel []).AllGoThrough swapAndBuild := by
  have hupdate : (Deed.update (some [1]) [] none).GoesThrough (firstLabel []) :=
    ⟨⟨[.insert "" "Label #HudRoot \x7b Visible: false; \x7d"], []⟩, by cbv⟩
  have hnames : (Deed.update (some [1]) [] none).Names (firstLabel []).world.store := by
    intro roots h i hi
    cases h
    rw [List.mem_singleton.1 hi]
    decide
  have hbuild : (Deed.request .build).GoesThrough ((Deed.update (some [1]) [] none).after (firstLabel [])) :=
    ⟨.program ⟨[.insert "" "Label #HudRoot \x7b Visible: false; \x7d"], []⟩, by cbv⟩
  exact ⟨hupdate, hnames, hbuild, trivial, trivial⟩

theorem Started.mirrors_afterAll_iff_swapAndBuild :
    ((firstLabel []).afterAll swapAndBuild).Mirrors ↔ (firstLabel []).LastUpdateFits swapAndBuild :=
  (firstLabel_started []).mirrors_afterAll_iff swapAndBuild_goThrough

/-- A hidden marker comes in by an update, all goes through, and the flag is not set. -/
theorem not_mirrors_swapAndBuild :
    (firstLabel []).Started ∧ (firstLabel []).AllGoThrough swapAndBuild ∧
    ¬ ((firstLabel []).afterAll swapAndBuild).Mirrors := by
  refine ⟨firstLabel_started [], swapAndBuild_goThrough, fun h => ?_⟩
  have hflag : ((firstLabel []).afterAll swapAndBuild).hud.hidden = false := by cbv
  have hmarker : ((firstLabel []).afterAll swapAndBuild).HiddenMarker := by
    refine ⟨(1, ((firstLabel []).afterAll swapAndBuild).world.store.node 1), ?_, by cbv, by cbv⟩
    exact List.mem_of_getElem? (i := 0) (by cbv)
  rw [h.2 hmarker] at hflag
  cases hflag

end Live

end Overlay
