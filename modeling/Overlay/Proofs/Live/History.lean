/-
Histories. What the cache of an interface holds is told by what happened since the last refill: for a node
the value of its latest change, and without one the value that the node had at the refill. A change is a call
of a listener for changed values; it stays one if the callback gives up, and if the event that it belongs to
was routed by another callback. In between client code may handle nodes and other interfaces as it likes.
-/
import Overlay.Proofs.Element.Find
import Overlay.Proofs.Event.Binding
import Overlay.Proofs.Event.Written
import Overlay.Proofs.Live.Session
import Overlay.Proofs.Number.Range

namespace Overlay

/-! ## Histories -/

/-- What happened to an interface since its cache was last refilled, or since its start. -/
structure History where
  /-- The nodes at the refill, if there was one. -/
  refill? : Option Store := none
  /-- The calls that its events made since then, the latest last. -/
  calls : List Call := []

namespace History

/-- The latest call of a listener for changed values on a node. -/
def lastChange? (past : History) (i : NodeId) : Option Call :=
  past.calls.reverse.find? fun c => c.node = i ∧ c.event = .valueChanged

/-- The value of a node: what it last changed to, or else what it was at the refill. -/
def value (past : History) (i : NodeId) : Option Value :=
  match past.lastChange? i with
  | some c => c.value
  | none => past.refill?.bind fun s => (s.node i).value

/-- The cache as it was at the refill. -/
def initialCache (past : History) (elements : List NodeId) : Cache :=
  match past.refill? with
  | none => ∅
  | some s => s.initialCache elements

end History

namespace Deed

/-- Whether a deed refills the cache: a build does even if it fails, a toggle if it finds the marker, and an
update if it goes through. -/
def refills (l : Live) : Deed → Bool
  | request .build => true
  | request (.setVisibility _) => l.marker?.isSome
  | update elements blocks baseFile => ((Operation.update elements blocks baseFile).run l).1.isOk
  | _ => false

/-- The calls that are made during a deed. -/
def calls (l : Live) (d : Deed) : List Call := (d.after l).world.log.calls.drop l.world.log.calls.length

end Deed

/-- The history after a deed. What a deed does to nodes it does before it refills the cache from them. -/
def History.after (past : History) (l : Live) (d : Deed) : History :=
  if d.refills l then { refill? := some (d.after l).world.store } else { past with calls := past.calls ++ d.calls l }

/-- The states that an interface comes to, each with its history, as long as live nodes get no children. -/
inductive Chronicle : Live → History → Prop
  | start {l : Live} (h : l.Started) : Chronicle l {}
  | renewed {l : Live} (h : l.Reachable) (d : Deed) (named : d.Names l.world.store) (replaces : d.Replaces l) :
    Chronicle (d.after l) { refill? := some (d.after l).world.store }
  | deed {l : Live} {past : History} (h : Chronicle l past) (d : Deed) (named : d.Names l.world.store)
    (spares : (Live.Step.own d).Spares l) : Chronicle (d.after l) (past.after l d)
  | elsewhere {l : Live} {past : History} (h : Chronicle l past) (other : Interface) (d : Deed)
    (named : d.Names l.world.store) (spares : (Live.Step.elsewhere other d).Spares l) :
    Chronicle (l.afterElsewhere other d) past

/-! ## Deeds that do not refill -/

/-- A world with the same calls behind it. -/
def World.SameCalls (w w' : World) : Prop := w'.log.calls = w.log.calls

instance : IsPreorder World World.SameCalls where
  refl _ := rfl
  trans _ _ _ h h' := Eq.trans h' h

namespace Act

theorem ofEdit_sameCalls {α : Type} (e : Edit α) : Moves World.SameCalls (ofEdit e) := by
  intro w
  rw [run_ofEdit]
  rcases e.run w.store with ⟨v | a, s⟩ <;> exact refl (r := World.SameCalls) w

theorem report_sameCalls (r : Report) : Moves World.SameCalls (report r) := by
  intro w
  show Log.calls (w.log ++ [.report r]) = _
  simp [Log.calls]

end Act

theorem Handling.calls_after (h : Handling) (w : World) : (h.after w).log.calls = w.log.calls := by
  cases h with
  | create n => exact Act.ofEdit_sameCalls _ w
  | assign i field => exact Act.ofEdit_sameCalls _ w
  | setUserId i id => exact Act.ofEdit_sameCalls _ w
  | addChild parent child => exact Act.ofEdit_sameCalls _ w
  | listen i event callback => exact Act.ofEdit_sameCalls _ w
  | hookBefore i hook => exact Act.ofEdit_sameCalls _ w
  | hookAfter i hook => exact Act.ofEdit_sameCalls _ w
  | sealTree i => exact Act.ofEdit_sameCalls _ w
  | prepare roots => exact Act.ofEdit_sameCalls _ w
  | applyStyles i properties =>
    exact Act.applyStyles_moves Act.report_sameCalls i properties (fun _ => Act.ofEdit_sameCalls _) w
  | start settings pushes elements blocks baseFile =>
    show ((Interface.start settings pushes elements blocks baseFile).run w).2.log.calls = _
    rw [Interface.run_start]
    rcases (installTree elements).run w.store with ⟨v | roots, s⟩ <;> rfl

/-- A deed that does not refill the cache writes to it what its calls wrote. -/
theorem Deed.grown {l : Live} {d : Deed} (h : d.refills l = false) :
    l.desk.Grown l.world.store l.walk (d.after l).desk := by
  cases d with
  | handling handling =>
    refine ⟨[], ?_, rfl, by simp⟩
    rw [List.append_nil]
    exact handling.calls_after l.world
  | request r =>
    cases r with
    | build => cases h
    | handleEvent depth p =>
      have hroute := route_grown (s := l.world.store) (l.world.store.walk_content l.hud.elements) .own depth p l.desk
      show l.desk.Grown l.world.store l.walk ((Request.handleEvent depth p).run.run l).2.desk
      rw [Request.run_eq]
      dsimp only
      rw [Operation.run_handleEvent]
      exact hroute
    | setVisibility visible =>
      have hnone : l.marker? = none := by simpa [refills] using h
      show l.desk.Grown l.world.store l.walk ((Request.setVisibility visible).run.run l).2.desk
      rw [Request.run_eq]
      dsimp only
      rw [Operation.run_setVisibility, hnone]
      exact Desk.Grown.refl _ _ _
  | update elements blocks baseFile =>
    show l.desk.Grown l.world.store l.walk ((Operation.update elements blocks baseFile).run l).2.desk
    rcases Operation.update_cases elements blocks baseFile l with ⟨f, s, -, hu⟩ | ⟨roots, s, p, -, -, hu⟩
    · rw [hu]
      exact Desk.Grown.refl _ _ _
    · have hok : ((Operation.update elements blocks baseFile).run l).1.isOk = false := h
      rw [hu] at hok
      cases hok

theorem Deed.not_replaces {l : Live} {d : Deed} (h : d.refills l = false) : ¬ d.Replaces l := by
  cases d with
  | handling _ => exact id
  | request _ => exact id
  | update elements blocks baseFile =>
    rintro ⟨p, hp⟩
    have hok : ((Operation.update elements blocks baseFile).run l).1.isOk = false := h
    rw [hp] at hok
    cases hok

theorem Deed.refills_of_replaces {l : Live} {d : Deed} (h : d.Replaces l) : d.refills l = true := by
  by_contra hr
  exact not_replaces (Bool.eq_false_iff.2 hr) h

/-- A deed that refills the cache leaves it with the initial values of the nodes. -/
theorem Deed.cache_of_refills {l : Live} {d : Deed} (h : d.refills l = true) :
    (d.after l).hud.cache = (d.after l).world.store.initialCache (d.after l).hud.elements := by
  cases d with
  | handling _ => cases h
  | request r =>
    show (r.run.run l).2.hud.cache = (r.run.run l).2.world.store.initialCache (r.run.run l).2.hud.elements
    rw [Request.run_eq]
    cases r with
    | build =>
      dsimp only
      rw [Operation.run_build]
      rcases l.render with f | p <;> rfl
    | handleEvent depth p => cases h
    | setVisibility visible =>
      obtain ⟨i, hi⟩ := Option.isSome_iff_exists.1 (h : l.marker?.isSome = true)
      dsimp only
      rw [Operation.run_setVisibility, hi]
      dsimp only
      rcases (l.toggle i visible).render with f | p
      · rfl
      · dsimp only
        rw [Live.pushed_hud, Live.pushed_world_store]
        rfl
  | update elements blocks baseFile =>
    show ((Operation.update elements blocks baseFile).run l).2.hud.cache = ((Operation.update elements blocks
      baseFile).run l).2.world.store.initialCache ((Operation.update elements blocks baseFile).run l).2.hud.elements
    rcases Operation.update_cases elements blocks baseFile l with ⟨f, s, -, hu⟩ | ⟨roots, s, p, -, -, hu⟩
    · have hok : ((Operation.update elements blocks baseFile).run l).1.isOk = true := h
      rw [hu] at hok
      cases hok
    · rw [hu]
      dsimp only
      rw [Live.pushed_hud, Live.pushed_world_store]
      rfl

/-! ## What is recorded of an interface -/

namespace Store.Installed

variable {s s' : Store} {roots : List NodeId} {c : Call}

/-- A node of installed trees in a later store. -/
theorem later (h : s.Installed roots) (hk : s.Keeps s') (hs : s.SameChildren s' roots) {n : NodeId × Node}
    (hn : n ∈ s.walk roots) : (n.1, s'.node n.1) ∈ s'.walk roots ∧ (s'.node n.1).identity = n.2.identity := by
  refine ⟨?_, ?_⟩
  · rw [h.walk_eq hk hs]
    exact List.mem_map.2 ⟨n, hn, rfl⟩
  · rw [hk.identity _ (h.frozen hn), s.walk_content roots n hn]

/-- Every node of installed trees was there before. -/
theorem earlier (h : s.Installed roots) (hk : s.Keeps s') (hs : s.SameChildren s' roots) {n : NodeId × Node}
    (hn : n ∈ s'.walk roots) : (n.1, s.node n.1) ∈ s.walk roots ∧ (s.node n.1).identity = n.2.identity := by
  rw [h.walk_eq hk hs] at hn
  obtain ⟨m, hm, rfl⟩ := List.mem_map.1 hn
  have hcontent := s.walk_content roots m hm
  refine ⟨?_, (hk.identity _ (h.frozen hm)).symm⟩
  rw [← hcontent]
  exact hm

theorem fits (h : s.Installed roots) (hk : s.Keeps s') (hs : s.SameChildren s' roots) (hc : c.Fits (s.walk roots)) :
    c.Fits (s'.walk roots) := by
  obtain ⟨n, hn, hcn, hchange⟩ := hc
  obtain ⟨hlater, hidentity⟩ := h.later hk hs hn
  refine ⟨_, hlater, hcn, fun he => ?_⟩
  rw [show (s'.node n.1).kind = n.2.kind from congrArg Identity.kind hidentity]
  exact hchange he

theorem entryOf? (h : s.Installed roots) (hk : s.Keeps s') (hc : c.Fits (s.walk roots)) :
    s'.entryOf? c = s.entryOf? c := by
  obtain ⟨n, hn, hcn, -⟩ := hc
  have hidentity := hk.identity _ (h.frozen hn)
  unfold Store.entryOf?
  rw [← hcn, show (s'.node n.1).userId = (s.node n.1).userId from congrArg Identity.userId hidentity]

end Store.Installed

namespace Live

/-- A history that tells of an interface what its cache holds: the initial values at the refill, and over
them what the calls since then wrote. -/
structure Recorded (l : Live) (past : History) : Prop where
  sound : l.Sound
  cache : l.hud.cache =
    (past.initialCache l.hud.elements).putAll (past.calls.filterMap l.world.store.entryOf?)
  fits : ∀ c ∈ past.calls, c.Fits l.walk
  refilled : ∀ s, past.refill? = some s →
    s.Installed l.hud.elements ∧ s.Keeps l.world.store ∧ s.SameChildren l.world.store l.hud.elements

namespace Recorded

variable {l l' : Live} {past : History}

/-- More calls, and in the cache what they wrote. -/
theorem grow (h : l.Recorded past) (hk : l.world.store.Keeps l'.world.store)
    (hs : l.world.store.SameChildren l'.world.store l.hud.elements) (he : l'.hud.elements = l.hud.elements)
    {calls : List Call} (hcache : l'.hud.cache = l.hud.cache.putAll (calls.filterMap l.world.store.entryOf?))
    (hfits : ∀ c ∈ calls, c.Fits l.walk) : l'.Recorded { past with calls := past.calls ++ calls } := by
  have hinstalled := h.sound.installed
  have hall : ∀ c ∈ past.calls ++ calls, c.Fits l.walk := by
    intro c hc
    exact (List.mem_append.1 hc).elim (h.fits c) (hfits c)
  refine ⟨⟨hk.closed h.sound.closed, he ▸ hinstalled.keep hk hs⟩, ?_, ?_, ?_⟩
  · -- user ids of live nodes are under a seal, so the later store reads the same entries off the calls
    have hentries : (past.calls ++ calls).filterMap l'.world.store.entryOf? =
        (past.calls ++ calls).filterMap l.world.store.entryOf? :=
      List.filterMap_congr fun c hc => hinstalled.entryOf? hk (hall c hc)
    rw [hcache, h.cache, he]
    dsimp only
    rw [hentries, List.filterMap_append, Bag.putAll_append]
    rfl
  · intro c hc
    unfold walk
    rw [he]
    exact hinstalled.fits hk hs (hall c hc)
  · intro s hsome
    obtain ⟨hi, hks, hss⟩ := h.refilled s hsome
    rw [he]
    exact ⟨hi, IsTrans.trans _ _ _ hks hk, hss.trans hs⟩

/-- A refill begins a new history. -/
theorem refill (h : l.Sound) (hcache : l.hud.cache = l.world.store.initialCache l.hud.elements) :
    l.Recorded { refill? := some l.world.store } := by
  refine ⟨h, hcache, by simp, ?_⟩
  rintro s hs
  cases hs
  exact ⟨h.installed, refl_of Store.Keeps _, .refl _ _⟩

theorem deed (h : l.Recorded past) {d : Deed} (named : d.Names l.world.store) (spares : (Step.own d).Spares l) :
    (d.after l).Recorded (past.after l d) := by
  unfold History.after
  rcases hr : d.refills l with _ | _
  · obtain ⟨calls, hcalls, hcache, hfits⟩ := Deed.grown hr
    have hnew : d.calls l = calls := by
      show (d.after l).desk.log.calls.drop l.desk.log.calls.length = calls
      rw [hcalls, List.drop_left]
    rw [if_neg (by simp), hnew]
    exact h.grow (Deed.keeps named) spares (Deed.elements_eq (Deed.not_replaces hr)) hcache hfits
  · rw [if_pos rfl]
    exact refill (h.sound.step (.own d) named spares) (Deed.cache_of_refills hr)

theorem elsewhere (h : l.Recorded past) (other : Interface) {d : Deed} (named : d.Names l.world.store)
    (spares : (Step.elsewhere other d).Spares l) : (l.afterElsewhere other d).Recorded past := by
  have hkeeps : l.world.store.Keeps (l.afterElsewhere other d).world.store :=
    Deed.keeps (l := ⟨l.world, other⟩) named
  have hgrown : (l.afterElsewhere other d).Recorded { past with calls := past.calls ++ [] } :=
    h.grow hkeeps spares rfl rfl (by simp)
  rw [List.append_nil] at hgrown
  exact hgrown

end Recorded

theorem Started.recorded {l : Live} (h : l.Started) : l.Recorded {} := by
  refine ⟨h.sound.1, ?_, by simp, by simp⟩
  obtain @⟨w, w', settings, pushes, elements, blocks, baseFile, hud, closed, named, h⟩ := h
  rw [Interface.run_start] at h
  rcases hi : (installTree elements).run w.store with ⟨v | roots, s⟩ <;> rw [hi] at h <;> cases h
  rfl

end Live

/-- Along a chronicle the history tells what the cache holds. -/
theorem Chronicle.recorded {l : Live} {past : History} (h : Chronicle l past) : l.Recorded past := by
  induction h with
  | start h => exact h.recorded
  | renewed h d named replaces =>
    have hsession : Session (d.after _) := .renewed h (.own d) named replaces
    exact Live.Recorded.refill hsession.sound (Deed.cache_of_refills (Deed.refills_of_replaces replaces))
  | deed _ d named spares ih => exact ih.deed named spares
  | elsewhere _ other d named spares ih => exact ih.elsewhere other named spares

/-! ## Values by user id -/

theorem Store.initialEntry?_eq_some {n : NodeId × Node} {e : String × Option Value} :
    Store.initialEntry? n = some e ↔ n.2.userId = some e.1 ∧ ∃ v, n.2.value = some v ∧ e.2 = some v := by
  obtain ⟨id, value⟩ := e
  unfold Store.initialEntry?
  rcases n.2.userId with _ | u <;> rcases n.2.value with _ | v <;> simp [eq_comm]

/-- The initial value of a node that can be told by its user id. -/
theorem Store.Prepared.initialCache_value {s : Store} {roots : List NodeId} (h : s.Prepared roots)
    {n : NodeId × Node} (hn : n ∈ s.walk roots) {id : String} (hid : n.2.userId = some id) :
    (s.initialCache roots).value id = n.2.value := by
  -- only the node itself can have brought an entry under its user id
  have hfind : ∀ e ∈ (s.walk roots).filterMap Store.initialEntry?, e.1 = id →
      ∃ v, n.2.value = some v ∧ e.2 = some v := by
    intro e he hei
    obtain ⟨m, hm, hme⟩ := List.mem_filterMap.1 he
    obtain ⟨hmu, v, hmv, hev⟩ := Store.initialEntry?_eq_some.1 hme
    have hmn : m = n := h.eq_of_userId hm hn (hei ▸ hmu) hid
    exact ⟨v, hmn ▸ hmv, hev⟩
  unfold Cache.value Store.initialCache Bag.ofList
  rw [Bag.get?_putAll]
  rcases hf : ((s.walk roots).filterMap Store.initialEntry?).reverse.find? (·.1 = id) with _ | e
  · have hvalue : n.2.value = none := by
      by_contra hne
      obtain ⟨v, hv⟩ := Option.ne_none_iff_exists'.1 hne
      have hmem : (id, some v) ∈ (s.walk roots).filterMap Store.initialEntry? :=
        List.mem_filterMap.2 ⟨n, hn, Store.initialEntry?_eq_some.2 ⟨hid, v, hv, rfl⟩⟩
      have hnot := List.find?_eq_none.1 hf _ (List.mem_reverse.2 hmem)
      simp at hnot
    rw [hf, hvalue]
    rfl
  · have hmem : e ∈ (s.walk roots).filterMap Store.initialEntry? := List.mem_reverse.1 (List.mem_of_find?_eq_some hf)
    obtain ⟨v, hv, hev⟩ := hfind e hmem (by simpa using List.find?_some hf)
    rw [hf, hv, Option.map_some, hev]
    rfl

namespace Live.Recorded

variable {l : Live} {past : History} {n : NodeId × Node} {id : String}

/-- The value of a live node in the cache is its value in the history. -/
theorem value_eq (h : l.Recorded past) (hn : n ∈ l.walk) (hid : n.2.userId = some id) :
    l.hud.cache.value id = past.value n.1 := by
  have hvalue : l.hud.cache.value id = ((((past.lastChange? n.1).map fun c => (id, c.value)).map Prod.snd).or
      ((past.initialCache l.hud.elements).get? id)).join := by
    unfold Cache.value
    rw [h.cache, Bag.get?_putAll, h.sound.installed.find?_entries hn hid h.fits]
    rfl
  rw [hvalue]
  unfold History.value
  rcases past.lastChange? n.1 with _ | c
  · -- without a change the value is the one at the refill, read from the node as it was then
    unfold History.initialCache
    rcases hs : past.refill? with _ | s
    · rfl
    · obtain ⟨hinstalled, hk, hsame⟩ := h.refilled s hs
      obtain ⟨hmem, hidentity⟩ := hinstalled.earlier hk hsame hn
      exact hinstalled.initialCache_value hmem ((congrArg Identity.userId hidentity).trans hid)
  · rfl

/-- Every key of the cache is the user id of a live node. -/
theorem live_of_key (h : l.Recorded past) (hid : id ∈ l.hud.cache.keys) : ∃ n ∈ l.walk, n.2.userId = some id := by
  rw [h.cache, Bag.mem_keys_putAll] at hid
  rcases hid with hid | hid
  · unfold History.initialCache at hid
    rcases hs : past.refill? with _ | s <;> rw [hs] at hid
    · cases hid
    · obtain ⟨hinstalled, hk, hsame⟩ := h.refilled s hs
      rcases (Bag.mem_keys_putAll _ _).1 hid with hid | hid
      · cases hid
      · obtain ⟨e, he, rfl⟩ := List.mem_map.1 hid
        obtain ⟨m, hm, hme⟩ := List.mem_filterMap.1 he
        obtain ⟨hmem, hidentity⟩ := hinstalled.later hk hsame hm
        exact ⟨_, hmem, (congrArg Identity.userId hidentity).trans (Store.initialEntry?_eq_some.1 hme).1⟩
  · obtain ⟨e, he, rfl⟩ := List.mem_map.1 hid
    obtain ⟨c, hc, hce⟩ := List.mem_filterMap.1 he
    obtain ⟨m, hm, hcm, -⟩ := h.fits c hc
    refine ⟨m, hm, ?_⟩
    rw [l.world.store.walk_content l.hud.elements m hm, hcm]
    exact (Store.entryOf?_eq_some.1 hce).2.1

end Live.Recorded

/-- All along a chronicle the keys of the cache are user ids of live nodes; a user id has the value of the
latest change of its node since the last refill, or without one the node's value at that refill, and no value
if there was neither; and every change is to a value that the node's kind has read and that is in its range. -/
theorem Chronicle.cache_tells_history {l : Live} {past : History} (h : Chronicle l past) :
    (∀ id ∈ l.hud.cache.keys, ∃ n ∈ l.walk, n.2.userId = some id) ∧
    (∀ n ∈ l.walk, ∀ id, n.2.userId = some id → l.hud.cache.value id = past.value n.1) ∧
    (∀ id, (∀ n ∈ l.walk, n.2.userId ≠ some id) → l.hud.cache.value id = none) ∧
    (∀ c ∈ past.calls, c.event = .valueChanged →
      ∃ n ∈ l.walk, n.1 = c.node ∧ ∃ raw v, n.2.kind.readValue raw = .ok (some v) ∧ c.value = some v ∧
        n.2.kind.InRange v) := by
  have hr := h.recorded
  refine ⟨fun id hid => hr.live_of_key hid, fun n hn id hid => hr.value_eq hn hid, ?_, ?_⟩
  · intro id hnone
    have hkey : id ∉ l.hud.cache.keys := by
      intro hid
      obtain ⟨n, hn, hu⟩ := hr.live_of_key hid
      exact hnone n hn hu
    unfold Cache.value
    rw [Bag.get?_eq_none_iff.2 hkey]
    rfl
  · intro c hc hchange
    obtain ⟨n, hn, hcn, hfits⟩ := hr.fits c hc
    obtain ⟨raw, v, hread, hv⟩ := hfits hchange
    exact ⟨n, hn, hcn, raw, v, hread, hv, Kind.readValue_inRange hread⟩

/-! ## A slider that is moved -/

/-- The interface that starts over the slider and the checkbox. -/
def mixerStarted : Live where
  world := {
    store := ⟨#[{ volume (some "volume") with isSealed := true }, { mute (some "mute") with isSealed := true }]⟩ }
  hud := { settings := {}, elements := [0, 1], blocks := [], baseFile := none, hidden := false, pushes := false }

theorem mixerStarted_started : mixerStarted.Started := by
  have hstart : (Interface.start {} false (some [0, 1]) [] none).run { store := mixer } =
      (.ok mixerStarted.hud, mixerStarted.world) := by cbv
  refine .start mixer_closed (fun roots h i hi => ?_) hstart
  cases h
  simp only [List.mem_cons, List.not_mem_nil, or_false] at hi
  rcases hi with rfl | rfl <;> decide

/-- The engine's event for a slider that is moved to seven. -/
def toSeven : Payload := ((volume (some "volume")).binding "#volume" ⟨.valueChanged, idle 0⟩).payload "7"

def mixerBuilt : Live := (Deed.request .build).after mixerStarted

def mixerMoved : Live := (Deed.request (.handleEvent 1 toSeven)).after mixerBuilt

/-- What happened between the build and now. -/
def mixerHistory : History :=
  (({} : History).after mixerStarted (.request .build)).after mixerBuilt (.request (.handleEvent 1 toSeven))

/-- After a build and a move the cache has the number that the slider was moved to. -/
theorem Chronicle.cache_tells_history_moved :
    Chronicle mixerMoved mixerHistory ∧ mixerMoved.hud.cache.value "volume" = some (.int 7) := by
  have hsound : mixerStarted.Sound := mixerStarted_started.sound.1
  have hspares := hsound.spares_request .build
  have hbuilt : mixerBuilt.Sound := hsound.step (.own (.request .build)) trivial hspares
  have h : Chronicle mixerMoved mixerHistory :=
    ((Chronicle.start mixerStarted_started).deed (.request .build) trivial hspares).deed
      (.request (.handleEvent 1 toSeven)) trivial (hbuilt.spares_request _)
  have hwalk : mixerMoved.walk = [(0, { volume (some "volume") with isSealed := true }),
      (1, { mute (some "mute") with isSealed := true })] := by cbv
  have hn : (0, { volume (some "volume") with isSealed := true }) ∈ mixerMoved.walk := by
    rw [hwalk]
    exact List.mem_cons_self ..
  have hvalue : mixerHistory.value 0 = some (.int 7) := by cbv
  exact ⟨h, ((cache_tells_history h).2.1 _ hn "volume" rfl).trans hvalue⟩

end Overlay
