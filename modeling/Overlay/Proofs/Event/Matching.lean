/-
Which listeners an event comes to. Where every callback returns, a routing makes one dispatch for each listener
that hears the event, in document order and then in the order of registration, whatever callbacks read and have
routed meanwhile and whatever comes of that. What the log says about the event itself is its receipt, one call and
one report for each dispatch, one report for each value that could not be read, and a last report if nobody was
called.
-/
import Overlay.Proofs.Element.Acyclic
import Overlay.Proofs.Event.Binding
import Overlay.Proofs.Event.Course

namespace Overlay

open Log Routing

/-! ## What listeners hear -/

namespace Node

/-- An event is for the nodes whose internal id is its target. -/
def IsTarget (n : Node) (p : Payload) : Prop := n.internalId.isSome ∧ n.internalId = p.target

instance (n : Node) (p : Payload) : Decidable (n.IsTarget p) := inferInstanceAs (Decidable (_ ∧ _))

/-- What a listener of a target gets: of a click nothing but the call, and of a change the value that the node's
kind reads from its field. -/
def heard? (n : Node) (l : Listener) (p : Payload) : Option (Option Value) :=
  match l.event with
  | .activating => if p.action = "ButtonClicked" then some none else none
  | .valueChanged => if p.action = "ValueChanged" then
      (p.value? n.kind.valueField.name).bind fun raw => (n.kind.readValue raw).toOption.join.map some
    else none

/-- What a listener of a target does not get: the raw text of a changed value that is there but cannot be read. -/
def misheard? (n : Node) (l : Listener) (p : Payload) : Option String :=
  if l.event = .valueChanged ∧ p.action = "ValueChanged" ∧ n.heard? l p = none then
    p.value? n.kind.valueField.name
  else none

/-- What is reported about an event and a listener of a target. -/
def reported? (n : Node) (l : Listener) (p : Payload) : Option Report :=
  match n.heard? l p with
  | some _ => some (.dispatched (n.internalId.getD "") l.event)
  | none => (n.misheard? l p).map fun raw => .unreadable p.action (n.internalId.getD "") raw

end Node

/-- Fields of an event from which no kind of some nodes fails to read: each gives a value or none. -/
def Payload.Readable (p : Payload) (nodes : List (NodeId × Node)) : Prop :=
  ∀ n ∈ nodes, n.2.IsTarget p → ∀ raw, p.value? n.2.kind.valueField.name = some raw →
    ∀ e, n.2.kind.readValue raw ≠ .error e

namespace Match

def accepted? : Match → Option (Option Value)
  | accepted value => some value
  | _ => none

def unreadable? : Match → Option String
  | unreadable raw => some raw
  | _ => none

end Match

/-- A listener hears what an event means to it. -/
theorem heard?_of_matchEvent {n : Node} {l : Listener} {p : Payload} {m : Match}
    (h : matchEvent n.kind l.event p = .ok m) : n.heard? l p = m.accepted? ∧ n.misheard? l p = m.unreadable? := by
  unfold matchEvent at h
  unfold Node.misheard? Node.heard?
  rcases hl : l.event with _ | _ <;> rw [hl] at h
  · by_cases ha : p.action = "ButtonClicked"
    · rw [if_neg (by simpa [EventKind.action] using ha)] at h
      cases h
      simp [ha, Match.accepted?, Match.unreadable?]
    · rw [if_pos (by simpa [EventKind.action] using ha)] at h
      cases h
      simp [ha, Match.accepted?, Match.unreadable?]
  · by_cases ha : p.action = "ValueChanged"
    · rw [if_neg (by simpa [EventKind.action] using ha)] at h
      dsimp only at h
      rcases hraw : p.value? n.kind.valueField.name with _ | raw <;> rw [hraw] at h
      · cases h
        simp [Match.accepted?, Match.unreadable?]
      · obtain ⟨r, hread, rfl⟩ := map_eq_ok h
        rcases r with _ | v <;> simp [ha, hread, Except.toOption, Match.accepted?, Match.unreadable?]
    · rw [if_pos (by simpa [EventKind.action] using ha)] at h
      cases h
      simp [ha, Match.accepted?, Match.unreadable?]

/-- What is reported when an event has been matched with a listener. -/
def Match.report? (n : Node) (l : Listener) (p : Payload) : Match → Option Report
  | ignored => none
  | unreadable raw => some (.unreadable p.action (n.internalId.getD "") raw)
  | accepted _ => some (.dispatched (n.internalId.getD "") l.event)

theorem reported?_of_matchEvent {n : Node} {l : Listener} {p : Payload} {m : Match}
    (h : matchEvent n.kind l.event p = .ok m) : n.reported? l p = m.report? n l p := by
  obtain ⟨hheard, hmisheard⟩ := heard?_of_matchEvent h
  unfold Node.reported?
  rw [hheard, hmisheard]
  cases m <;> rfl

theorem matchEvent_ok {nodes : List (NodeId × Node)} {p : Payload} (h : p.Readable nodes) {n : NodeId × Node}
    (hn : n ∈ nodes) (ht : n.2.IsTarget p) (event : EventKind) (e : NumeralTooLong) :
    matchEvent n.2.kind event p ≠ .error e := by
  intro he
  unfold matchEvent at he
  split at he
  · cases he
  rcases event with _ | _
  · cases he
  · dsimp only at he
    rcases hraw : p.value? n.2.kind.valueField.name with _ | raw <;> rw [hraw] at he
    · cases he
    · exact h n hn ht raw hraw e (map_eq_error he)

/-! ## Targets -/

/-- What becomes of the targets of an event, node by node and listener by listener. -/
theorem filterMap_targets {β : Type} (f : Target → Option β) (nodes : List (NodeId × Node)) (p : Payload) :
    (targets nodes p).filterMap f = nodes.flatMap fun n =>
      if n.2.IsTarget p then n.2.listeners.filterMap fun l => f ⟨n.1, n.2, l⟩ else [] := by
  have htargets : targets nodes p = (nodes.filter fun n => n.2.IsTarget p).flatMap fun n =>
      n.2.listeners.map fun l => ⟨n.1, n.2, l⟩ := rfl
  rw [htargets]
  clear htargets
  induction nodes with
  | nil => rfl
  | cons n nodes ih =>
    rw [List.flatMap_cons, ← ih]
    by_cases hn : n.2.IsTarget p
    · rw [List.filter_cons_of_pos (by simpa using hn), List.flatMap_cons, List.filterMap_append, if_pos hn,
        List.filterMap_map]
      rfl
    · rw [List.filter_cons_of_neg (by simpa using hn), if_neg hn, List.nil_append]

theorem isTarget_of_mem_targets {nodes : List (NodeId × Node)} {p : Payload} {t : Target} (h : t ∈ targets nodes p) :
    t.node.IsTarget p := by
  obtain ⟨n, hn, ht⟩ := List.mem_flatMap.1 h
  obtain ⟨l, -, rfl⟩ := List.mem_map.1 ht
  exact of_decide_eq_true (List.mem_filter.1 hn).2

/-! ## What the log says about the event itself -/

/-- A call without what the cache held. -/
def Call.line (c : Call) : Made := ⟨c.node, c.event, c.callback, c.value⟩

namespace Course

variable {nodes : List (NodeId × Node)} {p : Payload} {k n n' : Nat} {xs : List (Nat × Entry)}

/-- What is received inside of a call is not about the event that the call was made for. -/
theorem filter_inside (h : Course nodes .inside n n' xs) (hk : k < n) : xs.filter (·.1 = k) = [] := by
  rw [List.filter_eq_nil_iff]
  intro x hx he
  have hrange := h.numbers_inside hx
  have := of_decide_eq_true he
  omega

/-- About an event whose delivery goes through the log says one thing for each target that it means something to. -/
theorem own_reports : ∀ {n : Nat} {ts : List Target} {made : List Dispatch} {xs : List (Nat × Entry)},
    Course nodes (.delivering k p ts made true) n n' xs → k < n →
      Log.reports ((xs.filter (·.1 = k)).map Prod.snd) = ts.filterMap (fun t => t.node.reported? t.listener p)
  | _, _, _, _, .delivered, _ => rfl
  | _, _, _, _, .ignored hm later, hk => by
    rw [List.filterMap_cons, reported?_of_matchEvent hm]
    exact later.own_reports hk
  | _, _, _, _, .unreadable hm later, hk => by
    rw [List.filterMap_cons, reported?_of_matchEvent hm, List.filter_cons_of_pos (by simp), List.map_cons,
      ← later.own_reports hk]
    rfl
  | _, _, _, _, .accepted hm inner later, hk => by
    -- what happens inside of the call falls away
    rw [List.filterMap_cons, reported?_of_matchEvent hm, List.filter_append, List.filter_cons_of_pos (by simp),
      inner.filter_inside hk, List.filter_cons_of_pos (by simp), ← later.own_reports (Nat.lt_of_lt_of_le hk inner.le)]
    rfl

/-- About the event that is delivered the log has one call for each dispatch. -/
theorem own_calls : ∀ {n : Nat} {ts : List Target} {made : List Dispatch} {through : Bool} {xs : List (Nat × Entry)},
    Course nodes (.delivering k p ts made through) n n' xs → k < n →
      (Log.calls ((xs.filter (·.1 = k)).map Prod.snd)).map Call.line = made.map Dispatch.line
  | _, _, _, _, _, .delivered, _ => rfl
  | _, _, _, _, _, .overlong _, _ => rfl
  | _, _, _, _, _, .ignored _ later, hk => later.own_calls hk
  | _, _, _, _, _, .unreadable _ later, hk => by
    rw [List.filter_cons_of_pos (by simp), ← later.own_calls hk]
    rfl
  | _, _, _, _, _, .accepted _ inner later, hk => by
    rw [List.filter_append, List.filter_cons_of_pos (by simp), inner.filter_inside hk,
      List.filter_cons_of_pos (by simp), List.map_cons, ← later.own_calls (Nat.lt_of_lt_of_le hk inner.le)]
    rfl
  | _, _, _, _, _, .raised _ inner, hk => by
    rw [List.filter_cons_of_pos (by simp), inner.filter_inside hk]
    rfl

end Course

/-- What the log of a routing says about the event that is routed: its receipt, what targets leave, its ending. -/
theorem about_routing {nodes : List (NodeId × Node)} {p : Payload} {made : List Dispatch} {es : Log}
    (h : Delivers nodes p (targets nodes p) made true es) :
    (Log.about (p.receipt :: es ++ p.ending made true) 0).reports =
      .received p.action p.target p.fieldNames ::
        ((targets nodes p).filterMap (fun t => t.node.reported? t.listener p) ++ (p.ending made true).reports) ∧
    (Log.about (p.receipt :: es ++ p.ending made true) 0).calls.map Call.line = made.map Dispatch.line := by
  obtain ⟨n', xs, hc, hr⟩ := h.routing 0 none []
  have hreports := hc.own_reports Nat.zero_lt_one
  have hcalls := hc.own_calls Nat.zero_lt_one
  have hending : ((p.ending made true).map ((0 : Nat), ·)).filter (·.1 = 0) = (p.ending made true).map (0, ·) := by
    rw [List.filter_eq_self]
    intro x hx
    obtain ⟨e, -, rfl⟩ := List.mem_map.1 hx
    rfl
  have habout : Log.about (p.receipt :: es ++ p.ending made true) 0 =
      p.receipt :: ((xs.filter (·.1 = 0)).map Prod.snd ++ p.ending made true) := by
    unfold Log.about Log.byEvent
    rw [hr.read]
    dsimp only
    rw [List.cons_append, List.filter_cons_of_pos (by simp), List.filter_append, hending, List.map_cons,
      List.map_append, List.map_map, Function.comp_def, List.map_id']
  have hnocall : Log.calls (p.ending made true) = [] := by
    unfold Payload.ending
    split <;> rfl
  rw [habout]
  constructor
  · rw [← hreports, ← Log.reports_append]
    rfl
  · rw [← hcalls]
    -- neither the receipt nor the ending is a call
    show (Log.calls ((xs.filter (·.1 = 0)).map Prod.snd ++ p.ending made true)).map Call.line = _
    rw [Log.calls_append, hnocall, List.append_nil]

/-! ## Routing to the listeners that hear -/

/-- Where delivering goes through, every callback has returned. -/
theorem callbacksReturn_of_ok {lookup : Lookup} {routeInner : Payload → Routing (List Dispatch)} {p : Payload} :
    ∀ {ts : List Target} {made : List Dispatch} {d d' : Desk},
      (deliverAll lookup routeInner p ts).run d = (.ok made, d') → CallbacksReturn lookup routeInner p ts d
  | [], _, _, _, _ => trivial
  | t :: ts, made, d, d', h => by
    rw [deliverAll] at h
    obtain ⟨first, d₁, hfirst, h⟩ := run_bind_eq_ok h
    obtain ⟨rest, d₂, hrest, -⟩ := run_bind_eq_ok h
    refine ⟨fun value hm => ?_, ?_⟩
    · rw [run_deliver, hm] at hfirst
      dsimp only at hfirst
      rcases hcall : (callback lookup routeInner t value).run d with ⟨f | ⟨⟩, dc⟩
      · rw [hcall] at hfirst
        cases hfirst
      · rfl
    · rw [hfirst]
      exact callbacksReturn_of_ok hrest

theorem routesThrough_of_isOk {lookup : Lookup} {nodes : List (NodeId × Node)} {depth : Nat} {p : Payload}
    {d : Desk} (h : ((route lookup nodes (depth + 1) p).run d).1.isOk) : RoutesThrough lookup nodes depth p d := by
  rw [run_route] at h
  unfold RoutesThrough Desk.received
  rcases hr : (deliverAll lookup (route lookup nodes depth) p (targets nodes p)).run
    (d.note (.report (.received p.action p.target p.fieldNames))) with ⟨f | made', d₁⟩ <;> rw [hr] at h
  · cases h
  · exact callbacksReturn_of_ok hr

/-- What a target accepts is what its listener hears. -/
theorem dispatch?_eq {p : Payload} {t : Target} (h : ∀ e, matchEvent t.node.kind t.listener.event p ≠ .error e) :
    dispatch? p t = (t.node.heard? t.listener p).map fun value => ⟨t.id, t.listener, value⟩ := by
  unfold dispatch?
  rcases hm : matchEvent t.node.kind t.listener.event p with e | m
  · exact absurd hm (h e)
  · rw [(heard?_of_matchEvent hm).1]
    rcases m with _ | raw | value <;> rfl

/-- Below roots without cycles the trees end and the walk goes all the way down them. If every callback returns,
an event is dispatched to exactly the listeners of its targets that hear it. About that event the log has its
receipt first, then for each of them one call and one report, for each value that is there but cannot be read one
report, and a last report if nobody was called; no entry is lost to a reader that asks what is about which event. -/
theorem route_exactly {s : Store} {roots : List NodeId} {lookup : Lookup} {depth : Nat} {p : Payload} {d : Desk}
    (hc : s.Closed) (hr : ∀ i ∈ roots, i < s.size) (ha : s.Acyclic roots) (hread : p.Readable (s.walk roots))
    (hreturn : RoutesThrough lookup (s.walk roots) depth p d) :
    s.Grounded roots ∧
    ∃ made d' new, (route lookup (s.walk roots) (depth + 1) p).run d = (.ok made, d') ∧ d'.log = d.log ++ new ∧
      made = ((s.walk roots).flatMap fun n => if n.2.IsTarget p then
        n.2.listeners.filterMap fun l => (n.2.heard? l p).map fun value => ⟨n.1, l, value⟩ else []) ∧
      new.byEvent.map Prod.snd = new.filter Entry.isAboutEvent ∧
      (new.about 0).calls.map Call.line = made.map Dispatch.line ∧
      (new.about 0).reports = .received p.action p.target p.fieldNames ::
        (((s.walk roots).flatMap fun n => if n.2.IsTarget p then n.2.listeners.filterMap (n.2.reported? · p) else []) ++
          if made.isEmpty then [.unmatched p.action p.target] else []) := by
  refine ⟨ha.grounded hc hr, ?_⟩
  have hmatch : ∀ t ∈ targets (s.walk roots) p, ∀ e, matchEvent t.node.kind t.listener.event p ≠ .error e :=
    fun t ht e => matchEvent_ok hread (mem_targets ht).1 (isTarget_of_mem_targets ht) t.listener.event e
  have hok := route_ok hmatch hreturn
  rcases hrun : (route lookup (s.walk roots) (depth + 1) p).run d with ⟨f | made, d'⟩ <;> rw [hrun] at hok
  · cases hok
  have hmade : made = (targets (s.walk roots) p).filterMap (dispatch? p) := Except.ok.inj hok
  obtain ⟨es, hes, hlog⟩ := delivers_of_route hrun
  obtain ⟨hreports, hcalls⟩ := about_routing hes
  refine ⟨made, d', _, rfl, hlog, ?_, (course_byEvent hes).2, hcalls, ?_⟩
  · rw [hmade, List.filterMap_congr fun t ht => dispatch?_eq (hmatch t ht), filterMap_targets]
  · rw [hreports, filterMap_targets]
    unfold Payload.ending
    by_cases hempty : made.isEmpty
    · rw [if_pos ⟨rfl, hempty⟩, if_pos hempty]
      rfl
    · rw [if_neg fun h => hempty h.2, if_neg hempty]
      rfl

/-- A slider that is a root and below one, and a button that the slider's first callback has clicked. -/
def sharedSlider : Store := ⟨#[
  { kind := .group, children := [1] },
  { kind := .slider
    internalId := some "volume"
    listeners := [
      ⟨.valueChanged, ⟨0, fun _ _ => .route ⟨"ButtonClicked", some "mute", ∅⟩ .done⟩⟩,
      ⟨.valueChanged, idle 1⟩] },
  { kind := .button, internalId := some "mute", listeners := [⟨.activating, idle 2⟩] }]⟩

def sharedSlider.moved : Payload := ⟨"ValueChanged", some "volume", Bag.ofList [("Value", "7")]⟩

/-- The walk comes to the slider twice, so each of its callbacks is called twice; the clicks in between are not
among the calls for the move. -/
theorem route_exactly_sharedSlider :
    ∃ made d' new, (route .own (sharedSlider.walk [0, 1, 2]) 2 sharedSlider.moved).run ⟨∅, []⟩ = (.ok made, d') ∧
      d'.log = new ∧ made.map (fun x => (x.node, x.listener.callback.id)) = [(1, 0), (1, 1), (1, 0), (1, 1)] ∧
      (new.about 0).calls.map Call.line = made.map Dispatch.line := by
  have hc : sharedSlider.Closed := Store.closed_of_nodes (by decide)
  have hrising : ∀ i, ∀ c ∈ (sharedSlider.node i).children, i < c := by
    intro i c hmem
    rcases i with _ | _ | _ | i
    · rw [List.mem_singleton.1 hmem]
      decide
    · cases hmem
    · cases hmem
    · cases hmem
  have hread : sharedSlider.moved.Readable (sharedSlider.walk [0, 1, 2]) := by
    have hwalk : (sharedSlider.walk [0, 1, 2]).map (fun n => (n.1, n.2.kind)) =
        [(0, .group), (1, .slider), (1, .slider), (2, .button)] := by rfl
    have hslider : ∀ raw, sharedSlider.moved.value? Kind.slider.valueField.name = some raw →
        ∀ e, Kind.slider.readValue raw ≠ .error e := by
      have hvalue : sharedSlider.moved.value? Kind.slider.valueField.name = some "7" := by cbv
      have hseven : Kind.slider.readValue "7" = .ok (some (.int 7)) := by cbv
      intro raw hraw e
      cases hvalue.symm.trans hraw
      rw [hseven]
      rintro ⟨⟩
    intro n hn _ raw hraw e
    have hkind : (n.1, n.2.kind) ∈ (sharedSlider.walk [0, 1, 2]).map (fun n => (n.1, n.2.kind)) :=
      List.mem_map_of_mem hn
    rw [hwalk] at hkind
    simp only [List.mem_cons, Prod.mk.injEq, List.not_mem_nil, or_false] at hkind
    rcases hkind with ⟨-, hk⟩ | ⟨-, hk⟩ | ⟨-, hk⟩ | ⟨-, hk⟩ <;> rw [hk] at hraw ⊢
    · rintro ⟨⟩
    · exact hslider raw hraw e
    · exact hslider raw hraw e
    · rintro ⟨⟩
  have hreturn : RoutesThrough .own (sharedSlider.walk [0, 1, 2]) 1 sharedSlider.moved ⟨∅, []⟩ :=
    routesThrough_of_isOk (by cbv)
  obtain ⟨-, made, d', new, hrun, hlog, hmade, -, hcalls, -⟩ :=
    route_exactly hc (by decide) (Store.acyclic_of_rising hrising) hread hreturn
  refine ⟨made, d', new, hrun, hlog, ?_, hcalls⟩
  rw [hmade]
  cbv

/-- Two buttons. The first has the second clicked and goes on, although the callback of the second gives up. -/
def guardedButton : Store := ⟨#[
  { kind := .button
    internalId := some "go"
    listeners := [⟨.activating, ⟨0, fun _ _ => .send ⟨"ButtonClicked", some "stop", ∅⟩ fun _ => .done⟩⟩] },
  { kind := .button
    internalId := some "stop"
    listeners := [⟨.activating, ⟨1, fun _ _ => .raise (.raised "stopped")⟩⟩] }]⟩

/-- A click on the first button is dispatched, and the call for the other click is not among its own. -/
example :
    let click := (route .own (guardedButton.walk [0, 1]) 2 ⟨"ButtonClicked", some "go", ∅⟩).run ⟨∅, []⟩
    click.1.toOption.map (·.map (·.node)) = some [0] ∧ click.2.log.calls.map (·.node) = [0, 1] ∧
      (click.2.log.about 0).calls.map (·.node) = [0] := by
  cbv

end Overlay
