/-
Bindings and the events that they announce. For a binding the engine sends the fields that it names, with
a raw text in the place of a reference. Such an event, routed over the nodes that the binding was emitted
for, calls the listeners of the binding's node that wait for that kind of event and nobody else.
-/
import Overlay.Proofs.Element.Prepare
import Overlay.Proofs.Event.Routing
import Overlay.Proofs.Program.Segment
import Mathlib

namespace Overlay

open Routing

/-! ## The events of bindings -/

/-- The binding of one listener. -/
def Node.binding (n : Node) (selector : String) (l : Listener) : Binding :=
  ⟨l.event, selector, Bag.ofList (n.bindingData l.event selector)⟩

namespace Binding

/-- What the engine sends for a field of a binding: for a reference the raw text, else what the field says. -/
def sent (raw : String) : String × String → String × Datum
  | (name, given) =>
    if name = "@Value" then ("Value", .text raw)
    else if name = "@RefValue" then ("RefValue", .text raw)
    else (name, .text given)

/-- The event that the engine sends for a binding when the value that it refers to has a raw text. -/
def wire (b : Binding) (raw : String) : Bag String Datum := Bag.ofList (b.data.entries.map (sent raw))

end Binding

/-- The event of a binding, as the router takes it in. -/
def Binding.payload (b : Binding) (raw : String) : Payload := Payload.ofWire (b.wire raw)

theorem payload_binding (n : Node) (selector : String) (l : Listener) (raw : String) :
    (n.binding selector l).payload raw = {
      action := l.event.action
      target := some (n.internalId.getD "")
      values := match l.event with
        | .activating => .empty
        | .valueChanged => Bag.ofList [(n.kind.valueField.name, raw)] } := by
  obtain ⟨event, c⟩ := l
  cases event with
  | activating => rfl
  | valueChanged =>
    unfold Binding.payload Binding.wire Node.binding Node.bindingData
    rcases n.kind.valueField <;> rfl

/-! ## Targets -/

/-- Where keys do not repeat, one element has the key of a member: the member. -/
theorem filter_eq_singleton {α β : Type} [DecidableEq β] {f : α → β} {l : List α} (h : (l.map f).Nodup) {a : α}
    (ha : a ∈ l) : l.filter (f · = f a) = [a] := by
  induction l with
  | nil => cases ha
  | cons b l ih =>
    obtain ⟨hb, hl⟩ := List.nodup_cons.1 h
    rcases List.mem_cons.1 ha with rfl | ha
    · have hrest : l.filter (f · = f a) = [] := by
        rw [List.filter_eq_nil_iff]
        intro c hc he
        exact hb ((of_decide_eq_true he) ▸ List.mem_map_of_mem hc)
      rw [List.filter_cons_of_pos (by simp), hrest]
    · have hne : f b ≠ f a := fun he => hb (he ▸ List.mem_map_of_mem ha)
      rw [List.filter_cons_of_neg (by simpa using hne), ih hl ha]

/-- An event for the internal id of a node has the listeners of that node for targets and no others. -/
theorem targets_eq {nodes : List (NodeId × Node)} (h : (nodes.map (·.2.internalId)).Nodup) {n : NodeId × Node}
    (hn : n ∈ nodes) (hid : n.2.internalId.isSome) {p : Payload} (hp : p.target = n.2.internalId) :
    targets nodes p = n.2.listeners.map fun l => ⟨n.1, n.2, l⟩ := by
  -- no other node has the internal id, so the condition on the target leaves this node alone
  have hfilter : nodes.filter (fun m => m.2.internalId.isSome ∧ m.2.internalId = p.target) = [n] := by
    rw [← filter_eq_singleton h hn]
    refine List.filter_congr fun m _ => ?_
    rw [hp]
    by_cases hm : m.2.internalId = n.2.internalId
    · simp [hm, hid]
    · simp [hm]
  unfold targets
  rw [hfilter, List.flatMap_singleton]

/-! ## Routing where every callback returns -/

/-- What an event comes to at a target, if the target accepts it. -/
def dispatch? (p : Payload) (t : Target) : Option Dispatch :=
  match matchEvent t.node.kind t.listener.event p with
  | .ok (.accepted value) => some ⟨t.id, t.listener, value⟩
  | _ => none

/-- Every callback that is called for an event returns normally, one target after another. -/
def CallbacksReturn (lookup : Lookup) (routeInner : Payload → Routing (List Dispatch)) (p : Payload) :
    List Target → Desk → Prop
  | [], _ => True
  | t :: ts, d =>
    (∀ value, matchEvent t.node.kind t.listener.event p = .ok (.accepted value) →
      ((callback lookup routeInner t value).run d).1 = .ok ()) ∧
    CallbacksReturn lookup routeInner p ts ((deliver lookup routeInner p t).run d).2

variable {lookup : Lookup} {routeInner : Payload → Routing (List Dispatch)} {p : Payload}

theorem deliver_ok {t : Target} {d : Desk} (hread : ∀ e, matchEvent t.node.kind t.listener.event p ≠ .error e)
    (hreturn : ∀ value, matchEvent t.node.kind t.listener.event p = .ok (.accepted value) →
      ((callback lookup routeInner t value).run d).1 = .ok ()) :
    ((deliver lookup routeInner p t).run d).1 = .ok (dispatch? p t) := by
  rw [run_deliver]
  unfold dispatch?
  rcases hm : matchEvent t.node.kind t.listener.event p with e | (_ | raw | value)
  · exact absurd hm (hread e)
  · rfl
  · rfl
  · have hcall := hreturn value hm
    dsimp only
    rcases hr : (callback lookup routeInner t value).run d with ⟨f | ⟨⟩, d'⟩ <;> rw [hr] at hcall
    cases hcall

/-- Where no reading and no callback fails, delivering gives what the targets accept, in their order. -/
theorem deliverAll_ok : ∀ {ts : List Target} {d : Desk},
    (∀ t ∈ ts, ∀ e, matchEvent t.node.kind t.listener.event p ≠ .error e) →
    CallbacksReturn lookup routeInner p ts d →
      ((deliverAll lookup routeInner p ts).run d).1 = .ok (ts.filterMap (dispatch? p))
  | [], _, _, _ => rfl
  | t :: ts, d, hread, ⟨hreturn, hrest⟩ => by
    have hfirst := deliver_ok (hread t (List.mem_cons_self ..)) hreturn
    have hlater := deliverAll_ok (fun u hu => hread u (List.mem_cons_of_mem _ hu)) hrest
    rw [run_deliverAll_cons]
    rcases hd : (deliver lookup routeInner p t).run d with ⟨f | first, d'⟩ <;> rw [hd] at hfirst hlater
    · cases hfirst
    · cases hfirst
      dsimp only at hlater ⊢
      rcases hr : (deliverAll lookup routeInner p ts).run d' with ⟨f | rest, d''⟩ <;> rw [hr] at hlater
      · cases hlater
      · cases hlater
        rw [List.filterMap_cons]
        cases dispatch? p t <;> rfl

/-- The desk on which a routing begins to deliver. -/
def Desk.received (d : Desk) (p : Payload) : Desk := d.note (.report (.received p.action p.target p.fieldNames))

/-- Every callback that is called in the routing of an event returns normally. -/
def RoutesThrough (lookup : Lookup) (nodes : List (NodeId × Node)) (depth : Nat) (p : Payload) (d : Desk) : Prop :=
  CallbacksReturn lookup (route lookup nodes depth) p (targets nodes p) (d.received p)

theorem route_ok {nodes : List (NodeId × Node)} {depth : Nat} {d : Desk}
    (hread : ∀ t ∈ targets nodes p, ∀ e, matchEvent t.node.kind t.listener.event p ≠ .error e)
    (hreturn : RoutesThrough lookup nodes depth p d) :
    ((route lookup nodes (depth + 1) p).run d).1 = .ok ((targets nodes p).filterMap (dispatch? p)) := by
  have hmade := deliverAll_ok hread hreturn
  rw [run_route]
  unfold Desk.received at hmade
  rcases hr : (deliverAll lookup (route lookup nodes depth) p (targets nodes p)).run
    (d.note (.report (.received p.action p.target p.fieldNames))) with ⟨f | made, d'⟩ <;> rw [hr] at hmade
  · cases hmade
  · exact hmade

/-! ## From a binding to its listeners -/

/-- One dispatch for each listener of a node for a kind of event, in the order of registration. -/
def dispatchesTo (n : NodeId × Node) (event : EventKind) (value : Option Value) : List Dispatch :=
  (n.2.listeners.filter (·.event = event)).map fun l => ⟨n.1, l, value⟩

/-- What the event of an activating binding means to a listener of its node. -/
theorem matchEvent_activating {kind : Kind} {event : EventKind} (hp : p.action = EventKind.activating.action) :
    matchEvent kind event p = .ok (if event = .activating then .accepted none else .ignored) := by
  unfold matchEvent
  rw [hp]
  cases event <;> rfl

/-- What the event of a binding for changed values means to a listener of its node. -/
theorem matchEvent_valueChanged {kind : Kind} {event : EventKind} {raw : String} {value : Option Value}
    (hp : p.action = EventKind.valueChanged.action) (hraw : p.value? kind.valueField.name = some raw)
    (hread : kind.readValue raw = .ok value) :
    matchEvent kind event p = .ok (if event = .valueChanged then
      match value with
      | none => .unreadable raw
      | some v => .accepted (some v)
    else .ignored) := by
  unfold matchEvent
  rw [hp]
  cases event with
  | activating => rfl
  | valueChanged =>
    simp only [hraw, hread]
    cases value <;> rfl

/-- Listeners of one node that accept an event all with one value, if they wait for its kind. -/
theorem filterMap_dispatch {n : NodeId × Node} {event : EventKind} {value : Option Value}
    (h : ∀ e, dispatch? p ⟨n.1, n.2, e⟩ = if e.event = event then some ⟨n.1, e, value⟩ else none) :
    (n.2.listeners.map fun l => (⟨n.1, n.2, l⟩ : Target)).filterMap (dispatch? p) = dispatchesTo n event value := by
  unfold dispatchesTo
  rw [List.filterMap_map, ← List.filterMap_eq_filter, List.map_filterMap]
  refine List.filterMap_congr fun l _ => ?_
  rw [Function.comp_apply, h]
  by_cases hl : l.event = event <;> simp [Option.guard, hl]

namespace Store.Prepared

variable {s : Store} {roots : List NodeId} {n : NodeId × Node} {depth : Nat} {d : Desk}

theorem target_binding (h : s.Prepared roots) (hn : n ∈ s.walk roots) (selector : String) (l : Listener)
    (raw : String) : ((n.2.binding selector l).payload raw).target = n.2.internalId := by
  rw [payload_binding]
  obtain ⟨id, hid⟩ := Option.isSome_iff_exists.1 (h.identified n hn)
  rw [hid]
  rfl

theorem targets_binding (h : s.Prepared roots) (hn : n ∈ s.walk roots) (selector : String) (l : Listener)
    (raw : String) :
    targets (s.walk roots) ((n.2.binding selector l).payload raw) = n.2.listeners.map fun l => ⟨n.1, n.2, l⟩ :=
  targets_eq h.internalIds hn (h.identified n hn) (h.target_binding hn selector l raw)

/-- The event of an activating binding calls each activating listener of its node. -/
theorem route_activating (h : s.Prepared roots) (hn : n ∈ s.walk roots) (selector : String) {l : Listener}
    (raw : String) (hl : l.event = .activating)
    (hreturn : RoutesThrough lookup (s.walk roots) depth ((n.2.binding selector l).payload raw) d) :
    ((route lookup (s.walk roots) (depth + 1) ((n.2.binding selector l).payload raw)).run d).1 =
      .ok (dispatchesTo n .activating none) := by
  have haction : ((n.2.binding selector l).payload raw).action = EventKind.activating.action := by
    rw [payload_binding, hl]
  have hmatch : ∀ t : Target, matchEvent t.node.kind t.listener.event ((n.2.binding selector l).payload raw) = _ :=
    fun t => matchEvent_activating haction
  rw [route_ok (fun t _ e => by simp [hmatch]) hreturn, h.targets_binding hn]
  rw [filterMap_dispatch fun e => ?_]
  unfold dispatch?
  rw [hmatch]
  by_cases he : e.event = .activating <;> simp [he]

/-- An event with a changed value of a node calls each listener for changed values of this node, if the node's kind
reads a value from the raw text. -/
theorem route_change (h : s.Prepared roots) (hn : n ∈ s.walk roots) {p : Payload} {raw : String} {value : Option Value}
    (haction : p.action = EventKind.valueChanged.action) (htarget : p.target = n.2.internalId)
    (hraw : p.value? n.2.kind.valueField.name = some raw) (hread : n.2.kind.readValue raw = .ok value)
    (hreturn : RoutesThrough lookup (s.walk roots) depth p d) :
    ((route lookup (s.walk roots) (depth + 1) p).run d).1 =
      .ok (value.elim [] fun v => dispatchesTo n .valueChanged (some v)) := by
  have hmatch : ∀ e : Listener, matchEvent n.2.kind e.event p = _ := fun e => matchEvent_valueChanged haction hraw hread
  have htargets := targets_eq h.internalIds hn (h.identified n hn) htarget
  have hreads : ∀ t ∈ targets (s.walk roots) p, ∀ e, matchEvent t.node.kind t.listener.event p ≠ .error e := by
    intro t ht e
    rw [htargets] at ht
    obtain ⟨l', -, rfl⟩ := List.mem_map.1 ht
    simp [hmatch]
  rw [route_ok hreads hreturn, htargets]
  -- an unreadable text is dropped by every listener, and a value is taken by all that wait for one
  cases value with
  | none =>
    refine congrArg Except.ok (List.filterMap_eq_nil_iff.2 fun t ht => ?_)
    obtain ⟨l', -, rfl⟩ := List.mem_map.1 ht
    unfold dispatch?
    rw [hmatch]
    by_cases he : l'.event = .valueChanged <;> simp [he]
  | some v =>
    refine congrArg Except.ok (filterMap_dispatch fun e => ?_)
    unfold dispatch?
    rw [hmatch]
    by_cases he : e.event = .valueChanged <;> simp [he]

/-- The event of a binding for changed values calls each listener for changed values of its node, if the
node's kind reads a value from the raw text. -/
theorem route_valueChanged (h : s.Prepared roots) (hn : n ∈ s.walk roots) (selector : String) {l : Listener}
    {raw : String} {value : Option Value} (hl : l.event = .valueChanged) (hread : n.2.kind.readValue raw = .ok value)
    (hreturn : RoutesThrough lookup (s.walk roots) depth ((n.2.binding selector l).payload raw) d) :
    ((route lookup (s.walk roots) (depth + 1) ((n.2.binding selector l).payload raw)).run d).1 =
      .ok (value.elim [] fun v => dispatchesTo n .valueChanged (some v)) := by
  have hpayload := payload_binding n.2 selector l raw
  have haction : ((n.2.binding selector l).payload raw).action = EventKind.valueChanged.action := by
    rw [hpayload, hl]
  have hraw : ((n.2.binding selector l).payload raw).value? n.2.kind.valueField.name = some raw := by
    rw [hpayload, hl]
    simp [Payload.value?, Bag.ofList, Bag.putAll, Bag.get?_put]
  exact h.route_change hn haction (h.target_binding hn selector l raw) hraw hread hreturn

end Store.Prepared

/-- After a preparation the bindings of every node stand in each program that is emitted, and for each of
them the event that the engine sends calls exactly the listeners of that node for that kind of event. -/
theorem bindings_reach_listeners {s s' : Store} {roots : List NodeId} (hc : s.Closed) (hr : ∀ i ∈ roots, i < s.size)
    (hp : (prepare roots).run s = (.ok (), s')) {n : NodeId × Node} (hn : n ∈ s'.walk roots) :
    (∀ setup blocks baseFile program, emit setup (s'.forest roots) blocks baseFile = .ok program →
      ∃ selector, n.2.listeners.map (n.2.binding selector) <:+: program.bindings) ∧
    ∀ selector, ∀ l ∈ n.2.listeners, ∀ raw lookup depth d,
      RoutesThrough lookup (s'.walk roots) depth ((n.2.binding selector l).payload raw) d →
      (l.event = .activating →
        ((route lookup (s'.walk roots) (depth + 1) ((n.2.binding selector l).payload raw)).run d).1 =
          .ok (dispatchesTo n .activating none)) ∧
      (∀ value, l.event = .valueChanged → n.2.kind.readValue raw = .ok value →
        ((route lookup (s'.walk roots) (depth + 1) ((n.2.binding selector l).payload raw)).run d).1 =
          .ok (value.elim [] fun v => dispatchesTo n .valueChanged (some v))) := by
  have hprep := prepared_of_ok hc hr hp
  constructor
  · intro setup blocks baseFile program h
    exact emit_bindings h hn
  · intro selector l _ raw lookup depth d hreturn
    exact ⟨fun hl => hprep.route_activating hn selector raw hl hreturn,
      fun value hl hread => hprep.route_valueChanged hn selector hl hread hreturn⟩

/-! ## A host with a checkbox and a slider -/

/-- A callback that does nothing. -/
def idle (id : Nat) : Callback := ⟨id, fun _ _ => .done⟩

theorem callbacksReturn_of_idle : ∀ {ts : List Target}, (∀ t ∈ ts, ∃ id, t.listener.callback = idle id) →
    ∀ d, CallbacksReturn lookup routeInner p ts d
  | [], _, _ => trivial
  | t :: ts, h, d => by
    obtain ⟨id, hid⟩ := h t (List.mem_cons_self ..)
    refine ⟨fun value _ => ?_, callbacksReturn_of_idle (fun u hu => h u (List.mem_cons_of_mem _ hu)) _⟩
    rw [run_callback, Desk.scriptOf, hid]
    rfl

/-- The slider, perhaps with an internal id. -/
def volume (internalId : Option String) : Node where
  kind := .slider
  userId := some "volume"
  internalId := internalId
  value := some (.int 5)
  listeners := [⟨.valueChanged, idle 0⟩, ⟨.activating, idle 1⟩, ⟨.valueChanged, idle 2⟩]

/-- The checkbox, perhaps with an internal id. -/
def mute (internalId : Option String) : Node where
  kind := .checkbox
  userId := some "mute"
  internalId := internalId
  listeners := [⟨.valueChanged, idle 3⟩]

def mixer : Store := ⟨#[volume none, mute none]⟩

def preparedMixer : Store := ⟨#[volume (some "volume"), mute (some "mute")]⟩

theorem mixer_closed : mixer.Closed := Store.closed_of_nodes (by decide)

theorem walk_preparedMixer :
    preparedMixer.walk [0, 1] = [(0, volume (some "volume")), (1, mute (some "mute"))] := by rfl

theorem idle_preparedMixer (p : Payload) :
    ∀ t ∈ targets (preparedMixer.walk [0, 1]) p, ∃ id, t.listener.callback = idle id := by
  intro t ht
  obtain ⟨hnode, hlistener⟩ := mem_targets ht
  rw [walk_preparedMixer] at hnode
  obtain ⟨i, n, l⟩ := t
  simp only [List.mem_cons, Prod.mk.injEq, List.not_mem_nil, or_false] at hnode
  rcases hnode with ⟨-, rfl⟩ | ⟨-, rfl⟩
  · simp only [volume, List.mem_cons, List.not_mem_nil, or_false] at hlistener
    rcases hlistener with rfl | rfl | rfl <;> exact ⟨_, rfl⟩
  · simp only [mute, List.mem_cons, List.not_mem_nil, or_false] at hlistener
    exact ⟨3, by rw [hlistener]⟩

/-- A move of the slider calls its first and its third listener with the number. -/
theorem bindings_reach_listeners_volume :
    (prepare [0, 1]).run mixer = (.ok (), preparedMixer) ∧
    ((route .own (preparedMixer.walk [0, 1]) 1
      (((volume (some "volume")).binding "#volume" ⟨.valueChanged, idle 0⟩).payload "7")).run ⟨∅, []⟩).1 =
        .ok [⟨0, ⟨.valueChanged, idle 0⟩, some (.int 7)⟩, ⟨0, ⟨.valueChanged, idle 2⟩, some (.int 7)⟩] := by
  have hp : (prepare [0, 1]).run mixer = (.ok (), preparedMixer) := by cbv
  have hn : (0, volume (some "volume")) ∈ preparedMixer.walk [0, 1] := by
    rw [walk_preparedMixer]
    exact List.mem_cons_self ..
  have hl : ⟨.valueChanged, idle 0⟩ ∈ (volume (some "volume")).listeners := List.mem_cons_self ..
  have hread : (volume (some "volume")).kind.readValue "7" = .ok (some (.int 7)) := by cbv
  obtain ⟨-, hroute⟩ := bindings_reach_listeners mixer_closed (by decide) hp hn
  obtain ⟨-, hchanged⟩ := hroute "#volume" _ hl "7" .own 0 ⟨∅, []⟩ (callbacksReturn_of_idle (idle_preparedMixer _) _)
  exact ⟨hp, hchanged _ rfl hread⟩

end Overlay
