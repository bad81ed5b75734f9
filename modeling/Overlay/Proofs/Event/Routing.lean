/-
Running the routing of events: what each step answers and writes, in every case, and which relations
between desks a whole routing keeps. A matched listener is called at once, with its value in the cache
already, and what its callback asks for is done before the next listener is looked at. Whatever comes of a
routing inside of a call, the callback goes on.
-/
import Overlay.Event.Router
import Overlay.Proofs.Run

namespace Overlay

namespace Desk

/-- One more entry in the log. -/
def note (d : Desk) (e : Entry) : Desk := { d with log := d.log ++ [e] }

/-- The cache with a value that a node has, if it has a user id. -/
def remembered (d : Desk) (userId : Option String) (value : Option Value) : Cache :=
  match userId, value with
  | some id, some v => d.cache.put id (some v)
  | _, _ => d.cache

/-- The call of a listener with a value. -/
def callOf (d : Desk) (t : Target) (value : Option Value) : Call :=
  ⟨t.id, t.listener.event, t.listener.callback.id, value, d.remembered t.node.userId value⟩

/-- What the callback of a listener does when it is called with a value. -/
def scriptOf (d : Desk) (t : Target) (value : Option Value) : Script := t.listener.callback.script d.log.calls value

/-- The desk when the callback of a listener begins. -/
def called (d : Desk) (t : Target) (value : Option Value) : Desk :=
  ⟨d.remembered t.node.userId value, d.log ++ [.call (d.callOf t value)]⟩

end Desk

/-! ## Running the steps -/

namespace Routing

variable {lookup : Lookup} {routeInner : Payload → Routing (List Dispatch)}

theorem run_note (e : Entry) (d : Desk) : (note e).run d = (.ok (), d.note e) := rfl

theorem run_report (r : Report) (d : Desk) : (report r).run d = (.ok (), d.note (.report r)) := rfl

theorem run_remember (userId : Option String) (value : Option Value) (d : Desk) :
    (remember userId value).run d = (.ok (), { d with cache := d.remembered userId value }) := by
  rcases userId with _ | id <;> rcases value with _ | v <;> rfl

/-- What the callback of a listener does, from the moment when the event has matched. -/
def callback (lookup : Lookup) (routeInner : Payload → Routing (List Dispatch)) (t : Target) (value : Option Value) :
    Routing Unit := do
  remember t.node.userId value
  call lookup routeInner t value

theorem run_attempt {α : Type} (x : Routing α) (d : Desk) :
    (attempt x).run d = (.ok (x.run d).1, (x.run d).2) := rfl

/-- A callback finds its value in the cache and its call in the log, and then follows its script. -/
theorem run_callback (t : Target) (value : Option Value) (d : Desk) :
    (callback lookup routeInner t value).run d =
      match (follow lookup routeInner (d.scriptOf t value)).run (d.called t value) with
      | (.ok (), d') => (.ok (), d')
      | (.error f, d') => (.error f, d'.note (.raised f)) := by
  unfold callback
  rw [run_bind_ok (run_remember ..)]
  unfold call
  rw [run_bind_ok (run_getThe _), run_bind_ok (run_note ..), run_bind_ok (run_attempt ..)]
  show (endCall ((follow lookup routeInner (d.scriptOf t value)).run (d.called t value)).1).run
    ((follow lookup routeInner (d.scriptOf t value)).run (d.called t value)).2 = _
  rcases (follow lookup routeInner (d.scriptOf t value)).run (d.called t value) with
    ⟨f | ⟨⟩, d'⟩ <;> rfl

/-- Reading answers from the cache and is noted. -/
theorem run_follow_read (id : String) (next : Option Value → Script) (d : Desk) :
    (follow lookup routeInner (.read id next)).run d =
      (follow lookup routeInner (next ((lookup.cacheOver d.cache).value id))).run
        (d.note (.read id ((lookup.cacheOver d.cache).value id))) := by
  rw [follow, run_bind_ok (run_getThe d), run_bind_ok (run_note ..)]

/-- A callback goes on with what has come of a routing. -/
theorem run_follow_send (p : Payload) (next : Except Failure (List Made) → Script) (d : Desk) :
    (follow lookup routeInner (.send p next)).run d =
      (follow lookup routeInner (next (((routeInner p).run d).1.map fun made => made.map Dispatch.line))).run
        ((routeInner p).run d).2 := by
  rw [follow, run_bind_ok (run_attempt ..)]

/-- What comes of one listener, by what the event means to it. -/
theorem run_deliver (p : Payload) (t : Target) (d : Desk) :
    (deliver lookup routeInner p t).run d = match matchEvent t.node.kind t.listener.event p with
      | .error n => (.error (.numeral n), d)
      | .ok .ignored => (.ok none, d)
      | .ok (.unreadable raw) =>
        (.ok none, d.note (.report (.unreadable p.action (t.node.internalId.getD "") raw)))
      | .ok (.accepted value) => match (callback lookup routeInner t value).run d with
        | (.ok (), d') => (.ok (some ⟨t.id, t.listener, value⟩),
            d'.note (.report (.dispatched (t.node.internalId.getD "") t.listener.event)))
        | (.error f, d') => (.error f, d') := by
  unfold deliver
  rcases matchEvent t.node.kind t.listener.event p with n | (_ | raw | value)
  · rfl
  · rfl
  · exact run_bind_ok (run_report ..)
  · unfold callback
    dsimp only
    rw [run_bind, run_bind]
    rcases (remember t.node.userId value).run d with ⟨f | ⟨⟩, d₁⟩
    · rfl
    dsimp only
    rw [run_bind]
    rcases (call lookup routeInner t value).run d₁ with ⟨f | ⟨⟩, d₂⟩ <;> rfl

theorem run_deliverAll_cons (p : Payload) (t : Target) (ts : List Target) (d : Desk) :
    (deliverAll lookup routeInner p (t :: ts)).run d = match (deliver lookup routeInner p t).run d with
      | (.error f, d') => (.error f, d')
      | (.ok first, d') => match (deliverAll lookup routeInner p ts).run d' with
        | (.error f, d'') => (.error f, d'')
        | (.ok rest, d'') => (.ok (first.toList ++ rest), d'') := by
  rw [deliverAll, run_bind]
  rcases (deliver lookup routeInner p t).run d with ⟨f | first, d'⟩
  · rfl
  dsimp only
  rw [run_bind]
  rcases (deliverAll lookup routeInner p ts).run d' with ⟨f | rest, d''⟩ <;> rfl

end Routing

open Routing

/-- A routing reports the event, delivers it to its targets, and reports if nobody was called. -/
theorem run_route (lookup : Lookup) (nodes : List (NodeId × Node)) (depth : Nat) (p : Payload) (d : Desk) :
    (route lookup nodes (depth + 1) p).run d =
      match (deliverAll lookup (route lookup nodes depth) p (targets nodes p)).run
        (d.note (.report (.received p.action p.target p.fieldNames))) with
      | (.error f, d') => (.error f, d')
      | (.ok made, d') =>
        (.ok made, if made.isEmpty then d'.note (.report (.unmatched p.action p.target)) else d') := by
  rw [route, run_bind_ok (run_report ..), run_bind]
  rcases (deliverAll lookup (route lookup nodes depth) p (targets nodes p)).run
    (d.note (.report (.received p.action p.target p.fieldNames))) with ⟨f | made, d'⟩
  · rfl
  · dsimp only
    split <;> rfl

theorem mem_targets {nodes : List (NodeId × Node)} {p : Payload} {t : Target} (h : t ∈ targets nodes p) :
    (t.id, t.node) ∈ nodes ∧ t.listener ∈ t.node.listeners := by
  obtain ⟨n, hn, ht⟩ := List.mem_flatMap.1 h
  obtain ⟨l, hl, rfl⟩ := List.mem_map.1 ht
  exact ⟨(List.mem_filter.1 hn).1, hl⟩

/-! ## What routing keeps -/

section Moves

variable {R : Desk → Desk → Prop} [IsPreorder Desk R] {lookup : Lookup} {routeInner : Payload → Routing (List Dispatch)}
  {p : Payload}

/-- Delivering to targets keeps what delivering to each of them keeps. -/
theorem moves_deliverAll : ∀ ts : List Target, (∀ t ∈ ts, Moves R (deliver lookup routeInner p t)) →
    Moves R (deliverAll lookup routeInner p ts)
  | [], _ => .of_pure []
  | t :: ts, h => .bind (h t (List.mem_cons_self ..)) fun _ =>
      .bind (moves_deliverAll ts fun u hu => h u (List.mem_cons_of_mem _ hu)) fun _ => .of_pure _

/-- A routing keeps what reports and delivering to its targets keep: the event is reported before anything is
delivered, and once more if nobody was called. -/
theorem moves_route {nodes : List (NodeId × Node)} {depth : Nat} (hreport : ∀ d r, R d (d.note (.report r)))
    (hall : Moves R (deliverAll lookup (route lookup nodes depth) p (targets nodes p))) :
    Moves R (route lookup nodes (depth + 1) p) := by
  intro d
  rw [run_route]
  have hmade : R d _ := IsTrans.trans _ _ _ (hreport d (.received p.action p.target p.fieldNames)) (hall _)
  rcases hr : (deliverAll lookup (route lookup nodes depth) p (targets nodes p)).run
    (d.note (.report (.received p.action p.target p.fieldNames))) with ⟨f | made, d'⟩ <;> rw [hr] at hmade
  · exact hmade
  · dsimp only
    split
    · exact IsTrans.trans _ _ _ hmade (hreport d' _)
    · exact hmade

end Moves

/-- A relation between desks that every single step of a routing over some nodes keeps. -/
structure Routing.Kept (nodes : List (NodeId × Node)) (R : Desk → Desk → Prop) : Prop extends IsPreorder Desk R where
  report : ∀ d r, R d (d.note (.report r))
  read : ∀ d id value, R d (d.note (.read id value))
  raised : ∀ d f, R d (d.note (.raised f))
  called : ∀ d t p value, (t.id, t.node) ∈ nodes → matchEvent t.node.kind t.listener.event p = .ok (.accepted value) →
    R d (d.called t value)

namespace Routing.Kept

variable {nodes : List (NodeId × Node)} {R : Desk → Desk → Prop} {lookup : Lookup}
  {routeInner : Payload → Routing (List Dispatch)}

/-- Following a script keeps what the routings inside of it keep. -/
theorem follow (h : Kept nodes R) (hin : ∀ p, Moves R (routeInner p)) (script : Script) :
    Moves R (follow lookup routeInner script) := by
  have := h.toIsPreorder
  -- a script is a tree that branches on what is read and on what comes of routings, so the hypotheses are about
  -- every answer
  induction script with
  | done => exact .of_pure ()
  | raise f => exact .of_throw f
  | read id next ih =>
    intro d
    rw [run_follow_read]
    exact IsTrans.trans _ _ _ (h.read d id _) (ih _ _)
  | send p next ih =>
    intro d
    rw [run_follow_send]
    exact IsTrans.trans _ _ _ (hin p d) (ih _ _)

theorem callback (h : Kept nodes R) (hin : ∀ p, Moves R (routeInner p)) {p : Payload} {t : Target}
    {value : Option Value} (ht : (t.id, t.node) ∈ nodes)
    (hm : matchEvent t.node.kind t.listener.event p = .ok (.accepted value)) :
    Moves R (callback lookup routeInner t value) := by
  intro d
  have hscript : Moves R (Routing.follow lookup routeInner (d.scriptOf t value)) :=
    h.follow hin _
  have hfollow := h.trans _ _ _ (h.called d t p value ht hm) (hscript _)
  rw [run_callback]
  rcases hr : (Routing.follow lookup routeInner (d.scriptOf t value)).run (d.called t value)
    with ⟨f | ⟨⟩, d'⟩ <;> rw [hr] at hfollow
  · exact h.trans _ _ _ hfollow (h.raised d' f)
  · exact hfollow

theorem deliver (h : Kept nodes R) (hin : ∀ p, Moves R (routeInner p)) (p : Payload) {t : Target}
    (ht : (t.id, t.node) ∈ nodes) : Moves R (deliver lookup routeInner p t) := by
  intro d
  rw [run_deliver]
  rcases hm : matchEvent t.node.kind t.listener.event p with n | (_ | raw | value)
  · exact h.refl d
  · exact h.refl d
  · exact h.report d _
  · have hcallback : Moves R (Routing.callback lookup routeInner t value) := h.callback hin ht hm
    have hcall := hcallback d
    dsimp only
    rcases hr : (Routing.callback lookup routeInner t value).run d with ⟨f | ⟨⟩, d'⟩ <;> rw [hr] at hcall
    · exact hcall
    · exact h.trans _ _ _ hcall (h.report d' _)

/-- A routing keeps what its steps keep, however deep callbacks have events routed. -/
theorem route (h : Kept nodes R) (lookup : Lookup) : ∀ (depth : Nat) (p : Payload), Moves R (route lookup nodes depth p)
  | 0, p => fun d => h.refl d
  | depth + 1, p => by
    have := h.toIsPreorder
    exact moves_route h.report
      (moves_deliverAll _ fun t ht => h.deliver (h.route lookup depth) p (mem_targets ht).1)

end Routing.Kept

end Overlay
