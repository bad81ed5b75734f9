/-
Routing on desks that agree. Of what it finds on its desk a routing looks at the cache and at the calls made
before, and at nothing else in the log: where these are the same, so are the dispatches, and after them the
cache and the calls again.
-/
import Overlay.Proofs.Event.Routing

namespace Overlay

/-- Two desks with one cache and one list of calls; what else is in the logs may differ. -/
structure Desk.Agree (d d' : Desk) : Prop where
  cache : d'.cache = d.cache
  calls : d'.log.calls = d.log.calls

namespace Desk.Agree

variable {d d' : Desk}

theorem note (h : d.Agree d') (e : Entry) : (d.note e).Agree (d'.note e) := by
  refine ⟨h.cache, ?_⟩
  have hcalls := h.calls
  unfold Log.calls at hcalls ⊢
  simp only [Desk.note, List.filterMap_append, hcalls]

theorem remembered (h : d.Agree d') (userId : Option String) (value : Option Value) :
    d'.remembered userId value = d.remembered userId value := by
  unfold Desk.remembered
  rw [h.cache]

theorem scriptOf (h : d.Agree d') (t : Target) (value : Option Value) : d'.scriptOf t value = d.scriptOf t value := by
  unfold Desk.scriptOf
  rw [h.calls]

theorem called (h : d.Agree d') (t : Target) (value : Option Value) : (d.called t value).Agree (d'.called t value) := by
  have hcache := h.remembered t.node.userId value
  have hcall : d'.callOf t value = d.callOf t value := by
    unfold Desk.callOf
    rw [hcache]
  have hnote := h.note (.call (d.callOf t value))
  refine ⟨hcache, ?_⟩
  unfold Desk.called
  rw [hcall]
  exact hnote.calls

end Desk.Agree

/-! ## What is the same on desks that agree -/

/-- A routing gives the same on desks that agree, and leaves desks that agree. -/
def Routing.Replays {α : Type} (x : Routing α) : Prop :=
  ∀ d d' : Desk, d.Agree d' → (x.run d').1 = (x.run d).1 ∧ (x.run d).2.Agree (x.run d').2

namespace Routing.Replays

variable {α β : Type} {lookup : Lookup} {routeInner : Payload → Routing (List Dispatch)}

theorem of_pure (a : α) : Replays (pure a : Routing α) := fun _ _ h => ⟨rfl, h⟩

theorem of_throw (f : Failure) : Replays (throw f : Routing α) := fun _ _ h => ⟨rfl, h⟩

theorem of_report (r : Report) : Replays (report r) := fun _ _ h => ⟨rfl, h.note _⟩

theorem bind {x : Routing α} {f : α → Routing β} (hx : Replays x) (hf : ∀ a, Replays (f a)) : Replays (x >>= f) := by
  intro d d' h
  obtain ⟨hr, ha⟩ := hx d d' h
  rw [run_bind, run_bind]
  rcases h₁ : x.run d with ⟨e | a, t⟩ <;> rcases h₂ : x.run d' with ⟨e' | a', t'⟩ <;> rw [h₁, h₂] at hr ha <;> cases hr
  · exact ⟨rfl, ha⟩
  · exact hf a t t' ha

theorem follow (hin : ∀ p, Replays (routeInner p)) (script : Script) : Replays (follow lookup routeInner script) := by
  induction script with
  | done => exact of_pure ()
  | raise f => exact of_throw f
  | read id next ih =>
    intro d d' h
    -- both read the same value from the one cache, so both scripts go on alike
    rw [run_follow_read, run_follow_read, h.cache]
    exact ih _ _ _ (h.note _)
  | send p next ih =>
    intro d d' h
    obtain ⟨hr, ha⟩ := hin p d d' h
    -- both are told the same, so here too both scripts go on alike
    rw [run_follow_send, run_follow_send, hr]
    exact ih _ _ _ ha

theorem callback (hin : ∀ p, Replays (routeInner p)) (t : Target) (value : Option Value) :
    Replays (callback lookup routeInner t value) := by
  intro d d' h
  have hscript : Replays (Routing.follow lookup routeInner (d.scriptOf t value)) := follow hin _
  obtain ⟨hr, ha⟩ := hscript _ _ (h.called t value)
  rw [run_callback, run_callback, h.scriptOf]
  rcases h₁ : (Routing.follow lookup routeInner (d.scriptOf t value)).run (d.called t value) with ⟨f | ⟨⟩, s⟩ <;>
    rcases h₂ : (Routing.follow lookup routeInner (d.scriptOf t value)).run (d'.called t value) with ⟨f' | ⟨⟩, s'⟩ <;>
    rw [h₁, h₂] at hr ha <;> cases hr
  · exact ⟨rfl, ha.note _⟩
  · exact ⟨rfl, ha⟩

theorem deliver (hin : ∀ p, Replays (routeInner p)) (p : Payload) (t : Target) :
    Replays (deliver lookup routeInner p t) := by
  intro d d' h
  rw [run_deliver, run_deliver]
  rcases matchEvent t.node.kind t.listener.event p with n | (_ | raw | value)
  · exact ⟨rfl, h⟩
  · exact ⟨rfl, h⟩
  · exact ⟨rfl, h.note _⟩
  · have hcall : Replays (Routing.callback lookup routeInner t value) := callback hin t value
    obtain ⟨hr, ha⟩ := hcall d d' h
    dsimp only
    rcases h₁ : (Routing.callback lookup routeInner t value).run d with ⟨f | ⟨⟩, s⟩ <;>
      rcases h₂ : (Routing.callback lookup routeInner t value).run d' with ⟨f' | ⟨⟩, s'⟩ <;>
      rw [h₁, h₂] at hr ha <;> cases hr
    · exact ⟨rfl, ha⟩
    · exact ⟨rfl, ha.note _⟩

theorem deliverAll (hin : ∀ p, Replays (routeInner p)) (p : Payload) :
    ∀ ts : List Target, Replays (deliverAll lookup routeInner p ts)
  | [] => of_pure []
  | t :: ts => bind (deliver hin p t) fun _ => bind (deliverAll hin p ts) fun _ => of_pure _

/-- A routing goes alike on desks that agree, however deep callbacks have events routed. -/
theorem route (lookup : Lookup) (nodes : List (NodeId × Node)) :
    ∀ (depth : Nat) (p : Payload), Replays (route lookup nodes depth p)
  | 0, _ => of_throw _
  | depth + 1, p => by
    refine bind (of_report _) fun _ => bind (deliverAll (route lookup nodes depth) p _) fun made => ?_
    dsimp only
    split
    · exact bind (of_report _) fun _ => of_pure made
    · exact of_pure made

end Routing.Replays

end Overlay
