/-
When the cache is written. A value stands in the cache at the moment when a callback is called with it, whatever
other callbacks have written before. Where callbacks have nothing routed, an event writes under the user ids of
its targets and nowhere else, and it writes nothing if no listener for changed values hears a value; it does not
matter whether a callback gives up.
-/
import Overlay.Proofs.Event.Matching
import Overlay.Proofs.Event.Written

namespace Overlay

open Routing

/-! ## The cache that a call finds -/

/-- A desk with more in its log, where the new calls have a property. -/
def Desk.AddsCalls (P : Call → Prop) (d d' : Desk) : Prop := ∃ new, d'.log = d.log ++ new ∧ ∀ c ∈ Log.calls new, P c

namespace Desk

variable {P : Call → Prop}

theorem addsCalls_note {e : Entry} (he : ∀ c ∈ Log.calls [e], P c) (d : Desk) : d.AddsCalls P (d.note e) :=
  ⟨[e], rfl, he⟩

theorem AddsCalls.trans {d d' d'' : Desk} (h : d.AddsCalls P d') (h' : d'.AddsCalls P d'') : d.AddsCalls P d'' := by
  obtain ⟨new, hlog, hnew⟩ := h
  obtain ⟨new', hlog', hnew'⟩ := h'
  refine ⟨new ++ new', by rw [hlog', hlog, List.append_assoc], fun c hc => ?_⟩
  rw [Log.calls_append] at hc
  exact (List.mem_append.1 hc).elim (hnew c) (hnew' c)

/-- A routing keeps a property of all calls if each call has it that a listener is given. -/
theorem addsCalls_kept {nodes : List (NodeId × Node)}
    (h : ∀ (d : Desk) (t : Target) p value, (t.id, t.node) ∈ nodes →
      matchEvent t.node.kind t.listener.event p = .ok (.accepted value) → P (d.callOf t value)) :
    Kept nodes (AddsCalls P) where
  refl _ := ⟨[], (List.append_nil _).symm, by simp [Log.calls]⟩
  trans _ _ _ h h' := h.trans h'
  report d r := addsCalls_note (by simp [Log.calls]) d
  read d _ _ := addsCalls_note (by simp [Log.calls]) d
  raised d _ := addsCalls_note (by simp [Log.calls]) d
  called d t p value ht hm := by
    refine ⟨[.call (d.callOf t value)], rfl, fun c hc => ?_⟩
    rw [List.mem_singleton.1 (show c ∈ [d.callOf t value] from hc)]
    exact h d t p value ht hm

end Desk

/-- A call with a changed value finds this value in the cache, under the user id of its node. -/
def Store.FindsValue (s : Store) (c : Call) : Prop :=
  c.event = .valueChanged → ∃ v, c.value = some v ∧ ∀ id, (s.node c.node).userId = some id → c.cache.value id = some v

theorem Store.findsValue_callOf {s : Store} {t : Target} (ht : t.node = s.node t.id) {p : Payload}
    {value : Option Value} (hm : matchEvent t.node.kind t.listener.event p = .ok (.accepted value)) (d : Desk) :
    s.FindsValue (d.callOf t value) := by
  intro he
  rcases matchEvent_accepted hm with ⟨he', -⟩ | ⟨-, raw, v, -, rfl⟩
  · cases he.symm.trans he'
  · refine ⟨v, rfl, fun id hid => ?_⟩
    have huser : t.node.userId = some id := by rw [ht]; exact hid
    show (d.remembered t.node.userId (some v)).value id = some v
    rw [huser]
    show ((d.cache.put id (some v)).get? id).join = some v
    rw [Bag.get?_put, if_pos rfl]
    rfl

/-! ## Callbacks that have nothing routed -/

/-- What reads values and then returns or gives up. -/
inductive Script.RoutesNothing : Script → Prop
  | done : RoutesNothing .done
  | raise (f : Failure) : RoutesNothing (.raise f)
  | read {id : String} {next : Option Value → Script} (h : ∀ value, RoutesNothing (next value)) :
    RoutesNothing (.read id next)

def Callback.RoutesNothing (c : Callback) : Prop := ∀ calls value, (c.script calls value).RoutesNothing

/-- An event has listeners of its targets called that have nothing routed. -/
def Payload.EndsAtTargets (p : Payload) (nodes : List (NodeId × Node)) : Prop :=
  ∀ n ∈ nodes, n.2.IsTarget p → ∀ l ∈ n.2.listeners, l.callback.RoutesNothing

/-- An entry that an event itself writes: a value that a listener of one of its targets hears. -/
def Payload.Writes (p : Payload) (nodes : List (NodeId × Node)) (e : String × Option Value) : Prop :=
  ∃ n ∈ nodes, n.2.IsTarget p ∧ n.2.userId = some e.1 ∧
    ∃ l ∈ n.2.listeners, l.event = .valueChanged ∧ ∃ v, n.2.heard? l p = some (some v) ∧ e.2 = some v

namespace Desk

/-- A desk with a cache in which some entries were written. -/
def Writes (P : String × Option Value → Prop) (d d' : Desk) : Prop := ∃ es, d'.cache = d.cache.putAll es ∧ ∀ e ∈ es, P e

variable {P : String × Option Value → Prop}

theorem writes_of_cache_eq {d d' : Desk} (h : d'.cache = d.cache) : d.Writes P d' := ⟨[], h, by simp⟩

instance : IsPreorder Desk (Writes P) where
  refl d := writes_of_cache_eq rfl
  trans d d' d'' h h' := by
    obtain ⟨es, hcache, hes⟩ := h
    obtain ⟨es', hcache', hes'⟩ := h'
    refine ⟨es ++ es', by rw [hcache', hcache, Bag.putAll_append], fun e he => ?_⟩
    exact (List.mem_append.1 he).elim (hes e) (hes' e)

end Desk

variable {lookup : Lookup} {nodes : List (NodeId × Node)} {p : Payload}

theorem cache_follow {routeInner : Payload → Routing (List Dispatch)} {script : Script} (h : script.RoutesNothing) :
    ∀ d : Desk, ((follow lookup routeInner script).run d).2.cache = d.cache := by
  induction h with
  | done => exact fun d => rfl
  | raise f => exact fun d => rfl
  | read _ ih =>
    intro d
    rw [run_follow_read, ih]
    rfl

/-- A callback that has nothing routed leaves the cache as it has found it. -/
theorem cache_callback {routeInner : Payload → Routing (List Dispatch)} {t : Target}
    (h : t.listener.callback.RoutesNothing) (value : Option Value) (d : Desk) :
    ((callback lookup routeInner t value).run d).2.cache = d.remembered t.node.userId value := by
  have hfollow : ((follow lookup routeInner (d.scriptOf t value)).run (d.called t value)).2.cache =
      d.remembered t.node.userId value := cache_follow (h _ _) _
  rw [run_callback]
  rcases hr : (follow lookup routeInner (d.scriptOf t value)).run (d.called t value)
    with ⟨f | ⟨⟩, d'⟩ <;> rw [hr] at hfollow <;> exact hfollow

/-- Delivering an event to a target writes what the listener hears, if its callback has nothing routed. -/
theorem deliver_writes {routeInner : Payload → Routing (List Dispatch)} (hp : p.EndsAtTargets nodes) {t : Target}
    (ht : t ∈ targets nodes p) : Moves (Desk.Writes (p.Writes nodes)) (deliver lookup routeInner p t) := by
  intro d
  obtain ⟨hnode, hlistener⟩ := mem_targets ht
  have htarget := isTarget_of_mem_targets ht
  rw [run_deliver]
  rcases hm : matchEvent t.node.kind t.listener.event p with e | (_ | raw | value)
  · exact refl d
  · exact refl d
  · exact Desk.writes_of_cache_eq rfl
  · have hcache : ((callback lookup routeInner t value).run d).2.cache = d.remembered t.node.userId value :=
      cache_callback (hp _ hnode htarget _ hlistener) value d
    have hwrites : d.Writes (p.Writes nodes) ((callback lookup routeInner t value).run d).2 := by
      rcases matchEvent_accepted hm with ⟨-, rfl⟩ | ⟨he, raw, v, -, rfl⟩
      · refine Desk.writes_of_cache_eq (hcache.trans ?_)
        rcases t.node.userId with _ | id <;> rfl
      · rcases hu : t.node.userId with _ | id <;> rw [hu] at hcache
        · exact Desk.writes_of_cache_eq hcache
        · refine ⟨[(id, some v)], hcache, fun e hmem => ?_⟩
          rw [List.mem_singleton.1 hmem]
          exact ⟨_, hnode, htarget, hu, _, hlistener, he, v, (heard?_of_matchEvent hm).1, rfl⟩
    dsimp only
    rcases hr : (callback lookup routeInner t value).run d with ⟨f | ⟨⟩, d'⟩ <;> rw [hr] at hwrites
    · exact hwrites
    · exact IsTrans.trans _ _ _ hwrites (Desk.writes_of_cache_eq rfl)

theorem route_writes (hp : p.EndsAtTargets nodes) : ∀ depth : Nat,
    Moves (Desk.Writes (p.Writes nodes)) (route lookup nodes depth p)
  | 0 => .of_throw _
  | _ + 1 => moves_route (fun _ _ => Desk.writes_of_cache_eq rfl)
      (moves_deliverAll _ fun _ ht => deliver_writes hp ht)

/-- An event that is for nobody, that is no change, or whose field is not there or cannot be read by any of its
targets. -/
inductive Payload.CarriesNothing (p : Payload) (nodes : List (NodeId × Node)) : Prop
  | unknownTarget (h : ∀ n ∈ nodes, ¬ n.2.IsTarget p)
  | otherAction (h : p.action ≠ "ValueChanged")
  | missingField (h : ∀ n ∈ nodes, n.2.IsTarget p → p.value? n.2.kind.valueField.name = none)
  | unreadable (h : ∀ n ∈ nodes, n.2.IsTarget p → ∀ raw, p.value? n.2.kind.valueField.name = some raw →
      ∀ v, n.2.kind.readValue raw ≠ .ok (some v))

/-- What a listener for changed values hears is read from the field of an event that is a change. -/
theorem Node.heard?_value {n : Node} {l : Listener} {v : Value} (hl : l.event = .valueChanged)
    (h : n.heard? l p = some (some v)) :
    p.action = "ValueChanged" ∧
      ∃ raw, p.value? n.kind.valueField.name = some raw ∧ n.kind.readValue raw = .ok (some v) := by
  unfold heard? at h
  rw [hl] at h
  dsimp only at h
  split at h
  · rename_i ha
    obtain ⟨raw, hraw, h⟩ := Option.bind_eq_some_iff.1 h
    refine ⟨ha, raw, hraw, ?_⟩
    rcases hread : n.kind.readValue raw with e | (_ | w) <;> rw [hread] at h <;> cases h
    rfl
  · cases h

theorem Payload.CarriesNothing.not_heard (h : p.CarriesNothing nodes) : ∀ n ∈ nodes, n.2.IsTarget p →
    ∀ l ∈ n.2.listeners, l.event = .valueChanged → ∀ v, n.2.heard? l p ≠ some (some v) := by
  intro n hn ht l _ hl v hheard
  obtain ⟨haction, raw, hraw, hread⟩ := Node.heard?_value hl hheard
  cases h with
  | unknownTarget h => exact h n hn ht
  | otherAction h => exact h haction
  | missingField h => cases (h n hn ht).symm.trans hraw
  | unreadable h => exact h n hn ht raw hraw v hread

/-- However callbacks read, have events routed and give up, a call with a changed value finds it in the cache. If
the callbacks of an event have nothing routed, the event writes to the cache under the user ids of its targets only,
and leaves the whole cache alone if no listener for changed values on a target hears a value; this is so if the
event is for nobody, if it is no change, and if its field is missing or cannot be read. -/
theorem cache_written_for_calls (s : Store) (roots : List NodeId) (lookup : Lookup) (depth : Nat) (p : Payload)
    (d : Desk) :
    (∃ new, ((route lookup (s.walk roots) depth p).run d).2.log = d.log ++ new ∧
      ∀ c ∈ Log.calls new, s.FindsValue c) ∧
    (p.EndsAtTargets (s.walk roots) →
      (∃ es, ((route lookup (s.walk roots) depth p).run d).2.cache = d.cache.putAll es ∧
        ∀ e ∈ es, ∃ n ∈ s.walk roots, n.2.IsTarget p ∧ n.2.userId = some e.1) ∧
      (∀ id, ((route lookup (s.walk roots) depth p).run d).2.cache.get? id ≠ d.cache.get? id →
        ∃ n ∈ s.walk roots, n.2.IsTarget p ∧ n.2.userId = some id) ∧
      ((∀ n ∈ s.walk roots, n.2.IsTarget p → ∀ l ∈ n.2.listeners, l.event = .valueChanged →
          ∀ v, n.2.heard? l p ≠ some (some v)) →
        ((route lookup (s.walk roots) depth p).run d).2.cache = d.cache) ∧
      (p.CarriesNothing (s.walk roots) → ((route lookup (s.walk roots) depth p).run d).2.cache = d.cache)) := by
  have hcontent := s.walk_content roots
  have hcalls : Kept (s.walk roots) (Desk.AddsCalls s.FindsValue) :=
    Desk.addsCalls_kept fun d t _ _ ht hm => Store.findsValue_callOf (hcontent _ ht) hm d
  refine ⟨hcalls.route lookup depth p d, fun hp => ?_⟩
  obtain ⟨es, hcache, hes⟩ := route_writes hp depth d
  rw [hcache]
  have hunheard : (∀ n ∈ s.walk roots, n.2.IsTarget p → ∀ l ∈ n.2.listeners, l.event = .valueChanged →
      ∀ v, n.2.heard? l p ≠ some (some v)) → d.cache.putAll es = d.cache := by
    intro hnot
    have hnil : es = [] := by
      refine List.eq_nil_iff_forall_not_mem.2 fun e he => ?_
      obtain ⟨n, hn, ht, -, l, hl, hevent, v, hheard, -⟩ := hes e he
      exact hnot n hn ht l hl hevent v hheard
    rw [hnil]
    rfl
  refine ⟨⟨es, rfl, fun e he => ?_⟩, fun id hne => ?_, hunheard, fun h => hunheard h.not_heard⟩
  · obtain ⟨n, hn, ht, hu, -⟩ := hes e he
    exact ⟨n, hn, ht, hu⟩
  · -- a key that no entry has keeps its value
    rw [Bag.get?_putAll] at hne
    rcases hf : es.reverse.find? (·.1 = id) with _ | e <;> rw [hf] at hne
    · exact absurd rfl hne
    · obtain ⟨n, hn, ht, hu, -⟩ := hes e (List.mem_reverse.1 (List.mem_of_find?_eq_some hf))
      have hid : e.1 = id := by simpa using List.find?_some hf
      exact ⟨n, hn, ht, hid ▸ hu⟩

/-- The engine's event for the slider that is moved to seven. -/
def volumeMoved : Payload := ⟨"ValueChanged", some "volume", Bag.ofList [("Value", "7")]⟩

theorem routesNothing_idle (id : Nat) : (idle id).RoutesNothing := fun _ _ => .done

/-- A move of the slider leaves the checkbox its value. -/
theorem cache_written_for_calls_volume :
    volumeMoved.EndsAtTargets (preparedMixer.walk [0, 1]) ∧
    ((route .own (preparedMixer.walk [0, 1]) 1 volumeMoved).run
      ⟨Bag.ofList [("mute", some (.bool true))], []⟩).2.cache.get? "mute" = some (some (.bool true)) := by
  have hends : volumeMoved.EndsAtTargets (preparedMixer.walk [0, 1]) := by
    rw [walk_preparedMixer]
    intro n hn _ l hl
    simp only [List.mem_cons, List.not_mem_nil, or_false] at hn
    rcases hn with rfl | rfl
    · simp only [volume, List.mem_cons, List.not_mem_nil, or_false] at hl
      rcases hl with rfl | rfl | rfl <;> exact routesNothing_idle _
    · rw [List.mem_singleton.1 hl]
      exact routesNothing_idle 3
  refine ⟨hends, ?_⟩
  obtain ⟨-, hwrites⟩ := cache_written_for_calls preparedMixer [0, 1] .own 1 volumeMoved
    ⟨Bag.ofList [("mute", some (.bool true))], []⟩
  obtain ⟨-, hkept, -⟩ := hwrites hends
  by_contra hne
  obtain ⟨n, hn, ht, hu⟩ := hkept "mute" hne
  rw [walk_preparedMixer] at hn
  simp only [List.mem_cons, List.not_mem_nil, or_false] at hn
  rcases hn with rfl | rfl
  · exact absurd hu (by decide)
  · exact absurd ht.2 (by decide)

end Overlay
