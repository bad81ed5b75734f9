/-
What routing writes. A routing adds calls to the log, and to the cache exactly what these calls wrote, in
their order: a call of a listener for changed values has written its value under the user id of its node. It
does not matter how the routing ends, for a value is written just before the call that carries it. Below prepared
roots a user id then has the value of the latest call on its node.
-/
import Overlay.Proofs.Element.Find
import Overlay.Proofs.Event.Routing
import Mathlib.Data.List.Find

namespace Overlay

/-! ## Calls and what they wrote -/

/-- The entry of the cache that a call wrote, if its listener waits for changed values and its node has a
user id. -/
def Store.entryOf? (s : Store) (c : Call) : Option (String × Option Value) :=
  if c.event = .valueChanged then (s.node c.node).userId.map (·, c.value) else none

theorem Store.entryOf?_eq_some {s : Store} {c : Call} {e : String × Option Value} :
    s.entryOf? c = some e ↔ c.event = .valueChanged ∧ (s.node c.node).userId = some e.1 ∧ c.value = e.2 := by
  obtain ⟨id, value⟩ := e
  unfold Store.entryOf?
  by_cases hc : c.event = .valueChanged <;> simp [hc]

/-- A call on one of some nodes; a changed value is one that the node's kind has read from a raw text. -/
def Call.Fits (nodes : List (NodeId × Node)) (c : Call) : Prop :=
  ∃ n ∈ nodes, n.1 = c.node ∧
    (c.event = .valueChanged → ∃ raw v, n.2.kind.readValue raw = .ok (some v) ∧ c.value = some v)

/-- A desk that has seen more calls on some nodes, and whose cache holds what they wrote. -/
def Desk.Grown (s : Store) (nodes : List (NodeId × Node)) (d d' : Desk) : Prop :=
  ∃ calls, d'.log.calls = d.log.calls ++ calls ∧ d'.cache = d.cache.putAll (calls.filterMap s.entryOf?) ∧
    ∀ c ∈ calls, c.Fits nodes

/-- A match carries no value to an activating listener, and to a listener for changed values one that its
kind has read. -/
theorem matchEvent_accepted {kind : Kind} {event : EventKind} {p : Payload} {value : Option Value}
    (h : matchEvent kind event p = .ok (.accepted value)) :
    (event = .activating ∧ value = none) ∨
    (event = .valueChanged ∧ ∃ raw v, kind.readValue raw = .ok (some v) ∧ value = some v) := by
  unfold matchEvent at h
  split at h
  · cases h
  · cases event with
    | activating =>
      cases h
      exact .inl ⟨rfl, rfl⟩
    | valueChanged =>
      dsimp only at h
      split at h
      · cases h
      · rename_i raw _
        obtain ⟨r, hread, hr⟩ := map_eq_ok h
        cases r with
        | none => cases hr
        | some v =>
          cases hr
          exact .inr ⟨rfl, raw, v, hread, rfl⟩

namespace Desk

variable {s : Store} {nodes : List (NodeId × Node)} {d d' d'' : Desk}

/-! ## Growing -/

theorem Grown.refl (s : Store) (nodes : List (NodeId × Node)) (d : Desk) : d.Grown s nodes d :=
  ⟨[], by simp, rfl, by simp⟩

theorem Grown.trans (h : d.Grown s nodes d') (h' : d'.Grown s nodes d'') : d.Grown s nodes d'' := by
  obtain ⟨calls, hcalls, hcache, hfits⟩ := h
  obtain ⟨calls', hcalls', hcache', hfits'⟩ := h'
  refine ⟨calls ++ calls', ?_, ?_, ?_⟩
  · rw [hcalls', hcalls, List.append_assoc]
  · rw [hcache', hcache, List.filterMap_append, Bag.putAll_append]
  · intro c hc
    exact (List.mem_append.1 hc).elim (hfits c) (hfits' c)

/-- An entry that is no call changes nothing that counts. -/
theorem grown_note {e : Entry} (he : Log.calls [e] = []) (d : Desk) : d.Grown s nodes (d.note e) := by
  refine ⟨[], ?_, rfl, by simp⟩
  show Log.calls (d.log ++ [e]) = _
  unfold Log.calls at he ⊢
  rw [List.filterMap_append, he]

/-- When a callback begins, its value has been written and its call noted. -/
theorem grown_called {t : Target} {p : Payload} {value : Option Value} (hnode : t.node = s.node t.id)
    (ht : (t.id, t.node) ∈ nodes) (hm : matchEvent t.node.kind t.listener.event p = .ok (.accepted value)) (d : Desk) :
    d.Grown s nodes (d.called t value) := by
  refine ⟨[d.callOf t value], ?_, ?_, ?_⟩
  · show Log.calls (d.log ++ [.call (d.callOf t value)]) = _
    unfold Log.calls
    rw [List.filterMap_append]
    rfl
  · show d.remembered t.node.userId value = _
    unfold remembered Store.entryOf? callOf
    -- an activating listener has no value, so nothing is remembered and its call has no entry
    rcases matchEvent_accepted hm with ⟨he, rfl⟩ | ⟨he, raw, v, -, rfl⟩
    · simp [he, Bag.putAll]
    · rcases hu : t.node.userId with _ | id <;> simp [he, ← hnode, hu, Bag.putAll]
  · intro c hc
    rw [List.mem_singleton.1 hc]
    refine ⟨(t.id, t.node), ht, rfl, fun he => ?_⟩
    rcases matchEvent_accepted hm with ⟨he', -⟩ | ⟨-, raw, v, hread, rfl⟩
    · rw [show t.listener.event = .valueChanged from he] at he'
      cases he'
    · exact ⟨raw, v, hread, rfl⟩

/-- Every step of a routing over nodes of a store only makes the desk grow. -/
theorem grown_kept (hnodes : ∀ n ∈ nodes, n.2 = s.node n.1) : Routing.Kept nodes (Grown s nodes) where
  refl := Grown.refl s nodes
  trans _ _ _ h h' := h.trans h'
  report d _ := grown_note rfl d
  read d _ _ := grown_note rfl d
  raised d _ := grown_note rfl d
  called d _ _ _ ht hm := grown_called (hnodes _ ht) ht hm d

end Desk

/-- Routing an event makes the desk grow, however deep callbacks have events routed and however it ends. -/
theorem route_grown {s : Store} {nodes : List (NodeId × Node)} (hnodes : ∀ n ∈ nodes, n.2 = s.node n.1)
    (lookup : Lookup) (depth : Nat) (p : Payload) (d : Desk) :
    d.Grown s nodes ((route lookup nodes depth p).run d).2 :=
  (Desk.grown_kept hnodes).route lookup depth p d

/-! ## Values by user id -/

/-- The entry that was written last for a user id is that of its node's latest change. -/
theorem Store.Prepared.find?_entries {s : Store} {roots : List NodeId} (h : s.Prepared roots) {n : NodeId × Node}
    (hn : n ∈ s.walk roots) {id : String} (hid : n.2.userId = some id) {calls : List Call}
    (hfits : ∀ c ∈ calls, c.Fits (s.walk roots)) :
    (calls.filterMap s.entryOf?).reverse.find? (·.1 = id) =
      (calls.reverse.find? fun c => c.node = n.1 ∧ c.event = .valueChanged).map fun c => (id, c.value) := by
  have hcontent := s.walk_content roots
  -- a call wrote under the user id exactly if it was a change of the node
  have hkey : ∀ c ∈ calls.reverse, ((s.entryOf? c).any fun e => decide (e.1 = id)) =
      decide (c.node = n.1 ∧ c.event = .valueChanged) := by
    intro c hc
    obtain ⟨m, hm, hcm, -⟩ := hfits c (List.mem_reverse.1 hc)
    rw [Bool.eq_iff_iff, Option.any_eq_true, decide_eq_true_eq]
    constructor
    · rintro ⟨e, he, hei⟩
      obtain ⟨hchange, hu, -⟩ := Store.entryOf?_eq_some.1 he
      rw [of_decide_eq_true hei, ← hcm, ← hcontent m hm] at hu
      have hmn : m = n := h.eq_of_userId hm hn hu hid
      exact ⟨by rw [← hcm, hmn], hchange⟩
    · rintro ⟨hcn, hchange⟩
      refine ⟨(id, c.value), Store.entryOf?_eq_some.2 ⟨hchange, ?_, rfl⟩, by simp⟩
      rw [hcn, ← hcontent n hn]
      exact hid
  rw [← List.filterMap_reverse, List.find?_filterMap, List.find?_congr hkey]
  rcases hf : calls.reverse.find? (fun c => c.node = n.1 ∧ c.event = .valueChanged) with _ | c <;> rw [hf]
  · rfl
  · have hc : c.node = n.1 ∧ c.event = .valueChanged := by simpa using List.find?_some hf
    obtain ⟨hcn, hchange⟩ := hc
    refine Store.entryOf?_eq_some.2 ⟨hchange, ?_, rfl⟩
    rw [hcn, ← hcontent n hn]
    exact hid

end Overlay
