/-
Which value the cache ends with. Before each call a listener for changed values has the value of its event written
once more, so the cache ends with the value of the call that was made last. That call need not be for the event
that was received last: an event that came while a callback was running is overtaken when the older event goes on
to a further listener of the same node. Where a node has one listener for changed values, this cannot be.
-/
import Overlay.Proofs.Event.Matching
import Overlay.Proofs.Event.Written

namespace Overlay

open Log Routing

/-! ## Changes -/

namespace Log

/-- A call of a listener for changed values on a node, as the number of its event and the value. -/
def change? (i : NodeId) : Nat × Entry → Option (Nat × Option Value)
  | (k, .call c) => if c.node = i ∧ c.event = .valueChanged then some (k, c.value) else none
  | _ => none

/-- The changes of a node, in the order of the calls. -/
def changes (l : Log) (i : NodeId) : List (Nat × Option Value) := l.byEvent.filterMap (change? i)

/-- A change for the event that was received last among those with a change of the node. -/
def NewestChange (l : Log) (i : NodeId) (x : Nat × Option Value) : Prop :=
  x ∈ l.changes i ∧ ∀ y ∈ l.changes i, y.1 ≤ x.1

/-- The last call was for an older event and brought back another value. -/
def Overtaken (l : Log) (i : NodeId) : Prop :=
  ∃ last newest, (l.changes i).getLast? = some last ∧ l.NewestChange i newest ∧ last.1 < newest.1 ∧ last.2 ≠ newest.2

theorem change?_eq_some {i : NodeId} {x : Nat × Entry} {y : Nat × Option Value} :
    change? i x = some y ↔ ∃ c : Call, x = (y.1, .call c) ∧ (c.node = i ∧ c.event = .valueChanged) ∧ c.value = y.2 := by
  obtain ⟨k, r | c | ⟨id, value⟩ | f | program⟩ := x
  · simp [change?]
  · obtain ⟨k', value⟩ := y
    by_cases hc : c.node = i ∧ c.event = .valueChanged <;> simp [change?, hc]
  · simp [change?]
  · simp [change?]
  · simp [change?]

/-- The value of an entry that is a change of a node. -/
def changedTo? (i : NodeId) : Entry → Option (Option Value)
  | .call c => if c.node = i ∧ c.event = .valueChanged then some c.value else none
  | _ => none

/-- Where a reader loses nothing, the values of the changes of a node are those of its calls. -/
theorem values_changes {l : Log} (h : l.byEvent.map Prod.snd = l.filter Entry.isAboutEvent) (i : NodeId) :
    (l.changes i).map Prod.snd = (l.calls.filter fun c => c.node = i ∧ c.event = .valueChanged).map Call.value := by
  have hchange : ∀ x : Nat × Entry, (change? i x).map Prod.snd = changedTo? i x.2 := by
    rintro ⟨k, r | c | ⟨id, value⟩ | f | program⟩
    · rfl
    · by_cases hc : c.node = i ∧ c.event = .valueChanged <;> simp [change?, changedTo?, hc]
    · rfl
    · rfl
    · rfl
  have hcalls : ∀ l : Log, l.filterMap (changedTo? i) =
      (calls l).filterMap fun c => if c.node = i ∧ c.event = .valueChanged then some c.value else none := by
    intro l
    unfold calls
    rw [List.filterMap_filterMap]
    refine List.filterMap_congr fun e _ => ?_
    cases e <;> rfl
  have habout : (l.filter Entry.isAboutEvent).filterMap (changedTo? i) = l.filterMap (changedTo? i) := by
    rw [List.filterMap_filter]
    refine List.filterMap_congr fun e _ => ?_
    cases e <;> rfl
  calc (l.changes i).map Prod.snd
    _ = l.byEvent.filterMap (changedTo? i ∘ Prod.snd) := by
      unfold changes
      rw [List.map_filterMap]
      exact List.filterMap_congr fun x _ => hchange x
    _ = l.filterMap (changedTo? i) := by rw [← List.filterMap_map, h, habout]
    _ = (l.calls.filter fun c => c.node = i ∧ c.event = .valueChanged).map Call.value := by
      rw [hcalls, ← List.filterMap_eq_map, List.filterMap_filter]
      refine List.filterMap_congr fun c _ => ?_
      by_cases hc : c.node = i ∧ c.event = .valueChanged <;> simp [hc]

end Log

/-! ## The event of a number -/

/-- An entry that fits an event: the receipt is that of the event, and a call is one of its targets, with the value
that the target accepts. -/
def Entry.Fits (nodes : List (NodeId × Node)) (p : Payload) : Entry → Prop
  | .report (.received action target fields) => .report (.received action target fields) = p.receipt
  | .call c => ∃ t ∈ targets nodes p, (∃ cache, c = t.call c.value cache) ∧
      matchEvent t.node.kind t.listener.event p = .ok (.accepted c.value)
  | _ => True

theorem fits_ending {nodes : List (NodeId × Node)} {p q : Payload} {made : List Dispatch} {through : Bool} {e : Entry}
    (h : e ∈ p.ending made through) : e.Fits nodes q := by
  unfold Payload.ending at h
  split at h
  · rw [List.mem_singleton.1 h]
    trivial
  · cases h

/-- A stage before whose numbers its event was received, and that delivers to targets of that event. -/
def Stage.Proper (nodes : List (NodeId × Node)) (n : Nat) : Stage → Prop
  | inside => True
  | delivering k p ts _ _ => k < n ∧ ∀ t ∈ ts, t ∈ targets nodes p

/-- Events by number, among them the one that is delivered at a stage. -/
def Stage.Sent (sent : Nat → Payload) : Stage → Prop
  | inside => True
  | delivering k p .. => sent k = p

/-- Events by number: those that were received within some bounds, and others. -/
def sentWithin (n n₁ : Nat) (f g : Nat → Payload) (m : Nat) : Payload := if n ≤ m ∧ m < n₁ then f m else g m

theorem sentWithin_inside {n n₁ m : Nat} (h : n ≤ m ∧ m < n₁) (f g : Nat → Payload) : sentWithin n n₁ f g m = f m :=
  if_pos h

theorem sentWithin_outside {n n₁ m : Nat} (h : m < n ∨ n₁ ≤ m) (f g : Nat → Payload) : sentWithin n n₁ f g m = g m :=
  if_neg fun hm => by omega

namespace Course

variable {nodes : List (NodeId × Node)} {stage : Stage} {n n' : Nat} {xs : List (Nat × Entry)}

/-- There is one event for each number, and entries under the number fit it. -/
theorem exists_sent (h : Course nodes stage n n' xs) :
    stage.Proper nodes n → ∃ sent : Nat → Payload, stage.Sent sent ∧ ∀ x ∈ xs, x.2.Fits nodes (sent x.1) := by
  induction h with
  | ended => exact fun _ => ⟨fun _ => ⟨"", none, ∅⟩, trivial, by simp⟩
  | @routed n n₁ n₂ p made through xs ys inner later ihInner ihLater =>
    intro _
    have hle := inner.le
    obtain ⟨f, hf, hinner⟩ := ihInner ⟨Nat.lt_succ_self n, fun _ ht => ht⟩
    obtain ⟨g, -, hlater⟩ := ihLater trivial
    refine ⟨sentWithin n n₁ f g, trivial, fun x hx => ?_⟩
    rw [List.mem_append, List.mem_append, List.mem_cons, List.mem_map] at hx
    rcases hx with ((rfl | hx) | ⟨e, he, rfl⟩) | hx
    · rw [sentWithin_inside ⟨Nat.le_refl n, hle⟩, hf]
      rfl
    · have hrange := inner.numbers_delivering hx
      rw [sentWithin_inside (by omega)]
      exact hinner x hx
    · exact fits_ending he
    · have hrange := later.numbers_inside hx
      rw [sentWithin_outside (.inr hrange.1)]
      exact hlater x hx
  | @delivered n k p => exact fun _ => ⟨fun _ => p, rfl, by simp⟩
  | @overlong n k p => exact fun _ => ⟨fun _ => p, rfl, by simp⟩
  | ignored _ _ ih => exact fun ⟨hk, ht⟩ => ih ⟨hk, fun t h => ht t (List.mem_cons_of_mem _ h)⟩
  | unreadable _ _ ih =>
    rintro ⟨hk, ht⟩
    obtain ⟨f, hf, hfits⟩ := ih ⟨hk, fun t h => ht t (List.mem_cons_of_mem _ h)⟩
    refine ⟨f, hf, fun x hx => ?_⟩
    rcases List.mem_cons.1 hx with rfl | hx
    · trivial
    · exact hfits x hx
  | @accepted n n₁ n₂ k p t ts made through xs ys value cache hm inner later ihInner ihLater =>
    rintro ⟨hk, ht⟩
    have hle := inner.le
    obtain ⟨f, -, hinner⟩ := ihInner trivial
    obtain ⟨g, hg, hlater⟩ := ihLater ⟨by omega, fun u hu => ht u (List.mem_cons_of_mem _ hu)⟩
    -- what is received inside of the call does not touch the event that is delivered
    have hown : sentWithin n n₁ f g k = p := by rw [sentWithin_outside (.inl hk), hg]
    refine ⟨sentWithin n n₁ f g, hown, fun x hx => ?_⟩
    rw [List.mem_append, List.mem_cons, List.mem_cons] at hx
    rcases hx with (rfl | hx) | (rfl | hx)
    · rw [hown]
      exact ⟨t, ht t (List.mem_cons_self ..), ⟨cache, rfl⟩, hm⟩
    · rw [sentWithin_inside (inner.numbers_inside hx)]
      exact hinner x hx
    · trivial
    · have hrange := later.numbers_delivering hx
      rw [sentWithin_outside (by omega)]
      exact hlater x hx
  | @raised n n' k p t ts xs value cache hm inner ih =>
    rintro ⟨hk, ht⟩
    obtain ⟨f, -, hinner⟩ := ih trivial
    have hown : sentWithin n n' f (fun _ => p) k = p := sentWithin_outside (.inl hk) f _
    refine ⟨sentWithin n n' f fun _ => p, hown, fun x hx => ?_⟩
    rcases List.mem_cons.1 hx with rfl | hx
    · rw [hown]
      exact ⟨t, ht t (List.mem_cons_self ..), ⟨cache, rfl⟩, hm⟩
    · rw [sentWithin_inside (inner.numbers_inside hx)]
      exact hinner x hx

end Course

/-! ## Nodes with one listener for changed values -/

/-- A dispatch to a listener for changed values on a node. -/
def Dispatch.Changes (m : Dispatch) (i : NodeId) : Prop := m.node = i ∧ m.listener.event = .valueChanged

/-- A stage at which a node changes with the first dispatch only. -/
def Stage.ChangesOnce (i : NodeId) (n : Nat) : Stage → Prop
  | inside => True
  | delivering k _ _ made _ => k < n ∧ ∀ m ∈ made.tail, ¬ m.Changes i

namespace Course

variable {nodes : List (NodeId × Node)} {stage : Stage} {n n' k : Nat} {p : Payload} {ts : List Target}
  {made : List Dispatch} {through : Bool} {xs : List (Nat × Entry)} {i : NodeId}

/-- The dispatches are what the targets accept, as far as the delivery gets. -/
theorem made_prefix : ∀ {n : Nat} {ts : List Target} {made : List Dispatch} {through : Bool} {xs : List (Nat × Entry)},
    Course nodes (.delivering k p ts made through) n n' xs → made <+: ts.filterMap (dispatch? p)
  | _, _, _, _, _, .delivered => List.nil_prefix
  | _, _, _, _, _, .overlong _ => List.nil_prefix
  | _, _, _, _, _, .ignored hm later => by
    rw [List.filterMap_cons, dispatch?, hm]
    exact later.made_prefix
  | _, _, _, _, _, .unreadable hm later => by
    rw [List.filterMap_cons, dispatch?, hm]
    exact later.made_prefix
  | _, _, _, _, _, .accepted hm _ later => by
    rw [List.filterMap_cons, dispatch?, hm]
    exact (List.prefix_cons_inj _).2 later.made_prefix
  | _, _, _, _, _, .raised hm _ => by
    rw [List.filterMap_cons, dispatch?, hm]
    exact (List.prefix_cons_inj _).2 List.nil_prefix

theorem mem_of_change {x : Nat × Option Value} (hx : x ∈ xs.filterMap (change? i)) : ∃ e, (x.1, e) ∈ xs := by
  obtain ⟨y, hy, hchange⟩ := List.mem_filterMap.1 hx
  obtain ⟨c, rfl, -⟩ := change?_eq_some.1 hchange
  exact ⟨_, hy⟩

/-- A change for the event that is delivered comes of a dispatch. -/
theorem exists_dispatch (h : Course nodes (.delivering k p ts made through) n n' xs) (hk : k < n) {value : Option Value}
    (hx : (k, value) ∈ xs.filterMap (change? i)) : ∃ m ∈ made, m.Changes i := by
  obtain ⟨x, hmem, hchange⟩ := List.mem_filterMap.1 hx
  obtain ⟨c, rfl, ⟨hnode, hevent⟩, -⟩ := change?_eq_some.1 hchange
  have hcall : c ∈ Log.calls ((xs.filter (·.1 = k)).map Prod.snd) :=
    List.mem_filterMap.2 ⟨.call c, List.mem_map.2 ⟨_, List.mem_filter.2 ⟨hmem, by simp⟩, rfl⟩, rfl⟩
  have hline : c.line ∈ made.map Dispatch.line := by
    rw [← h.own_calls hk]
    exact List.mem_map_of_mem hcall
  obtain ⟨m, hm, heq⟩ := List.mem_map.1 hline
  obtain ⟨hn, he, -, -⟩ := Made.mk.inj heq
  exact ⟨m, hm, hn.trans hnode, he.trans hevent⟩

/-- Without a dispatch that changes a node it changes for events that are received later only. -/
theorem le_of_change (h : Course nodes (.delivering k p ts made through) n n' xs) (hk : k < n)
    (hnone : ∀ m ∈ made, ¬ m.Changes i) {x : Nat × Option Value} (hx : x ∈ xs.filterMap (change? i)) : n ≤ x.1 := by
  obtain ⟨m, value⟩ := x
  obtain ⟨e, he⟩ := mem_of_change hx
  rcases h.numbers_delivering he with rfl | hrange
  · obtain ⟨m, hm, hchanges⟩ := h.exists_dispatch hk hx
    exact absurd hchanges (hnone m hm)
  · exact hrange.1

/-- A call for an event may come before changes for this event and for events that were received later. -/
theorem rising_call {c : Call} (h : (xs.filterMap (change? i)).Pairwise fun x y => x.1 ≤ y.1)
    (hk : ∀ y ∈ xs.filterMap (change? i), k ≤ y.1) :
    (((k, .call c) :: xs).filterMap (change? i)).Pairwise fun x y => x.1 ≤ y.1 := by
  rw [List.filterMap_cons]
  rcases hown : change? i (k, .call c) with _ | x
  · exact h
  · obtain ⟨c, heq, -⟩ := change?_eq_some.1 hown
    have hxk : k = x.1 := (Prod.mk.inj heq).1
    exact List.pairwise_cons.2 ⟨fun y hy => hxk ▸ hk y hy, h⟩

/-- Where no event changes a node but with its first dispatch, the node changes in the order in which the events
were received. -/
theorem rising (hsingle : ∀ p, ∀ m ∈ ((targets nodes p).filterMap (dispatch? p)).tail, ¬ m.Changes i)
    (h : Course nodes stage n n' xs) :
    stage.ChangesOnce i n → (xs.filterMap (change? i)).Pairwise fun x y => x.1 ≤ y.1 := by
  induction h with
  | ended => exact fun _ => .nil
  | @routed n n₁ n₂ p made through xs ys inner later ihInner ihLater =>
    intro _
    have hending : ((p.ending made through).map (n, ·)).filterMap (change? i) = [] := by
      unfold Payload.ending
      split <;> rfl
    have hreceipt : change? i (n, p.receipt) = none := rfl
    rw [List.filterMap_append, List.filterMap_append, hending, List.append_nil, List.filterMap_cons, hreceipt]
    refine List.pairwise_append.2 ⟨ihInner ⟨Nat.lt_succ_self n, ?_⟩, ihLater trivial, fun x hx y hy => ?_⟩
    · have hmade : made.tail <+: ((targets nodes p).filterMap (dispatch? p)).tail := by
        rw [← List.drop_one, ← List.drop_one]
        exact List.IsPrefix.drop inner.made_prefix 1
      exact fun m hm => hsingle p m (hmade.subset hm)
    · obtain ⟨e, he⟩ := mem_of_change hx
      obtain ⟨e', he'⟩ := mem_of_change hy
      have hle := inner.le
      have hrange := inner.numbers_delivering he
      have hrange' := later.numbers_inside he'
      omega
  | delivered => exact fun _ => .nil
  | overlong => exact fun _ => .nil
  | ignored _ _ ih => exact ih
  | @unreadable n n' k p t ts made through xs raw _ _ ih =>
    intro hs
    have hreport : change? i (k, t.unreadable p raw) = none := rfl
    rw [List.filterMap_cons, hreport]
    exact ih hs
  | @accepted n n₁ n₂ k p t ts made through xs ys value cache hm inner later ihInner ihLater =>
    rintro ⟨hk, hs⟩
    have hle := inner.le
    have hdispatched : change? i (k, t.dispatched) = none := rfl
    -- after the first dispatch the node does not change for this event any more
    have hlater : ∀ y ∈ ys.filterMap (change? i), n₁ ≤ y.1 := fun y hy => later.le_of_change (by omega) hs hy
    have hinner : ∀ x ∈ xs.filterMap (change? i), n ≤ x.1 ∧ x.1 < n₁ := by
      intro x hx
      obtain ⟨e, he⟩ := mem_of_change hx
      exact inner.numbers_inside he
    have hrest : (xs.filterMap (change? i) ++ ys.filterMap (change? i)).Pairwise fun x y => x.1 ≤ y.1 := by
      refine List.pairwise_append.2 ⟨ihInner trivial, ihLater ⟨by omega, ?_⟩, fun x hx y hy => ?_⟩
      · exact fun m hmem => hs m (List.mem_of_mem_tail hmem)
      · have := hinner x hx
        have := hlater y hy
        omega
    have hsplit : (xs ++ (k, t.dispatched) :: ys).filterMap (change? i) =
        xs.filterMap (change? i) ++ ys.filterMap (change? i) := by
      rw [List.filterMap_append, List.filterMap_cons, hdispatched]
    rw [List.cons_append]
    refine rising_call (hsplit ▸ hrest) fun y hy => ?_
    rw [hsplit] at hy
    rcases List.mem_append.1 hy with hy | hy
    · have := hinner y hy
      omega
    · have := hlater y hy
      omega
  | @raised n n' k p t ts xs value cache hm inner ih =>
    rintro ⟨hk, -⟩
    refine rising_call (ih trivial) fun y hy => ?_
    obtain ⟨e, he⟩ := mem_of_change hy
    have hrange := inner.numbers_inside he
    omega

end Course

theorem EventKind.action_inj {a b : EventKind} (h : a.action = b.action) : a = b := by
  revert h
  cases a <;> cases b <;> decide

/-- A listener accepts events under its own action. -/
theorem action_of_accepted {kind : Kind} {event : EventKind} {p : Payload} {value : Option Value}
    (h : matchEvent kind event p = .ok (.accepted value)) : p.action = event.action := by
  by_contra hne
  unfold matchEvent at h
  rw [if_pos hne] at h
  cases h

theorem dispatch?_eq_some {p : Payload} {t : Target} {m : Dispatch} (h : dispatch? p t = some m) :
    ∃ value, matchEvent t.node.kind t.listener.event p = .ok (.accepted value) ∧ m = t.dispatch value := by
  unfold dispatch? at h
  split at h
  · rename_i value hm
    exact ⟨value, hm, (Option.some.inj h).symm⟩
  · cases h

/-- A node of prepared trees with one listener for changed values changes once for each event. -/
theorem Store.Prepared.changes_once {s : Store} {roots : List NodeId} (h : s.Prepared roots) {n : NodeId × Node}
    (hn : n ∈ s.walk roots) (hone : (n.2.listeners.filter (·.event = .valueChanged)).length ≤ 1) :
    ∀ p, ∀ m ∈ ((targets (s.walk roots) p).filterMap (dispatch? p)).tail, ¬ m.Changes n.1 := by
  rintro p m hm ⟨hnode, hevent⟩
  obtain ⟨t, ht, htm⟩ := List.mem_filterMap.1 (List.mem_of_mem_tail hm)
  obtain ⟨value, hmatch, rfl⟩ := dispatch?_eq_some htm
  -- the event is for the node, so all its targets are listeners of the node
  have hcontent : t.node = n.2 := by
    rw [s.walk_content roots n hn, ← hnode]
    exact s.walk_content roots _ (mem_targets ht).1
  obtain ⟨hid, htarget⟩ := isTarget_of_mem_targets ht
  rw [hcontent] at hid htarget
  rw [targets_eq h.internalIds hn hid htarget.symm, List.filterMap_map] at hm
  -- and what is dispatched for it goes to listeners for changed values
  have hchange : ∀ l ∈ n.2.listeners, ((dispatch? p ∘ fun l => ⟨n.1, n.2, l⟩) l).isSome →
      decide (l.event = .valueChanged) := by
    intro l _ hl
    obtain ⟨m', hm'⟩ := Option.isSome_iff_exists.1 hl
    obtain ⟨value', hmatch', -⟩ := dispatch?_eq_some hm'
    have haction := (action_of_accepted hmatch').symm.trans (action_of_accepted hmatch)
    exact decide_eq_true ((EventKind.action_inj haction).trans hevent)
  have hlength := List.countP_mono_left hchange
  rw [← List.length_filterMap_eq_countP, List.countP_eq_length_filter] at hlength
  have htail := List.length_pos_of_mem hm
  rw [List.length_tail] at htail
  omega

/-! ## The cache at the end -/

/-- A cache has under a user id the value of the newest change of a node. -/
def Log.HoldsNewest (l : Log) (i : NodeId) (cache : Cache) (id : String) : Prop :=
  ∀ x, l.NewestChange i x → cache.value id = x.2

/-- The changes of a node are to what its kind reads from the events. -/
theorem value_of_change {s : Store} {roots : List NodeId} {sent : Nat → Payload} {l : Log}
    (h : ∀ x ∈ l.byEvent, x.2.Fits (s.walk roots) (sent x.1)) {i : NodeId} {x : Nat × Option Value}
    (hx : x ∈ l.changes i) : matchEvent (s.node i).kind .valueChanged (sent x.1) = .ok (.accepted x.2) := by
  obtain ⟨y, hy, hchange⟩ := List.mem_filterMap.1 hx
  obtain ⟨c, rfl, ⟨hnode, hevent⟩, hvalue⟩ := change?_eq_some.1 hchange
  obtain ⟨t, ht, ⟨cache, hc⟩, hmatch⟩ := h _ hy
  have htnode : t.id = i := by
    rw [← hnode, hc]
    rfl
  have htevent : t.listener.event = .valueChanged := by
    rw [← hevent, hc]
    rfl
  have hcontent : t.node = s.node i := htnode ▸ s.walk_content roots _ (mem_targets ht).1
  rw [hcontent, htevent, hvalue] at hmatch
  exact hmatch

/-- Changes in the order in which their events were received do not overtake. -/
theorem Log.not_overtaken {l : Log} {i : NodeId} (h : (l.changes i).Pairwise fun x y => x.1 ≤ y.1) :
    ¬ l.Overtaken i := by
  rintro ⟨last, newest, hlast, ⟨hnewest, -⟩, hlt, -⟩
  obtain ⟨before, hchanges⟩ := List.getLast?_eq_some_iff.1 hlast
  rw [hchanges] at h hnewest
  rcases List.mem_append.1 hnewest with hmem | hmem
  · have hle := (List.pairwise_append.1 h).2.2 newest hmem last (List.mem_singleton_self last)
    omega
  · rw [List.mem_singleton.1 hmem] at hlt
    omega

/-- If calls for one event have one value, a cache with the value of the last change has that of the newest one
exactly if it was not overtaken. -/
theorem Log.holdsNewest_iff {l : Log} {i : NodeId} {cache : Cache} {id : String} {old : Option Value}
    (hlast : cache.value id = (l.changes i).getLast?.elim old Prod.snd)
    (hsame : ∀ x ∈ l.changes i, ∀ y ∈ l.changes i, x.1 = y.1 → x.2 = y.2) :
    l.HoldsNewest i cache id ↔ ¬ l.Overtaken i := by
  constructor
  · rintro hholds ⟨last, newest, hl, hx, -, hne⟩
    rw [hl] at hlast
    exact hne (hlast.symm.trans (hholds newest hx))
  · rintro hnot x ⟨hx, hmax⟩
    rcases hl : (l.changes i).getLast? with _ | last
    · rw [List.getLast?_eq_none_iff.1 hl] at hx
      cases hx
    · have hmem := List.mem_of_getLast? hl
      rw [hl] at hlast
      rw [hlast]
      by_contra hne
      have hlt := Nat.lt_of_le_of_ne (hmax last hmem) fun he => hne (hsame _ hmem _ hx he)
      exact hnot ⟨last, x, hl, ⟨hx, hmax⟩, hlt, hne⟩

/-- What the calls in a log wrote over a cache for a user id is the value of the last change of its node. -/
theorem Store.Prepared.value_putAll {s : Store} {roots : List NodeId} (h : s.Prepared roots) {n : NodeId × Node}
    (hn : n ∈ s.walk roots) {id : String} (hid : n.2.userId = some id) {l : Log}
    (hcomplete : l.byEvent.map Prod.snd = l.filter Entry.isAboutEvent) (hfits : ∀ c ∈ l.calls, c.Fits (s.walk roots))
    (cache : Cache) :
    Cache.value (cache.putAll (l.calls.filterMap s.entryOf?)) id =
      (l.changes n.1).getLast?.elim (cache.value id) Prod.snd := by
  have hvalues := congrArg List.getLast? (values_changes hcomplete n.1)
  have hfind : (l.calls.filter fun c => c.node = n.1 ∧ c.event = .valueChanged).getLast? =
      l.calls.reverse.find? fun c => c.node = n.1 ∧ c.event = .valueChanged := by
    rw [List.getLast?_eq_head?_reverse, ← List.filter_reverse, List.head?_filter]
  rw [List.getLast?_map, List.getLast?_map, hfind] at hvalues
  unfold Cache.value
  rw [Bag.get?_putAll, h.find?_entries hn hid hfits]
  rw [Option.map_map, show Prod.snd ∘ (fun c : Call => (id, c.value)) = Call.value from rfl, ← hvalues]
  cases (l.changes n.1).getLast? <;> rfl

/-- When a routing over prepared trees returns, the cache has under the user id of each node the value of the last
call of one of the node's listeners for changed values, and what it had before if there was no such call. This is
the value of the event that was received last among those that such a listener was called for, exactly if that
event was not overtaken; a node with one listener for changed values is never overtaken. -/
theorem cache_ends_with_last_call {s : Store} {roots : List NodeId} {lookup : Lookup} {depth : Nat} {p : Payload}
    {made : List Dispatch} {d d' : Desk} (h : s.Prepared roots)
    (hrun : (route lookup (s.walk roots) depth p).run d = (.ok made, d')) :
    ∃ (new : Log) (sent : Nat → Payload), d'.log = d.log ++ new ∧
      new.byEvent.map Prod.snd = new.filter Entry.isAboutEvent ∧
      (∀ x ∈ new.byEvent, x.2.Fits (s.walk roots) (sent x.1)) ∧
      ∀ n ∈ s.walk roots, ∀ id, n.2.userId = some id →
        d'.cache.value id = (new.changes n.1).getLast?.elim (d.cache.value id) Prod.snd ∧
        (new.HoldsNewest n.1 d'.cache id ↔ ¬ new.Overtaken n.1) ∧
        ((n.2.listeners.filter (·.event = .valueChanged)).length ≤ 1 → ¬ new.Overtaken n.1) := by
  obtain ⟨es, hes, hlog⟩ := delivers_of_route hrun
  obtain ⟨⟨bound, hcourse⟩, hcomplete⟩ := course_byEvent hes
  obtain ⟨sent, -, hfits⟩ := hcourse.exists_sent trivial
  -- the calls that have written are those in the new part of the log
  obtain ⟨calls, hcalls, hcache, hcallsFit⟩ := route_grown (s.walk_content roots) lookup depth p d
  rw [hrun] at hcalls hcache
  dsimp only at hcalls hcache
  rw [hlog, Log.calls_append] at hcalls
  obtain rfl := List.append_cancel_left hcalls
  refine ⟨_, sent, hlog, hcomplete, hfits, fun n hn id hid => ?_⟩
  have hlast := hcache ▸ h.value_putAll hn hid hcomplete hcallsFit d.cache
  refine ⟨hlast, Log.holdsNewest_iff hlast fun x hx y hy hsame => ?_, fun hone => ?_⟩
  · have hvalue := value_of_change hfits hx
    rw [hsame, value_of_change hfits hy] at hvalue
    exact (Match.accepted.inj (Except.ok.inj hvalue)).symm
  · exact Log.not_overtaken (hcourse.rising (h.changes_once hn hone) trivial)

/-! ## A slider that is moved on by its first listener -/

def volumeTo (raw : String) : Payload := ⟨"ValueChanged", some "volume", Bag.ofList [("Value", raw)]⟩

/-- A callback that answers the first of all calls with a move to two. -/
def nudge : Callback := ⟨0, fun calls _ => if calls.isEmpty then .route (volumeTo "2") .done else .done⟩

def nudgedSlider : Store := ⟨#[
  { kind := .slider
    userId := some "volume"
    internalId := some "volume"
    listeners := [⟨.valueChanged, nudge⟩, ⟨.valueChanged, idle 1⟩] }]⟩

theorem nudgedSlider_prepared : nudgedSlider.Prepared [0] := by
  have hprepare : (prepare [0]).run nudgedSlider = (.ok (), nudgedSlider) := by cbv
  exact prepared_of_ok (Store.closed_of_nodes (by decide)) (by decide) hprepare

/-- What a move to one comes to. -/
def nudgedSlider.moved : Except Failure (List Dispatch) × Desk :=
  (route .own (nudgedSlider.walk [0]) 2 (volumeTo "1")).run ⟨∅, []⟩

/-- The move to two comes to both listeners while the first is running, and then the move to one to the second. -/
theorem changes_nudgedSlider : nudgedSlider.moved.2.log.changes 0 =
    [(0, some (.int 1)), (1, some (.int 2)), (1, some (.int 2)), (0, some (.int 1))] := by cbv

/-- The move to one is what the cache ends with. -/
theorem cache_ends_with_last_call_nudgedSlider :
    nudgedSlider.Prepared [0] ∧ nudgedSlider.moved.1.isOk ∧
      nudgedSlider.moved.2.cache.value "volume" = some (.int 1) := by
  have hok : nudgedSlider.moved.1.isOk := by cbv
  refine ⟨nudgedSlider_prepared, hok, ?_⟩
  rcases hrun : nudgedSlider.moved with ⟨f | made, d'⟩
  · rw [hrun] at hok
    cases hok
  · obtain ⟨new, sent, hlog, -, -, hcache⟩ := cache_ends_with_last_call nudgedSlider_prepared hrun
    have hnew : new.changes 0 = nudgedSlider.moved.2.log.changes 0 := by
      rw [hrun, hlog]
      rfl
    have hn : (0, nudgedSlider.node 0) ∈ nudgedSlider.walk [0] := List.mem_cons_self ..
    obtain ⟨hlast, -, -⟩ := hcache _ hn "volume" rfl
    rw [hlast]
    show (new.changes 0).getLast?.elim _ _ = _
    rw [hnew, changes_nudgedSlider]
    rfl

/-- The newest of these events is the move to two, and the cache does not have its value. -/
theorem not_holdsNewest_nudgedSlider :
    nudgedSlider.Prepared [0] ∧ nudgedSlider.moved.1.isOk ∧
      ¬ nudgedSlider.moved.2.log.HoldsNewest 0 nudgedSlider.moved.2.cache "volume" := by
  have hvalue : nudgedSlider.moved.2.cache.value "volume" = some (.int 1) := by cbv
  refine ⟨nudgedSlider_prepared, by cbv, fun hholds => ?_⟩
  have hnewest : nudgedSlider.moved.2.log.NewestChange 0 (1, some (.int 2)) := by
    unfold Log.NewestChange
    rw [changes_nudgedSlider]
    decide
  cases hvalue.symm.trans (hholds _ hnewest)

end Overlay
