/-
Typed values on the wire. The engine sends integers, truth values and texts as they are; an event keeps the text of
each, and the kind of the target reads the same value from this text again. The value is what every listener for
changed values is called with, and it stands in the cache afterwards.
-/
import Overlay.Proofs.Bag
import Overlay.Proofs.Event.Writing
import Overlay.Proofs.Number.Printed
import Overlay.Proofs.Style.Pixels

namespace Overlay

open Routing Text

/-! ## Data and values -/

/-- A datum that elements of a kind send for a value. -/
inductive Carries : Kind → Datum → Value → Prop
  | integer {kind : Kind} {n : ℤ} (hkind : kind = .numberField ∨ kind = .slider)
    (hshort : (Nat.toDigits 10 n.natAbs).length ≤ Token.digitLimit) : Carries kind (.int n) (.int n)
  | truth (b : Bool) : Carries .checkbox (.bool b) (.bool b)
  | text (s : String) : Carries .textField (.text s) (.text s)

/-- A printed integer is read as the integer. -/
theorem Value.readNumber_toString {n : ℤ} (h : (Nat.toDigits 10 n.natAbs).length ≤ Token.digitLimit) :
    readNumber (toString n) = .ok (some (int n)) := by
  obtain ⟨-, hchars⟩ := (Token.integerNotation_toString n).chars
  have htrim : trimChars (toString n).toList = (toString n).toList :=
    trimChars_eq_self (fun hne => (hchars _ (List.head_mem hne)).1) fun hne => (hchars _ (List.getLast_mem hne)).1
  exact readNumber_of_integer? (by rw [htrim, Token.integer?_toString h])

/-- The text of a datum is read as the value that the datum stands for. -/
theorem Carries.readValue {kind : Kind} {x : Datum} {v : Value} (h : Carries kind x v) :
    kind.readValue x.shown = .ok (some v) := by
  cases h with
  | integer hkind hshort =>
    have hread := Value.readNumber_toString hshort
    rcases hkind with rfl | rfl
    · exact hread
    · exact Value.readInteger_of_int hread
  | truth b =>
    have htrue : lower (trim "True") = "true" := by decide +kernel
    have hfalse : lower (trim "False") = "false" := by decide +kernel
    show Value.readBool (if b then "True" else "False") = _
    unfold Value.readBool
    cases b <;> simp [htrue, hfalse]
  | text s => rfl

theorem Carries.ne_null {kind : Kind} {x : Datum} {v : Value} (h : Carries kind x v) : x ≠ .null := by
  rintro rfl
  cases h

/-! ## Records and events -/

/-- A record that says that a node has changed to a datum, in the field of the node's kind. -/
structure SaysChanged (wire : Bag String Datum) (n : Node) (x : Datum) : Prop where
  action : wire.get? "Action" = some (.text "ValueChanged")
  target : wire.get? "Target" = n.internalId.map .text
  field : wire.get? n.kind.valueField.name = some x

namespace Payload

theorem rawField?_eq {name : String} {x : Datum} (hx : x ≠ .null) : rawField? (name, x) =
    if name = actionField || name = targetField then none else some (name, x.shown) := by
  cases x with
  | null => exact absurd rfl hx
  | _ => rfl

theorem key_of_rawField? {e : String × Datum} {e' : String × String} (h : rawField? e = some e') : e'.1 = e.1 := by
  obtain ⟨name, x⟩ := e
  by_cases hx : x = .null
  · subst hx
    cases h
  · rw [rawField?_eq hx] at h
    split_ifs at h
    cases h
    rfl

/-- A field that is neither lifted out nor null has its text in the event. -/
theorem value?_ofWire {wire : Bag String Datum} {name : String} {x : Datum} (h : wire.get? name = some x)
    (hx : x ≠ .null) (haction : name ≠ actionField) (htarget : name ≠ targetField) :
    (ofWire wire).value? name = some x.shown := by
  obtain ⟨es, fs, hentries⟩ := List.append_of_mem (Bag.mem_iff_get?.2 h : (name, x) ∈ wire.entries)
  have hlater : ∀ e ∈ fs, e.1 ≠ name := by
    have hdistinct := wire.distinct
    rw [hentries, List.map_append, List.map_cons, List.nodup_middle, List.nodup_cons, List.mem_append,
      not_or] at hdistinct
    exact fun e he hname => hdistinct.1.2 (List.mem_map.2 ⟨e, he, hname⟩)
  have hraw : rawField? (name, x) = some (name, x.shown) := by
    rw [rawField?_eq hx]
    simp [haction, htarget]
  have hmem : (name, x.shown) ∈ (ofWire wire).values.entries := by
    refine Bag.mem_ofList_iff.2 ⟨es.filterMap rawField?, fs.filterMap rawField?, ?_, fun e' he' => ?_⟩
    · rw [hentries, List.filterMap_append, List.filterMap_cons, hraw]
    · obtain ⟨e, he, he'⟩ := List.mem_filterMap.1 he'
      rw [key_of_rawField? he']
      exact hlater e he
  exact Bag.mem_iff_get?.1 hmem

end Payload

namespace SaysChanged

variable {wire : Bag String Datum} {n : Node} {x : Datum} {v : Value}

theorem action_payload (h : SaysChanged wire n x) : (Payload.ofWire wire).action = EventKind.valueChanged.action := by
  show ((wire.get? "Action").map Datum.shown).getD "" = _
  rw [h.action]
  rfl

theorem target_payload (h : SaysChanged wire n x) : (Payload.ofWire wire).target = n.internalId := by
  unfold Payload.ofWire
  dsimp only
  rw [show Payload.targetField = "Target" from rfl, h.target]
  rcases n.internalId with _ | id <;> rfl

theorem value?_payload (h : SaysChanged wire n x) (hx : Carries n.kind x v) :
    (Payload.ofWire wire).value? n.kind.valueField.name = some x.shown := by
  have hname : n.kind.valueField.name ≠ "Action" ∧ n.kind.valueField.name ≠ "Target" := by
    rcases n.kind.valueField <;> decide
  exact Payload.value?_ofWire h.field hx.ne_null hname.1 hname.2

end SaysChanged

/-! ## Calls where callbacks have nothing routed -/

section Calls

variable {lookup : Lookup} {routeInner : Payload → Routing (List Dispatch)} {p : Payload}

theorem calls_follow {script : Script} (h : script.RoutesNothing) :
    ∀ d : Desk, ((follow lookup routeInner script).run d).2.log.calls = d.log.calls := by
  induction h with
  | done => exact fun d => rfl
  | raise f => exact fun d => rfl
  | read _ ih =>
    intro d
    rw [run_follow_read, ih]
    exact (Log.calls_append _ _).trans (List.append_nil _)

/-- Of a target that is called with a value the log has this one call more. -/
theorem calls_callback {t : Target} (h : t.listener.callback.RoutesNothing) (value : Option Value) (d : Desk) :
    ((callback lookup routeInner t value).run d).2.log.calls = d.log.calls ++ [d.callOf t value] := by
  have hfollow : ((follow lookup routeInner (d.scriptOf t value)).run
      (d.called t value)).2.log.calls = d.log.calls ++ [d.callOf t value] :=
    (calls_follow (h _ _) _).trans (Log.calls_append _ _)
  rw [run_callback]
  rcases hr : (follow lookup routeInner (d.scriptOf t value)).run (d.called t value)
    with ⟨f | ⟨⟩, d'⟩ <;> rw [hr] at hfollow
  · -- the failure of a callback is not among the calls
    exact (Log.calls_append _ _).trans ((List.append_nil _).trans hfollow)
  · exact hfollow

theorem calls_report (d : Desk) (r : Report) : (d.note (.report r)).log.calls = d.log.calls :=
  (Log.calls_append _ _).trans (List.append_nil _)

theorem lines_deliver {t : Target} {made : Option Dispatch} {d d' : Desk}
    (hnothing : ∀ value, matchEvent t.node.kind t.listener.event p = .ok (.accepted value) →
      t.listener.callback.RoutesNothing)
    (h : (deliver lookup routeInner p t).run d = (.ok made, d')) :
    d'.log.calls.map Call.line = d.log.calls.map Call.line ++ made.toList.map Dispatch.line := by
  rw [run_deliver] at h
  rcases hm : matchEvent t.node.kind t.listener.event p with e | (_ | raw | value) <;> rw [hm] at h
  · cases h
  · cases h
    exact (List.append_nil _).symm
  · cases h
    rw [calls_report]
    exact (List.append_nil _).symm
  · have hcalls : ((callback lookup routeInner t value).run d).2.log.calls = d.log.calls ++ [d.callOf t value] :=
      calls_callback (hnothing value hm) value d
    dsimp only at h
    rcases hr : (callback lookup routeInner t value).run d with ⟨f | ⟨⟩, d₁⟩ <;> rw [hr] at h hcalls
    · cases h
    · cases h
      rw [calls_report, hcalls, List.map_append]
      rfl

theorem lines_deliverAll : ∀ {ts : List Target} {made : List Dispatch} {d d' : Desk},
    (∀ t ∈ ts, ∀ value, matchEvent t.node.kind t.listener.event p = .ok (.accepted value) →
      t.listener.callback.RoutesNothing) →
    (deliverAll lookup routeInner p ts).run d = (.ok made, d') →
    d'.log.calls.map Call.line = d.log.calls.map Call.line ++ made.map Dispatch.line
  | [], _, _, _, _, h => by
    cases h
    exact (List.append_nil _).symm
  | t :: ts, made, d, d', hnothing, h => by
    rw [deliverAll] at h
    obtain ⟨first, d₁, hfirst, h⟩ := run_bind_eq_ok h
    obtain ⟨rest, d₂, hrest, h⟩ := run_bind_eq_ok h
    cases h
    rw [lines_deliverAll (fun u hu => hnothing u (List.mem_cons_of_mem _ hu)) hrest,
      lines_deliver (hnothing t (List.mem_cons_self ..)) hfirst, List.append_assoc, List.map_append]

/-- Each dispatch of a routing is one call, in the same order, where callbacks have nothing routed. -/
theorem lines_route {nodes : List (NodeId × Node)} {depth : Nat} {made : List Dispatch} {d d' : Desk}
    (hnothing : ∀ t ∈ targets nodes p, ∀ value, matchEvent t.node.kind t.listener.event p = .ok (.accepted value) →
      t.listener.callback.RoutesNothing)
    (h : (route lookup nodes (depth + 1) p).run d = (.ok made, d')) :
    d'.log.calls.map Call.line = d.log.calls.map Call.line ++ made.map Dispatch.line := by
  rw [run_route] at h
  rcases hr : (deliverAll lookup (route lookup nodes depth) p (targets nodes p)).run
    (d.note (.report (.received p.action p.target p.fieldNames))) with ⟨f | made', d₁⟩ <;> rw [hr] at h
  · cases h
  · have hlines := lines_deliverAll hnothing hr
    rw [calls_report] at hlines
    dsimp only at h
    split at h <;> cases h
    · rw [calls_report, hlines]
    · exact hlines

end Calls

/-! ## Routing -/

/-- After a routing whose new calls are changes of one node to one value, the node's user id has this value. -/
theorem Store.Prepared.value_of_lines {s : Store} {roots : List NodeId} (h : s.Prepared roots) {n : NodeId × Node}
    (hn : n ∈ s.walk roots) {v : Value} {d d' : Desk} (hgrown : d.Grown s (s.walk roots) d') {made : List Dispatch}
    (hlines : d'.log.calls.map Call.line = d.log.calls.map Call.line ++ made.map Dispatch.line) (hne : made ≠ [])
    (hmade : ∀ x ∈ made, x.node = n.1 ∧ x.listener.event = .valueChanged ∧ x.value = some v) {id : String}
    (hid : n.2.userId = some id) : d'.cache.value id = some v := by
  obtain ⟨calls, hcalls, hcache, hfits⟩ := hgrown
  rw [hcalls, List.map_append, List.append_cancel_left_eq] at hlines
  have hchanges : ∀ c ∈ calls, c.node = n.1 ∧ c.event = .valueChanged ∧ c.value = some v := by
    intro c hc
    obtain ⟨x, hx, hline⟩ := List.mem_map.1 (hlines ▸ List.mem_map_of_mem hc : c.line ∈ made.map Dispatch.line)
    obtain ⟨hnode, hevent, hvalue⟩ := hmade x hx
    simp only [Call.line, Dispatch.line, Made.mk.injEq] at hline
    exact ⟨hline.1 ▸ hnode, hline.2.1 ▸ hevent, hline.2.2.2 ▸ hvalue⟩
  have hfind := h.find?_entries hn hid hfits
  rw [Cache.value, hcache, Bag.get?_putAll, hfind]
  rcases hf : calls.reverse.find? (fun c => c.node = n.1 ∧ c.event = .valueChanged) with _ | c
  · -- there was a call, and it was a change of the node
    have hnone := List.find?_eq_none.1 hf
    obtain ⟨c, hc⟩ : ∃ c, c ∈ calls := by
      refine List.exists_mem_of_ne_nil _ ?_
      rintro rfl
      exact hne (List.map_eq_nil_iff.1 hlines.symm)
    obtain ⟨hnode, hevent, -⟩ := hchanges c hc
    exact absurd (decide_eq_true ⟨hnode, hevent⟩) (hnone c (List.mem_reverse.2 hc))
  · obtain ⟨-, -, hvalue⟩ := hchanges c (List.mem_reverse.1 (List.mem_of_find?_eq_some hf))
    rw [hf, Option.map_some, Option.map_some, hvalue]
    rfl

/-- A node of prepared trees is told by the engine that it has changed to an integer, a truth value or a text that its
kind takes. If its callbacks for changes return and have nothing routed, then each of them is called once, with this
very value, and nobody else; afterwards the user id of the node has this value. -/
theorem carried_values_survive {s s' : Store} {roots : List NodeId} (hc : s.Closed) (hr : ∀ i ∈ roots, i < s.size)
    (hp : (prepare roots).run s = (.ok (), s')) {n : NodeId × Node} (hn : n ∈ s'.walk roots)
    (hlistens : ∃ l ∈ n.2.listeners, l.event = .valueChanged)
    (hnothing : ∀ l ∈ n.2.listeners, l.event = .valueChanged → l.callback.RoutesNothing)
    {wire : Bag String Datum} {x : Datum} {v : Value} (hwire : SaysChanged wire n.2 x) (hx : Carries n.2.kind x v)
    {lookup : Lookup} {depth : Nat} {d : Desk}
    (hreturn : RoutesThrough lookup (s'.walk roots) depth (Payload.ofWire wire) d) :
    ∃ made d' calls, (route lookup (s'.walk roots) (depth + 1) (Payload.ofWire wire)).run d = (.ok made, d') ∧
      made = dispatchesTo n .valueChanged (some v) ∧ made ≠ [] ∧
      d'.log.calls = d.log.calls ++ calls ∧ calls.map Call.line = made.map Dispatch.line ∧
      ∀ id, n.2.userId = some id → d'.cache.value id = some v := by
  have hprep := prepared_of_ok hc hr hp
  have hok := hprep.route_change hn hwire.action_payload hwire.target_payload (hwire.value?_payload hx) hx.readValue
    hreturn
  have hquiet : ∀ t ∈ targets (s'.walk roots) (Payload.ofWire wire), ∀ value,
      matchEvent t.node.kind t.listener.event (Payload.ofWire wire) = .ok (.accepted value) →
      t.listener.callback.RoutesNothing := by
    intro t ht value haccepted
    rw [targets_eq hprep.internalIds hn (hprep.identified n hn) hwire.target_payload] at ht
    obtain ⟨l, hl, rfl⟩ := List.mem_map.1 ht
    -- a listener for clicks does not accept a change
    refine hnothing l hl ?_
    by_contra hevent
    rw [matchEvent_valueChanged hwire.action_payload (hwire.value?_payload hx) hx.readValue, if_neg hevent] at haccepted
    cases haccepted
  have hgrown := route_grown (s'.walk_content roots) lookup (depth + 1) (Payload.ofWire wire) d
  rcases hrun : (route lookup (s'.walk roots) (depth + 1) (Payload.ofWire wire)).run d with ⟨f | made, d'⟩ <;>
    rw [hrun] at hok hgrown <;> cases hok
  have hlines := lines_route hquiet hrun
  have hne : dispatchesTo n .valueChanged (some v) ≠ [] := by
    obtain ⟨l, hl, hevent⟩ := hlistens
    exact List.ne_nil_of_mem (List.mem_map_of_mem (List.mem_filter.2 ⟨hl, decide_eq_true hevent⟩))
  have hvalue : ∀ id, n.2.userId = some id → d'.cache.value id = some v := by
    refine fun id hid => hprep.value_of_lines hn hgrown hlines hne (fun x hx => ?_) hid
    obtain ⟨l, hl, rfl⟩ := List.mem_map.1 hx
    exact ⟨rfl, of_decide_eq_true (List.mem_filter.1 hl).2, rfl⟩
  obtain ⟨calls, hcalls, -⟩ := hgrown
  rw [hcalls, List.map_append] at hlines
  exact ⟨_, d', calls, rfl, rfl, hne, hcalls, List.append_cancel_left hlines, hvalue⟩

/-- The engine's record for a node. -/
def changeRecord (id : String) (field : ValueField) (x : Datum) : Bag String Datum :=
  Bag.ofList [("Action", .text "ValueChanged"), ("Target", .text id), (field.name, x)]

theorem saysChanged_changeRecord {n : Node} {id : String} (hid : n.internalId = some id) (x : Datum) :
    SaysChanged (changeRecord id n.kind.valueField x) n x := by
  constructor <;> rcases n.kind.valueField <;> simp [changeRecord, hid, Bag.get?_ofList, ValueField.name]

/-- The slider is moved to a negative number, with both of its listeners for changes told. -/
theorem carried_values_survive_volume :
    (prepare [0, 1]).run mixer = (.ok (), preparedMixer) ∧
    ∃ d', (route .own (preparedMixer.walk [0, 1]) 1
      (Payload.ofWire (changeRecord "volume" .value (.int (-7))))).run ⟨∅, []⟩ =
        (.ok [⟨0, ⟨.valueChanged, idle 0⟩, some (.int (-7))⟩, ⟨0, ⟨.valueChanged, idle 2⟩, some (.int (-7))⟩], d') ∧
      d'.cache.value "volume" = some (.int (-7)) := by
  have hp : (prepare [0, 1]).run mixer = (.ok (), preparedMixer) := by cbv
  have hn : (0, volume (some "volume")) ∈ preparedMixer.walk [0, 1] := by
    rw [walk_preparedMixer]
    exact List.mem_cons_self ..
  have hquiet : ∀ l ∈ (volume (some "volume")).listeners, l.event = .valueChanged → l.callback.RoutesNothing := by
    intro l hl _
    simp only [volume, List.mem_cons, List.not_mem_nil, or_false] at hl
    rcases hl with rfl | rfl | rfl <;> exact routesNothing_idle _
  have hcarries : Carries (volume (some "volume")).kind (.int (-7)) (.int (-7)) := .integer (.inr rfl) (by decide)
  obtain ⟨made, d', calls, hrun, rfl, -, -, -, hvalue⟩ := carried_values_survive mixer_closed (by decide) hp hn
    ⟨_, List.mem_cons_self .., rfl⟩ hquiet (saysChanged_changeRecord rfl _) hcarries
    (callbacksReturn_of_idle (idle_preparedMixer _) _)
  exact ⟨hp, d', hrun, hvalue _ rfl⟩

end Overlay
