/-
What malformed text raises. A text that cannot be read gives no value, is dropped or is reported, and nothing is
raised, with one exception: a numeral of more digits than are read. It stops the reading of a value, the resolution of
properties, and the routing of an event before any callback of the listener has run.
-/
import Overlay.Proofs.Event.Latest
import Overlay.Proofs.Style.Returns

namespace Overlay

open Text Routing

/-! ## Failures of a delivery -/

/-- A listener for changed values whose kind is given a numeral that is too long. -/
structure Target.HearsOverlong (t : Target) (p : Payload) : Prop where
  event : t.listener.event = .valueChanged
  action : p.action = "ValueChanged"
  kind : t.node.kind = .numberField ∨ t.node.kind = .slider
  value : ∃ raw, p.value? "Value" = some raw ∧ Overlong (trimChars raw.toList)

theorem fails_matchEvent {t : Target} {p : Payload} :
    Fails (matchEvent t.node.kind t.listener.event p) ↔ t.HearsOverlong p := by
  unfold matchEvent
  rcases hevent : t.listener.event with _ | _
  · refine iff_of_false ?_ fun h => by simpa [hevent] using h.event
    split_ifs <;> exact not_fails_ok _
  · by_cases haction : p.action = "ValueChanged"
    · rw [if_neg (by simpa [EventKind.action] using haction)]
      dsimp only
      constructor
      · intro hfails
        rcases hraw : p.value? t.node.kind.valueField.name with _ | raw <;> rw [hraw] at hfails
        · exact absurd hfails (not_fails_ok _)
        · obtain ⟨hkind, hlong⟩ := Kind.fails_readValue.1 (fails_map.1 hfails)
          refine ⟨hevent, haction, hkind, raw, ?_, hlong⟩
          rcases hkind with hkind | hkind <;> rw [hkind] at hraw <;> exact hraw
      · rintro ⟨-, -, hkind, raw, hraw, hlong⟩
        have hvalue : p.value? t.node.kind.valueField.name = some raw := by
          rcases hkind with hkind | hkind <;> rw [hkind] <;> exact hraw
        rw [hvalue]
        exact fails_map.2 (Kind.fails_readValue.2 ⟨hkind, hlong⟩)
    · rw [if_pos (by simpa [EventKind.action] using haction)]
      exact iff_of_false (not_fails_ok _) fun h => haction h.action

namespace Routing

variable {lookup : Lookup} {routeInner : Payload → Routing (List Dispatch)} {p : Payload}

/-- A delivery comes to one of its targets at a desk: what comes before the target goes through. -/
inductive ComesTo (lookup : Lookup) (routeInner : Payload → Routing (List Dispatch)) (p : Payload) :
    List Target → Desk → Target → Desk → Prop
  | here (t : Target) (ts : List Target) (d : Desk) : ComesTo lookup routeInner p (t :: ts) d t d
  | later {t t' : Target} {ts : List Target} {d d₁ d' : Desk} {first : Option Dispatch}
    (hfirst : (deliver lookup routeInner p t).run d = (.ok first, d₁))
    (hrest : ComesTo lookup routeInner p ts d₁ t' d') : ComesTo lookup routeInner p (t :: ts) d t' d'

theorem deliverAll_cons_error {f : Failure} {t : Target} {ts : List Target} {d : Desk} :
    ((deliverAll lookup routeInner p (t :: ts)).run d).1 = .error f ↔
      ((deliver lookup routeInner p t).run d).1 = .error f ∨
      ∃ first d₁, (deliver lookup routeInner p t).run d = (.ok first, d₁) ∧
        ((deliverAll lookup routeInner p ts).run d₁).1 = .error f := by
  rw [deliverAll, run_bind_error_iff]
  simp only [run_bind_pure_error_iff]

/-- A delivery fails where it comes to a target at which it fails. -/
theorem deliverAll_error_iff {f : Failure} : ∀ {ts : List Target} {d : Desk},
    ((deliverAll lookup routeInner p ts).run d).1 = .error f ↔
      ∃ t d', ComesTo lookup routeInner p ts d t d' ∧ ((deliver lookup routeInner p t).run d').1 = .error f
  | [], d => by
    refine iff_of_false nofun ?_
    rintro ⟨t, d', hcomes, -⟩
    cases hcomes
  | t :: ts, d => by
    rw [deliverAll_cons_error]
    constructor
    · rintro (herror | ⟨first, d₁, hfirst, hrest⟩)
      · exact ⟨t, d, .here t ts d, herror⟩
      · obtain ⟨t', d', hcomes, herror⟩ := deliverAll_error_iff.1 hrest
        exact ⟨t', d', .later hfirst hcomes, herror⟩
    · rintro ⟨t', d', hcomes, herror⟩
      cases hcomes with
      | here => exact .inl herror
      | later hfirst hcomes => exact .inr ⟨_, _, hfirst, deliverAll_error_iff.2 ⟨t', d', hcomes, herror⟩⟩

/-- A delivery fails at one target at most. -/
theorem ComesTo.unique {f f' : Failure} {ts : List Target} {d d₁ d₂ : Desk} {t₁ t₂ : Target}
    (h₁ : ComesTo lookup routeInner p ts d t₁ d₁) (h₂ : ComesTo lookup routeInner p ts d t₂ d₂)
    (he₁ : ((deliver lookup routeInner p t₁).run d₁).1 = .error f)
    (he₂ : ((deliver lookup routeInner p t₂).run d₂).1 = .error f') : t₁ = t₂ ∧ d₁ = d₂ := by
  induction h₁ with
  | here t ts d =>
    cases h₂ with
    | here => exact ⟨rfl, rfl⟩
    | later hfirst =>
      rw [hfirst] at he₁
      cases he₁
  | later hfirst hrest ih =>
    cases h₂ with
    | here =>
      rw [hfirst] at he₂
      cases he₂
    | later hfirst' hrest' =>
      rw [hfirst] at hfirst'
      cases hfirst'
      exact ih hrest' he₁

/-- One delivery fails because the value cannot be read, or because the callback fails. -/
theorem deliver_error_iff {t : Target} {d : Desk} {f : Failure} :
    ((deliver lookup routeInner p t).run d).1 = .error f ↔
      (∃ n, matchEvent t.node.kind t.listener.event p = .error n ∧ f = .numeral n) ∨
      ∃ value, matchEvent t.node.kind t.listener.event p = .ok (.accepted value) ∧
        ((callback lookup routeInner t value).run d).1 = .error f := by
  rw [run_deliver]
  rcases matchEvent t.node.kind t.listener.event p with n | (_ | raw | value)
  · simp [eq_comm]
  · simp
  · simp
  · dsimp only
    rcases hcall : (callback lookup routeInner t value).run d with ⟨g | ⟨⟩, d'⟩ <;> simp [hcall]

/-- A failure of a delivery that a callback raised. -/
def RaisedByCallback (lookup : Lookup) (routeInner : Payload → Routing (List Dispatch)) (p : Payload) (ts : List Target)
    (d : Desk) (f : Failure) : Prop :=
  ∃ t d' value, ComesTo lookup routeInner p ts d t d' ∧
    matchEvent t.node.kind t.listener.event p = .ok (.accepted value) ∧
    ((callback lookup routeInner t value).run d').1 = .error f

end Routing

section Route

variable {lookup : Lookup} {nodes : List (NodeId × Node)} {depth : Nat} {p : Payload} {d : Desk}

theorem route_error_iff {f : Failure} : ((route lookup nodes (depth + 1) p).run d).1 = .error f ↔
    ((deliverAll lookup (route lookup nodes depth) p (targets nodes p)).run (d.received p)).1 = .error f := by
  rw [run_route]
  unfold Desk.received
  rcases (deliverAll lookup (route lookup nodes depth) p (targets nodes p)).run
    (d.note (.report (.received p.action p.target p.fieldNames))) with ⟨g | made, d'⟩
  · exact Iff.rfl
  · exact iff_of_false nofun nofun

/-- Routing raises what callbacks raise, unless it comes to a listener that is given a numeral that is too long. -/
theorem route_raises_iff :
    (∀ f, ((route lookup nodes (depth + 1) p).run d).1 = .error f →
      RaisedByCallback lookup (route lookup nodes depth) p (targets nodes p) (d.received p) f) ↔
    ¬ ∃ t d', ComesTo lookup (route lookup nodes depth) p (targets nodes p) (d.received p) t d' ∧
      t.HearsOverlong p := by
  constructor
  · rintro hraised ⟨t, d', hcomes, hoverlong⟩
    obtain ⟨n, hn⟩ := fails_matchEvent.2 hoverlong
    have herror : ((deliver lookup (route lookup nodes depth) p t).run d').1 = .error (.numeral n) :=
      deliver_error_iff.2 (.inl ⟨n, hn, rfl⟩)
    obtain ⟨t', d'', value, hcomes', haccepted, hcall⟩ :=
      hraised _ (route_error_iff.2 (deliverAll_error_iff.2 ⟨t, d', hcomes, herror⟩))
    -- the delivery fails at one target only, which cannot both be unreadable and have been called
    obtain ⟨rfl, rfl⟩ := hcomes.unique hcomes' herror (deliver_error_iff.2 (.inr ⟨value, haccepted, hcall⟩))
    rw [hn] at haccepted
    cases haccepted
  · intro hnone f herror
    obtain ⟨t, d', hcomes, hdeliver⟩ := deliverAll_error_iff.1 (route_error_iff.1 herror)
    rcases deliver_error_iff.1 hdeliver with ⟨n, hn, -⟩ | ⟨value, haccepted, hcall⟩
    · exact absurd ⟨t, d', hcomes, fails_matchEvent.1 ⟨n, hn⟩⟩ hnone
    · exact ⟨t, d', value, hcomes, haccepted, hcall⟩

end Route

/-- Malformed text is raised where a numeral is too long, and nowhere else: not by a kind that reads a value, not by
the readers of properties, not by a resolution, and not by routing, apart from what callbacks raise. -/
theorem raises_only_overlong (kind : Kind) (raw : String) (properties : Properties) (lookup : Lookup)
    (nodes : List (NodeId × Node)) (depth : Nat) (p : Payload) (d : Desk) :
    (Fails (kind.readValue raw) ↔ (kind = .numberField ∨ kind = .slider) ∧ Overlong (trimChars raw.toList)) ∧
    (Fails (readPixels raw) ↔ Overlong (unitless raw)) ∧ (Fails (readSize raw) ↔ Overlong (unitless raw)) ∧
    (Fails (resolve kind properties) ↔ ∃ q ∈ properties.entries, Stops kind properties q) ∧
    ((∀ f, ((route lookup nodes (depth + 1) p).run d).1 = .error f →
      RaisedByCallback lookup (route lookup nodes depth) p (targets nodes p) (d.received p) f) ↔
      ¬ ∃ t d', ComesTo lookup (route lookup nodes depth) p (targets nodes p) (d.received p) t d' ∧
        t.HearsOverlong p) := by
  refine ⟨?_, ?_, ?_, ?_, ?_⟩
  · exact Kind.fails_readValue
  · exact fails_readPixels
  · exact fails_readSize
  · exact fails_resolve
  · exact route_raises_iff

/-! ## One digit more than are read -/

theorem trimChars_replicate {c : Char} (h : isBlank c = false) (n : Nat) :
    trimChars (List.replicate n c) = List.replicate n c := by
  simp [trimChars, dropEndWhile, h]

theorem lowerAfter_nines : ∀ (before : List Char) (n : Nat),
    lowerAfter before (List.replicate n '9') = List.replicate n '9'
  | _, 0 => rfl
  | before, n + 1 => by
    have hstays : mapCase lowerRows lowerSequences '9' = ['9'] := by decide
    rw [List.replicate_succ, lowerAfter, if_neg (by decide), hstays, lowerAfter_nines]
    rfl

theorem overlong_nines : Overlong (trimChars nines.toList) := by
  rw [toList_nines, trimChars_replicate (by decide)]
  exact overlong_replicate (Nat.lt_succ_self _)

theorem unitless_nines : unitless nines = trimChars nines.toList := by
  have hplain : dropPx nines.toList = nines.toList := by
    unfold dropPx lowerChars
    rw [toList_nines, lowerAfter_nines, if_neg]
    intro hsuffix
    -- no nine is the last character of a unit
    have hx : 'x' ∈ List.replicate (Token.digitLimit + 1) '9' :=
      (List.isSuffixOf_iff_suffix.1 hsuffix).subset (by decide)
    cases List.eq_of_mem_replicate hx
  have hwhole : trimChars nines.toList = nines.toList := by rw [toList_nines, trimChars_replicate (by decide)]
  rw [unitless, hwhole, hplain, hwhole]

/-- A move of a slider whose listeners do nothing raises what no callback has raised. -/
theorem raised_by_nines :
    Fails (Kind.slider.readValue nines) ∧ Fails (readPixels nines) ∧ Fails (readSize nines) ∧
    Fails (resolve .group (Bag.ofList [("flex-weight", nines)])) ∧
    ∃ f, ((route .own (preparedMixer.walk [0, 1]) 1 (volumeTo nines)).run ⟨∅, []⟩).1 = .error f ∧
      ¬ RaisedByCallback .own (route .own (preparedMixer.walk [0, 1]) 0) (volumeTo nines)
        (targets (preparedMixer.walk [0, 1]) (volumeTo nines)) (Desk.received ⟨∅, []⟩ (volumeTo nines)) f := by
  have hlong : Overlong (unitless nines) := unitless_nines ▸ overlong_nines
  refine ⟨?_, ?_, ?_, ?_, ?_⟩
  · exact Kind.fails_readValue.2 ⟨.inr rfl, overlong_nines⟩
  · exact fails_readPixels.2 hlong
  · exact fails_readSize.2 hlong
  · exact fails_resolve.2 ⟨_, List.mem_cons_self .., .integer (by decide) hlong⟩
  · by_contra hnone
    push Not at hnone
    refine route_raises_iff.1 hnone ⟨_, _, .here .., ?_⟩
    exact ⟨rfl, rfl, .inr rfl, nines, rfl, overlong_nines⟩

end Overlay
