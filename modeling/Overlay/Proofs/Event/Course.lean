/-
The course of a routing. Events are numbered in the order in which they are received. The log of a routing says
for each entry which event it is about, for what is received while a call is open is routed inside of that call:
a reader that keeps track of the open calls knows the number of the event. The log is well nested, target by target
and call by call, however deep callbacks have further events routed, and also where some of them give up and others
go on.
-/
import Overlay.Proofs.Event.Routing

namespace Overlay

/-! ## Reading a log -/

namespace Log

theorem calls_append (l l' : Log) : calls (l ++ l') = calls l ++ calls l' := List.filterMap_append

theorem reports_append (l l' : Log) : reports (l ++ l') = reports l ++ reports l' := List.filterMap_append

end Log

/-- Entries that are about one event; what callbacks read and raise and what is pushed is about none. -/
def Entry.isAboutEvent : Entry → Bool
  | .report _ => true
  | .call _ => true
  | .read .. => false
  | .raised _ => false
  | .push _ => false

namespace Log

/-- Where a reader of a log stands: how many events were received so far, and for each open call, the innermost
first, and at last for the outside of all calls, which event was received there last. -/
structure Reader where
  received : Nat := 0
  levels : List (Option Nat) := [none]

namespace Reader

/-- A call opens a level, and the report that it was dispatched or the failure that it has raised closes it. -/
def after (r : Reader) : Entry → Reader
  | .report (.received ..) => ⟨r.received + 1, some r.received :: r.levels.tail⟩
  | .report (.dispatched ..) => ⟨r.received, r.levels.tail⟩
  | .call _ => ⟨r.received, none :: r.levels⟩
  | .raised _ => ⟨r.received, r.levels.tail⟩
  | _ => r

/-- The number of the event that an entry is about. -/
def event? (r : Reader) : Entry → Option Nat
  | .report (.received ..) => some r.received
  | .report (.dispatched ..) => r.levels.tail.head?.join
  | .report _ => r.levels.head?.join
  | .call _ => r.levels.head?.join
  | _ => none

/-- The entries with the numbers of their events, and where the reader stands after them. -/
def read (r : Reader) : Log → List (Nat × Entry) × Reader
  | [] => ([], r)
  | e :: es => (((r.event? e).map (·, e)).toList ++ ((r.after e).read es).1, ((r.after e).read es).2)

end Reader

/-- The entries of a log with the numbers of their events. -/
def byEvent (l : Log) : List (Nat × Entry) := (Reader.read {} l).1

/-- The entries that are about one event. -/
def about (l : Log) (k : Nat) : Log := (l.byEvent.filter (·.1 = k)).map Prod.snd

/-- Going over a part of a log, a reader gets numbers for all its entries that are about an event. -/
structure Reads (r : Reader) (es : Log) (xs : List (Nat × Entry)) (r' : Reader) : Prop where
  read : r.read es = (xs, r')
  complete : xs.map Prod.snd = es.filter Entry.isAboutEvent

namespace Reads

variable {r r₁ r₂ : Reader} {e : Entry} {es es' : Log} {xs ys : List (Nat × Entry)}

theorem nil (r : Reader) : Reads r [] [] r := ⟨rfl, rfl⟩

theorem cons {k : Nat} (he : e.isAboutEvent) (hk : r.event? e = some k) (hr : r.after e = r₁)
    (h : Reads r₁ es xs r₂) : Reads r (e :: es) ((k, e) :: xs) r₂ := by
  refine ⟨?_, ?_⟩
  · rw [Reader.read, hr, h.read, hk]
    rfl
  · rw [List.filter_cons_of_pos he, List.map_cons, h.complete]

/-- Entries about no event are passed over. -/
theorem skip (he : e.isAboutEvent = false) (hk : r.event? e = none) (hr : r.after e = r₁)
    (h : Reads r₁ es xs r₂) : Reads r (e :: es) xs r₂ := by
  refine ⟨?_, ?_⟩
  · rw [Reader.read, hr, h.read, hk]
    rfl
  · rw [List.filter_cons_of_neg (by simp [he]), h.complete]

theorem append (h : Reads r es xs r₁) (h' : Reads r₁ es' ys r₂) : Reads r (es ++ es') (xs ++ ys) r₂ := by
  refine ⟨?_, by rw [List.map_append, List.filter_append, h.complete, h'.complete]⟩
  have hread := h.read
  clear h
  induction es generalizing r xs with
  | nil =>
    cases hread
    exact h'.read
  | cons e es ih =>
    obtain ⟨rfl, rfl⟩ := Prod.mk.inj hread
    rw [List.cons_append, Reader.read, ih rfl, List.append_assoc]

end Reads

end Log

/-! ## Courses -/

/-- The entry for an event that is received. -/
def Payload.receipt (p : Payload) : Entry := .report (.received p.action p.target p.fieldNames)

/-- What a routing ends with: a report if it went through and nobody was called. -/
def Payload.ending (p : Payload) (made : List Dispatch) (through : Bool) : Log :=
  if through ∧ made.isEmpty then [.report (.unmatched p.action p.target)] else []

namespace Target

variable (t : Target)

def dispatch (value : Option Value) : Dispatch := ⟨t.id, t.listener, value⟩

/-- A call of the listener's callback, in the presence of some cache. -/
def call (value : Option Value) (cache : Cache) : Call :=
  ⟨t.id, t.listener.event, t.listener.callback.id, value, cache⟩

def dispatched : Entry := .report (.dispatched (t.node.internalId.getD "") t.listener.event)

def unreadable (p : Payload) (raw : String) : Entry := .report (.unreadable p.action (t.node.internalId.getD "") raw)

end Target

/-- Where in a routing a part of its log is made: inside of a call, or while the event with a number is delivered
to targets, with which calls, and whether the delivery goes through. -/
inductive Stage where
  | inside
  | delivering (k : Nat) (p : Payload) (ts : List Target) (made : List Dispatch) (through : Bool)

/-- What happens at a stage, with the numbers of the events; the numbers of the events that are received go from the
first bound up to the second. A delivery does not go through if a value has too many digits or if a callback gives
up; the callback that had the event routed may go on all the same. -/
inductive Course (nodes : List (NodeId × Node)) : Stage → Nat → Nat → List (Nat × Entry) → Prop
  /-- A callback returns or gives up. -/
  | ended {n : Nat} : Course nodes .inside n n []
  /-- Inside of a call, events are routed one after another. -/
  | routed {n n₁ n₂ : Nat} {p : Payload} {made : List Dispatch} {through : Bool} {xs ys : List (Nat × Entry)}
    (inner : Course nodes (.delivering n p (targets nodes p) made through) (n + 1) n₁ xs)
    (later : Course nodes .inside n₁ n₂ ys) :
    Course nodes .inside n n₂ ((n, p.receipt) :: xs ++ (p.ending made through).map (n, ·) ++ ys)
  | delivered {n k : Nat} {p : Payload} : Course nodes (.delivering k p [] [] true) n n []
  | overlong {n k : Nat} {p : Payload} {t : Target} {ts : List Target} {e : NumeralTooLong}
    (h : matchEvent t.node.kind t.listener.event p = .error e) :
    Course nodes (.delivering k p (t :: ts) [] false) n n []
  | ignored {n n' k : Nat} {p : Payload} {t : Target} {ts : List Target} {made : List Dispatch} {through : Bool}
    {xs : List (Nat × Entry)} (h : matchEvent t.node.kind t.listener.event p = .ok .ignored)
    (later : Course nodes (.delivering k p ts made through) n n' xs) :
    Course nodes (.delivering k p (t :: ts) made through) n n' xs
  | unreadable {n n' k : Nat} {p : Payload} {t : Target} {ts : List Target} {made : List Dispatch} {through : Bool}
    {xs : List (Nat × Entry)} {raw : String}
    (h : matchEvent t.node.kind t.listener.event p = .ok (.unreadable raw))
    (later : Course nodes (.delivering k p ts made through) n n' xs) :
    Course nodes (.delivering k p (t :: ts) made through) n n' ((k, t.unreadable p raw) :: xs)
  | accepted {n n₁ n₂ k : Nat} {p : Payload} {t : Target} {ts : List Target} {made : List Dispatch} {through : Bool}
    {xs ys : List (Nat × Entry)} {value : Option Value} {cache : Cache}
    (h : matchEvent t.node.kind t.listener.event p = .ok (.accepted value))
    (inner : Course nodes .inside n n₁ xs) (later : Course nodes (.delivering k p ts made through) n₁ n₂ ys) :
    Course nodes (.delivering k p (t :: ts) (t.dispatch value :: made) through) n n₂
      ((k, .call (t.call value cache)) :: xs ++ (k, t.dispatched) :: ys)
  | raised {n n' k : Nat} {p : Payload} {t : Target} {ts : List Target} {xs : List (Nat × Entry)}
    {value : Option Value} {cache : Cache} (h : matchEvent t.node.kind t.listener.event p = .ok (.accepted value))
    (inner : Course nodes .inside n n' xs) :
    Course nodes (.delivering k p (t :: ts) [t.dispatch value] false) n n' ((k, .call (t.call value cache)) :: xs)

/-! ## The log of a routing -/

namespace Log

variable {nodes : List (NodeId × Node)} {es es' : Log} {p : Payload} {t : Target} {ts : List Target}
  {made : List Dispatch} {through : Bool}

/-- A part of a log that a callback leaves. -/
def Inside (nodes : List (NodeId × Node)) (es : Log) : Prop :=
  ∀ n o ls, ∃ n' o' xs, Course nodes .inside n n' xs ∧ Reads ⟨n, o :: ls⟩ es xs ⟨n', o' :: ls⟩

/-- A part of a log that is left by delivering an event to targets. -/
def Delivers (nodes : List (NodeId × Node)) (p : Payload) (ts : List Target) (made : List Dispatch) (through : Bool)
    (es : Log) : Prop :=
  ∀ n k ls, ∃ n' xs, Course nodes (.delivering k p ts made through) n n' xs ∧
    Reads ⟨n, some k :: ls⟩ es xs ⟨n', some k :: ls⟩

theorem inside_nil : Inside nodes [] := fun n o _ => ⟨n, o, [], .ended, .nil _⟩

theorem Inside.read (h : Inside nodes es) (id : String) (value : Option Value) :
    Inside nodes (.read id value :: es) := by
  intro n o ls
  obtain ⟨n', o', xs, hc, hr⟩ := h n o ls
  exact ⟨n', o', xs, hc, .skip rfl rfl rfl hr⟩

theorem reads_ending (p : Payload) (made : List Dispatch) (through : Bool) (n k : Nat) (ls : List (Option Nat)) :
    Reads ⟨n, some k :: ls⟩ (p.ending made through) ((p.ending made through).map (k, ·)) ⟨n, some k :: ls⟩ := by
  unfold Payload.ending
  split
  · exact .cons rfl rfl rfl (.nil _)
  · exact .nil _

/-- A reader gives a routing the next number. -/
theorem Delivers.routing (h : Delivers nodes p ts made through es) (n : Nat) (o : Option Nat)
    (ls : List (Option Nat)) :
    ∃ n' xs, Course nodes (.delivering n p ts made through) (n + 1) n' xs ∧
      Reads ⟨n, o :: ls⟩ (p.receipt :: es ++ p.ending made through)
        ((n, p.receipt) :: xs ++ (p.ending made through).map (n, ·)) ⟨n', some n :: ls⟩ := by
  obtain ⟨n', xs, hc, hr⟩ := h (n + 1) n ls
  have hreceipt : Reads ⟨n, o :: ls⟩ (p.receipt :: es) ((n, p.receipt) :: xs) ⟨n', some n :: ls⟩ :=
    .cons rfl rfl rfl hr
  exact ⟨n', xs, hc, hreceipt.append (reads_ending p made through n' n ls)⟩

theorem Inside.routed (h : Delivers nodes p (targets nodes p) made through es) (h' : Inside nodes es') :
    Inside nodes (p.receipt :: es ++ p.ending made through ++ es') := by
  intro n o ls
  obtain ⟨n₁, xs, hc, hr⟩ := h.routing n o ls
  obtain ⟨n₂, o', ys, hc', hr'⟩ := h' n₁ (some n) ls
  exact ⟨n₂, o', _, .routed hc hc', hr.append hr'⟩

theorem delivers_nil : Delivers nodes p [] [] true [] := fun n _ _ => ⟨n, [], .delivered, .nil _⟩

theorem delivers_overlong {e : NumeralTooLong} (hm : matchEvent t.node.kind t.listener.event p = .error e) :
    Delivers nodes p (t :: ts) [] false [] := fun n _ _ => ⟨n, [], .overlong hm, .nil _⟩

theorem Delivers.ignored (h : Delivers nodes p ts made through es)
    (hm : matchEvent t.node.kind t.listener.event p = .ok .ignored) : Delivers nodes p (t :: ts) made through es := by
  intro n k ls
  obtain ⟨n', xs, hc, hr⟩ := h n k ls
  exact ⟨n', xs, .ignored hm hc, hr⟩

theorem Delivers.unreadable (h : Delivers nodes p ts made through es) {raw : String}
    (hm : matchEvent t.node.kind t.listener.event p = .ok (.unreadable raw)) :
    Delivers nodes p (t :: ts) made through (t.unreadable p raw :: es) := by
  intro n k ls
  obtain ⟨n', xs, hc, hr⟩ := h n k ls
  exact ⟨n', _, .unreadable hm hc, .cons rfl rfl rfl hr⟩

/-- A call opens a level for the reader, and what a callback leaves is read there. -/
theorem Inside.call (h : Inside nodes es) (t : Target) (value : Option Value) (cache : Cache) (n k : Nat)
    (ls : List (Option Nat)) :
    ∃ n' o xs, Course nodes .inside n n' xs ∧
      Reads ⟨n, some k :: ls⟩ (.call (t.call value cache) :: es) ((k, .call (t.call value cache)) :: xs)
        ⟨n', o :: some k :: ls⟩ := by
  obtain ⟨n', o, xs, hc, hr⟩ := h n none (some k :: ls)
  exact ⟨n', o, xs, hc, .cons rfl rfl rfl hr⟩

theorem Delivers.accepted (h : Inside nodes es) (h' : Delivers nodes p ts made through es') {value : Option Value}
    (hm : matchEvent t.node.kind t.listener.event p = .ok (.accepted value)) (cache : Cache) :
    Delivers nodes p (t :: ts) (t.dispatch value :: made) through
      (.call (t.call value cache) :: es ++ t.dispatched :: es') := by
  intro n k ls
  obtain ⟨n₁, o, xs, hc, hr⟩ := h.call t value cache n k ls
  obtain ⟨n₂, ys, hc', hr'⟩ := h' n₁ k ls
  exact ⟨n₂, _, .accepted hm hc hc', hr.append (.cons rfl rfl rfl hr')⟩

theorem Inside.raised (h : Inside nodes es) {value : Option Value}
    (hm : matchEvent t.node.kind t.listener.event p = .ok (.accepted value)) (cache : Cache) (f : Failure) :
    Delivers nodes p (t :: ts) [t.dispatch value] false (.call (t.call value cache) :: es ++ [.raised f]) := by
  intro n k ls
  obtain ⟨n', o, xs, hc, hr⟩ := h.call t value cache n k ls
  have hend : Reads ⟨n', o :: some k :: ls⟩ [.raised f] [] ⟨n', some k :: ls⟩ := .skip rfl rfl rfl (.nil _)
  have hall := hr.append hend
  rw [List.append_nil] at hall
  exact ⟨n', _, .raised hm hc, hall⟩

/-- What delivering an event leaves, by what comes of it. -/
def Delivered (nodes : List (NodeId × Node)) (p : Payload) (ts : List Target) :
    Except Failure (List Dispatch) → Log → Prop
  | .ok made, es => Delivers nodes p ts made true es
  | .error _, es => ∃ made, Delivers nodes p ts made false es

/-- What a first target leaves comes before what the others leave. -/
theorem Delivered.after {r : Except Failure (List Dispatch)} {first : Option Dispatch} (h : Delivered nodes p ts r es)
    (hfirst : ∀ {made through}, Delivers nodes p ts made through es →
      Delivers nodes p (t :: ts) (first.toList ++ made) through es') :
    Delivered nodes p (t :: ts) (r.map (first.toList ++ ·)) es' := by
  rcases r with f | made
  · obtain ⟨made, h⟩ := h
    exact ⟨_, hfirst h⟩
  · exact hfirst h

/-- What a routing leaves, by what comes of it: nothing if events are nested too deep, and else its receipt, what its
targets and their callbacks leave, and its ending. -/
inductive Routed (nodes : List (NodeId × Node)) (p : Payload) : Except Failure (List Dispatch) → Log → Prop
  | refused (f : Failure) : Routed nodes p (.error f) []
  | through {made : List Dispatch} {es : Log} (h : Delivers nodes p (targets nodes p) made true es) :
    Routed nodes p (.ok made) (p.receipt :: es ++ p.ending made true)
  | broken {made : List Dispatch} {es : Log} (f : Failure) (h : Delivers nodes p (targets nodes p) made false es) :
    Routed nodes p (.error f) (p.receipt :: es ++ p.ending made false)

theorem Inside.after {r : Except Failure (List Dispatch)} (h : Routed nodes p r es) (h' : Inside nodes es') :
    Inside nodes (es ++ es') := by
  cases h with
  | refused => exact h'
  | through h => exact h'.routed h
  | broken _ h => exact h'.routed h

end Log

namespace Routing

open Log

variable {nodes : List (NodeId × Node)} {lookup : Lookup} {routeInner : Payload → Routing (List Dispatch)}

/-- What is routed inside of calls leaves in the log what routings leave. -/
def LeavesRoutings (nodes : List (NodeId × Node)) (routeInner : Payload → Routing (List Dispatch)) : Prop :=
  ∀ p d, ∃ es, Routed nodes p ((routeInner p).run d).1 es ∧ ((routeInner p).run d).2.log = d.log ++ es

theorem inside_of_follow (hin : LeavesRoutings nodes routeInner) (script : Script) :
    ∀ d : Desk, ∃ es, Inside nodes es ∧ ((follow lookup routeInner script).run d).2.log = d.log ++ es := by
  induction script with
  | done => exact fun d => ⟨[], inside_nil, (List.append_nil _).symm⟩
  | raise f => exact fun d => ⟨[], inside_nil, (List.append_nil _).symm⟩
  | read id next ih =>
    intro d
    rw [run_follow_read]
    obtain ⟨es, hes, hlog⟩ := ih _ _
    refine ⟨_, hes.read id ((lookup.cacheOver d.cache).value id), ?_⟩
    rw [hlog, Desk.note, List.append_assoc]
    rfl
  | send p next ih =>
    intro d
    rw [run_follow_send]
    obtain ⟨es, hes, hlog⟩ := hin p d
    obtain ⟨es', hes', hlog'⟩ := ih _ _
    refine ⟨es ++ es', .after hes hes', ?_⟩
    rw [hlog', hlog, List.append_assoc]

/-- What a callback leaves when it has returned or given up. -/
theorem inside_of_callback (lookup : Lookup) (hin : LeavesRoutings nodes routeInner) (t : Target)
    (value : Option Value) (d : Desk) :
    ∃ es cache, Inside nodes es ∧ ((callback lookup routeInner t value).run d).2.log =
      d.log ++ (.call (t.call value cache) :: es ++
        match ((callback lookup routeInner t value).run d).1 with
        | .ok () => []
        | .error f => [.raised f]) := by
  obtain ⟨es, hes, hlog⟩ := inside_of_follow hin (d.scriptOf t value) (d.called t value)
  refine ⟨es, d.remembered t.node.userId value, hes, ?_⟩
  rw [run_callback]
  rcases hr : (follow lookup routeInner (d.scriptOf t value)).run (d.called t value)
    with ⟨f | ⟨⟩, d'⟩ <;> rw [hr] at hlog <;> dsimp only at hlog ⊢
  · rw [Desk.note, hlog, Desk.called]
    simp [Desk.callOf, Target.call]
  · rw [hlog, Desk.called]
    simp [Desk.callOf, Target.call]

theorem run_deliverAll_of_ok {p : Payload} {t : Target} {first : Option Dispatch} {d d' : Desk}
    (h : (deliver lookup routeInner p t).run d = (.ok first, d')) (ts : List Target) :
    (deliverAll lookup routeInner p (t :: ts)).run d =
      (((deliverAll lookup routeInner p ts).run d').1.map (first.toList ++ ·),
        ((deliverAll lookup routeInner p ts).run d').2) := by
  rw [run_deliverAll_cons, h]
  dsimp only
  rcases (deliverAll lookup routeInner p ts).run d' with ⟨f | rest, d''⟩ <;> rfl

theorem delivered_of_deliverAll (lookup : Lookup) (hin : LeavesRoutings nodes routeInner) (p : Payload) :
    ∀ (ts : List Target) (d : Desk), ∃ es, Delivered nodes p ts ((deliverAll lookup routeInner p ts).run d).1 es ∧
      ((deliverAll lookup routeInner p ts).run d).2.log = d.log ++ es
  | [], d => ⟨[], delivers_nil, (List.append_nil _).symm⟩
  | t :: ts, d => by
    have hdeliver : (deliver lookup routeInner p t).run d = _ := run_deliver p t d
    -- one step for what the event means to the first target
    rcases hm : matchEvent t.node.kind t.listener.event p with e | (_ | raw | value) <;> rw [hm] at hdeliver <;>
      dsimp only at hdeliver
    · rw [run_deliverAll_cons, hdeliver]
      exact ⟨[], ⟨[], delivers_overlong hm⟩, (List.append_nil _).symm⟩
    · rw [run_deliverAll_of_ok hdeliver]
      obtain ⟨es, hes, hlog⟩ := delivered_of_deliverAll lookup hin p ts d
      exact ⟨es, hes.after fun h => h.ignored hm, hlog⟩
    · rw [run_deliverAll_of_ok hdeliver]
      obtain ⟨es, hes, hlog⟩ := delivered_of_deliverAll lookup hin p ts (d.note (t.unreadable p raw))
      refine ⟨_, hes.after fun h => h.unreadable hm, hlog.trans ?_⟩
      rw [Desk.note, List.append_assoc]
      rfl
    · obtain ⟨es, cache, hes, hlog⟩ := inside_of_callback lookup hin t value d
      rcases hcall : (callback lookup routeInner t value).run d with ⟨f | ⟨⟩, d₁⟩ <;> rw [hcall] at hdeliver hlog
      · rw [run_deliverAll_cons, hdeliver]
        exact ⟨_, ⟨_, hes.raised hm cache f⟩, hlog⟩
      · rw [run_deliverAll_of_ok hdeliver]
        obtain ⟨es', hes', hlog'⟩ := delivered_of_deliverAll lookup hin p ts (d₁.note t.dispatched)
        refine ⟨_, hes'.after fun h => .accepted hes h hm cache, hlog'.trans ?_⟩
        rw [Desk.note, hlog]
        simp

end Routing

open Log Routing

/-- A routing leaves what comes of delivering its event, between its receipt and its ending. -/
theorem routed_of_route (lookup : Lookup) (nodes : List (NodeId × Node)) : ∀ depth : Nat,
    LeavesRoutings nodes (route lookup nodes depth)
  | 0, p, d => ⟨[], .refused _, (List.append_nil _).symm⟩
  | depth + 1, p, d => by
    obtain ⟨es, hes, hlog⟩ := delivered_of_deliverAll lookup (routed_of_route lookup nodes depth) p
      (targets nodes p) (d.note p.receipt)
    rw [run_route, show Entry.report (.received p.action p.target p.fieldNames) = p.receipt from rfl]
    rcases hr : (deliverAll lookup (route lookup nodes depth) p (targets nodes p)).run (d.note p.receipt) with
      ⟨f | made, d₁⟩ <;> rw [hr] at hes hlog <;> dsimp only at hlog ⊢
    · obtain ⟨made, hes⟩ := hes
      refine ⟨_, .broken f hes, ?_⟩
      rw [hlog, Desk.note]
      simp [Payload.ending]
    · refine ⟨_, .through hes, ?_⟩
      -- the report that ends a routing without a call is all that comes after the targets
      unfold Payload.ending
      by_cases hmade : made.isEmpty
      · simp [hmade, Desk.note, hlog]
      · simp [hmade, Desk.note, hlog]

/-- A routing that goes through has gone to all its targets. -/
theorem delivers_of_route {lookup : Lookup} {nodes : List (NodeId × Node)} {depth : Nat} {p : Payload}
    {made : List Dispatch} {d d' : Desk} (h : (route lookup nodes depth p).run d = (.ok made, d')) :
    ∃ es, Delivers nodes p (targets nodes p) made true es ∧
      d'.log = d.log ++ (p.receipt :: es ++ p.ending made true) := by
  obtain ⟨es, hes, hlog⟩ := routed_of_route lookup nodes depth p d
  rw [h] at hes hlog
  cases hes with
  | through hes => exact ⟨_, hes, hlog⟩

/-- A reader of the log of a routing goes through it from beginning to end and loses nothing. -/
theorem course_byEvent {nodes : List (NodeId × Node)} {p : Payload} {made : List Dispatch} {through : Bool} {es : Log}
    (h : Delivers nodes p (targets nodes p) made through es) :
    (∃ n, Course nodes .inside 0 n (byEvent (p.receipt :: es ++ p.ending made through))) ∧
    (byEvent (p.receipt :: es ++ p.ending made through)).map Prod.snd =
      (p.receipt :: es ++ p.ending made through).filter Entry.isAboutEvent := by
  obtain ⟨n, xs, hc, hr⟩ := h.routing 0 none []
  unfold byEvent
  rw [hr.read]
  refine ⟨⟨n, ?_⟩, hr.complete⟩
  rw [← List.append_nil (_ ++ _)]
  exact .routed hc .ended

/-! ## Numbers along a course -/

/-- The event that is delivered at a stage. -/
def Stage.event? : Stage → Option Nat
  | inside => none
  | delivering k .. => some k

namespace Course

variable {nodes : List (NodeId × Node)} {stage : Stage} {n n' k : Nat} {p : Payload} {ts : List Target}
  {made : List Dispatch} {through : Bool} {xs : List (Nat × Entry)}

/-- Entries are under the number of the event that is delivered, or of one that is received meanwhile. -/
theorem numbers (h : Course nodes stage n n' xs) :
    n ≤ n' ∧ ∀ x ∈ xs, stage.event? = some x.1 ∨ n ≤ x.1 ∧ x.1 < n' := by
  induction h with
  | ended => simp
  | routed _ _ ihInner ihLater =>
    obtain ⟨hle, hinner⟩ := ihInner
    obtain ⟨hle', hlater⟩ := ihLater
    refine ⟨by omega, fun x hx => .inr ?_⟩
    rw [List.mem_append, List.mem_append, List.mem_cons, List.mem_map] at hx
    rcases hx with ((rfl | hx) | ⟨e, -, rfl⟩) | hx
    · exact ⟨Nat.le_refl _, by omega⟩
    · rcases hinner x hx with he | hx
      · cases he
        exact ⟨Nat.le_refl _, by omega⟩
      · omega
    · exact ⟨Nat.le_refl _, by omega⟩
    · rcases hlater x hx with he | hx
      · cases he
      · omega
  | delivered => simp
  | overlong => simp
  | ignored _ _ ih => exact ih
  | unreadable _ _ ih =>
    refine ⟨ih.1, fun x hx => ?_⟩
    rcases List.mem_cons.1 hx with rfl | hx
    · exact .inl rfl
    · exact ih.2 x hx
  | accepted _ _ _ ihInner ihLater =>
    obtain ⟨hle, hinner⟩ := ihInner
    obtain ⟨hle', hlater⟩ := ihLater
    refine ⟨by omega, fun x hx => ?_⟩
    rw [List.mem_append, List.mem_cons, List.mem_cons] at hx
    rcases hx with (rfl | hx) | (rfl | hx)
    · exact .inl rfl
    · rcases hinner x hx with he | hx
      · cases he
      · exact .inr (by omega)
    · exact .inl rfl
    · exact (hlater x hx).imp_right fun hx => by omega
  | raised _ _ ih =>
    obtain ⟨hle, hinner⟩ := ih
    refine ⟨hle, fun x hx => ?_⟩
    rcases List.mem_cons.1 hx with rfl | hx
    · exact .inl rfl
    · rcases hinner x hx with he | hx
      · cases he
      · exact .inr hx

theorem le (h : Course nodes stage n n' xs) : n ≤ n' := h.numbers.1

/-- Inside of a call all events are received there. -/
theorem numbers_inside (h : Course nodes .inside n n' xs) {x : Nat × Entry} (hx : x ∈ xs) : n ≤ x.1 ∧ x.1 < n' := by
  rcases h.numbers.2 x hx with he | hx
  · cases he
  · exact hx

theorem numbers_delivering (h : Course nodes (.delivering k p ts made through) n n' xs) {x : Nat × Entry}
    (hx : x ∈ xs) : x.1 = k ∨ n ≤ x.1 ∧ x.1 < n' :=
  (h.numbers.2 x hx).imp_left fun he => (Option.some.inj he).symm

end Course

end Overlay
