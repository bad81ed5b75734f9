/-
Routing: an event is matched against every listener of every node whose internal id is its target, in
document order, and each match is a call of the listener's callback. An activating listener fires on a
click, with no value. A listener for changed values fires when the node's kind reads a value from the
event; the value is in the cache before the callback runs. Callbacks may have further events routed,
over the same nodes, while the outer event is still on its way; if such a routing fails, the callback
that asked for it decides what to do.
-/
import Overlay.Element.Store
import Overlay.Report.Log

namespace Overlay

/-- Where callbacks read values: the router's cache, or another one that no event changes. -/
inductive Lookup where
  | own
  | other (c : Cache)

/-- The cache that callbacks read, given the router's own. -/
def Lookup.cacheOver (l : Lookup) (own : Cache) : Cache :=
  match l with
  | .own => own
  | .other c => c

/-- What routing changes: the cache and the log. -/
structure Desk where
  cache : Cache
  log : Log

abbrev Routing := ExceptT Failure (StateM Desk)

/-- A call that was made while routing an event. -/
structure Dispatch where
  node : NodeId
  listener : Listener
  value : Option Value

/-- A dispatch without what its callback does. -/
def Dispatch.line (x : Dispatch) : Made := ⟨x.node, x.listener.event, x.listener.callback.id, x.value⟩

/-! ## Matching -/

/-- What an event means to one listener. -/
inductive Match where
  /-- It is not for this listener. -/
  | ignored
  /-- It carries a raw value that the kind cannot read. -/
  | unreadable (raw : String)
  | accepted (value : Option Value)

/-- Matches an event with a listener for a kind of event on a node of a kind. -/
def matchEvent (kind : Kind) (event : EventKind) (p : Payload) : Except NumeralTooLong Match :=
  if p.action ≠ event.action then .ok .ignored
  else match event with
    | .activating => .ok (.accepted none)
    | .valueChanged => match p.value? kind.valueField.name with
      | none => .ok .ignored
      | some raw => (kind.readValue raw).map fun
        | none => .unreadable raw
        | some v => .accepted (some v)

/-- A listener with its node. -/
structure Target where
  id : NodeId
  node : Node
  listener : Listener

/-- The listeners of the nodes that an event is for, in document order and then in the order of
registration. -/
def targets (nodes : List (NodeId × Node)) (p : Payload) : List Target :=
  (nodes.filter fun n => n.2.internalId.isSome ∧ n.2.internalId = p.target).flatMap fun n =>
    n.2.listeners.map fun l => ⟨n.1, n.2, l⟩

namespace Routing

def note (e : Entry) : Routing Unit := modifyThe Desk fun d => { d with log := d.log ++ [e] }

def report (r : Report) : Routing Unit := note (.report r)

/-- Keeps a read value for a node that has a user id. -/
def remember (userId : Option String) (value : Option Value) : Routing Unit :=
  match userId, value with
  | some id, some v => modifyThe Desk fun d => { d with cache := d.cache.put id (some v) }
  | _, _ => pure ()

/-! ## Calls -/

/-- Runs a routing and gives what comes of it, be it a failure. -/
def attempt {α : Type} (x : Routing α) : Routing (Except Failure α) := ExceptT.lift x.run

/-- Follows a script; `routeInner` routes the events that it asks for. -/
def follow (lookup : Lookup) (routeInner : Payload → Routing (List Dispatch)) : Script → Routing Unit
  | .done => pure ()
  | .raise f => throw f
  | .read id next => do
    let value := (lookup.cacheOver (← getThe Desk).cache).value id
    note (.read id value)
    follow lookup routeInner (next value)
  | .send p next => do
    let outcome ← attempt (routeInner p)
    follow lookup routeInner (next (outcome.map fun made => made.map Dispatch.line))

/-- Ends a call; if the callback has given up, its failure is noted and passed on. -/
def endCall : Except Failure Unit → Routing Unit
  | .ok () => pure ()
  | .error f => do
    note (.raised f)
    throw f

/-- Calls the callback of a listener with a value. -/
def call (lookup : Lookup) (routeInner : Payload → Routing (List Dispatch)) (t : Target) (value : Option Value) :
    Routing Unit := do
  let d ← getThe Desk
  let c := t.listener.callback
  note (.call ⟨t.id, t.listener.event, c.id, value, d.cache⟩)
  endCall (← attempt (follow lookup routeInner (c.script d.log.calls value)))

/-- Matches an event with one listener and makes the call if it is accepted. -/
def deliver (lookup : Lookup) (routeInner : Payload → Routing (List Dispatch)) (p : Payload) (t : Target) :
    Routing (Option Dispatch) := do
  match matchEvent t.node.kind t.listener.event p with
  | .error n => throw (.numeral n)
  | .ok .ignored => return none
  | .ok (.unreadable raw) =>
    report (.unreadable p.action (t.node.internalId.getD "") raw)
    return none
  | .ok (.accepted value) =>
    remember t.node.userId value
    call lookup routeInner t value
    report (.dispatched (t.node.internalId.getD "") t.listener.event)
    return some ⟨t.id, t.listener, value⟩

def deliverAll (lookup : Lookup) (routeInner : Payload → Routing (List Dispatch)) (p : Payload) :
    List Target → Routing (List Dispatch)
  | [] => return []
  | t :: ts => do
    let first ← deliver lookup routeInner p t
    let rest ← deliverAll lookup routeInner p ts
    return first.toList ++ rest

end Routing

/-- Routes one event over nodes in document order; `depth` bounds how deep events may be routed
inside the calls that other events make. -/
def route (lookup : Lookup) (nodes : List (NodeId × Node)) : Nat → Payload → Routing (List Dispatch)
  | 0, _ => throw .nestedTooDeep
  | depth + 1, p => do
    Routing.report (.received p.action p.target p.fieldNames)
    let made ← Routing.deliverAll lookup (route lookup nodes depth) p (targets nodes p)
    if made.isEmpty then Routing.report (.unmatched p.action p.target)
    return made

end Overlay
