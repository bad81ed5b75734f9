/-
Trees without their parents. Emission, initial values, the search for a user id and routing follow the
children and never ask for a parent, so stores whose trees differ in the parents alone are alike to them.
-/
import Overlay.Event.Router
import Overlay.Proofs.Element.Edit
import Overlay.Proofs.Element.Find

namespace Overlay

open Overlay.Tree

/-! ## Bare nodes and trees -/

/-- A node that tells nothing of its parent. -/
def Node.bare (n : Node) : Node := { n with parent := none }

/-- A node of a walk, bare. -/
def bareEntry (n : NodeId × Node) : NodeId × Node := (n.1, n.2.bare)

def Tree.bare (t : Tree) : Tree := t.map fun _ n => n.bare

/-- Filling in a frozen node gives it a parent at most. -/
theorem Node.FilledIn.bare {a b : Node} (h : a.FilledIn b) (ha : a.Frozen) : b.bare = a.bare := by
  have hsealed : b.isSealed = a.isSealed := (h.isSealed ha.isSealed).trans ha.isSealed.symm
  rw [h.rest, h.internalId ha.identified, hsealed]
  rfl

theorem Tree.flattenAll_bare (ts : List Tree) : flattenAll (ts.map Tree.bare) = (flattenAll ts).map bareEntry :=
  flattenAll_map _ ts

/-! ## What does not ask for parents -/

mutual

theorem Tree.emit_bare (setup : Setup) :
    ∀ (t : Tree) (scope : String) (names : StyleNames), t.bare.emit setup scope names = t.emit setup scope names
  | node i n ts, scope, names => by
    show (node i n.bare (mapAll _ ts)).emit setup scope names = _
    simp only [Tree.emit, Tree.emitAll_bare setup ts]
    rfl

theorem Tree.emitAll_bare (setup : Setup) :
    ∀ (ts : List Tree) (scope : String) (names : StyleNames),
      Tree.emitAll setup scope names (mapAll (fun _ n => n.bare) ts) = Tree.emitAll setup scope names ts
  | [], _, _ => rfl
  | t :: ts, scope, names => by
    simp only [mapAll, Tree.emitAll, Tree.emitAll_bare setup ts]
    rw [show (t.map fun _ n => n.bare) = t.bare from rfl, Tree.emit_bare setup t]

end

theorem emit_bare (setup : Setup) (ts : List Tree) (blocks : List Block) (baseFile : Option String) :
    emit setup (ts.map Tree.bare) blocks baseFile = emit setup ts blocks baseFile := by
  have h : ts.map Tree.bare = mapAll (fun _ n => n.bare) ts := (mapAll_eq_map _ ts).symm
  simp only [emit, h, Tree.emitAll_bare]

/-- A listener with its node, bare. -/
def Target.bare (t : Target) : Target := ⟨t.id, t.node.bare, t.listener⟩

theorem targets_bare (nodes : List (NodeId × Node)) (p : Payload) :
    targets (nodes.map bareEntry) p = (targets nodes p).map Target.bare := by
  unfold targets
  rw [List.filter_map, List.flatMap_map, List.map_flatMap]
  simp only [List.map_map]
  rfl

theorem Routing.deliverAll_bare (lookup : Lookup) (routeInner : Payload → Routing (List Dispatch)) (p : Payload) :
    ∀ ts : List Target, deliverAll lookup routeInner p (ts.map Target.bare) = deliverAll lookup routeInner p ts
  | [] => rfl
  | t :: ts => by
    have h : deliver lookup routeInner p t.bare = deliver lookup routeInner p t := rfl
    simp only [List.map_cons, deliverAll, h, deliverAll_bare lookup routeInner p ts]

/-- Events are routed alike, however deep callbacks have them routed. -/
theorem route_bare (lookup : Lookup) (nodes : List (NodeId × Node)) (depth : Nat) :
    ∀ p : Payload, route lookup (nodes.map bareEntry) depth p = route lookup nodes depth p := by
  induction depth with
  | zero => exact fun p => rfl
  | succ depth ih =>
    intro p
    -- the induction hypothesis is what callbacks route with
    have hinner : route lookup (nodes.map bareEntry) depth = route lookup nodes depth := funext ih
    simp only [route, targets_bare, Routing.deliverAll_bare, hinner]

/-! ## Stores that are alike -/

/-- A store with as many nodes and, up to parents, the same trees below some roots. -/
structure Store.Alike (roots : List NodeId) (s s' : Store) : Prop where
  size : s'.size = s.size
  forest : (s'.forest roots).map Tree.bare = (s.forest roots).map Tree.bare

namespace Store

namespace Alike

variable {roots : List NodeId} {s s' : Store}

theorem walk (h : s.Alike roots s') : (s'.walk roots).map bareEntry = (s.walk roots).map bareEntry := by
  unfold Store.walk
  rw [← flattenAll_bare, ← flattenAll_bare, h.forest]

theorem emit (h : s.Alike roots s') (setup : Setup) (blocks : List Block) (baseFile : Option String) :
    Overlay.emit setup (s'.forest roots) blocks baseFile = Overlay.emit setup (s.forest roots) blocks baseFile := by
  rw [← emit_bare, h.forest, emit_bare]

theorem initialCache (h : s.Alike roots s') : s'.initialCache roots = s.initialCache roots := by
  have hentry : initialEntry? ∘ bareEntry = initialEntry? := rfl
  unfold Store.initialCache
  rw [← hentry, ← List.filterMap_map, ← List.filterMap_map, h.walk]

theorem findByUserId (h : s.Alike roots s') (id : String) : s'.findByUserId roots id = s.findByUserId roots id := by
  have hfind : ∀ l : List (NodeId × Node), ((l.map bareEntry).find? fun n => n.2.userId = some id).map Prod.fst =
      (l.find? fun n => n.2.userId = some id).map Prod.fst := by
    intro l
    rw [List.find?_map, Option.map_map]
    rfl
  unfold Store.findByUserId
  rw [← hfind, h.walk, hfind]

theorem route (h : s.Alike roots s') (lookup : Lookup) (depth : Nat) (p : Payload) :
    Overlay.route lookup (s'.walk roots) depth p = Overlay.route lookup (s.walk roots) depth p := by
  rw [← route_bare, h.walk, route_bare]

/-- A change of one node that leaves its children and its parent alone, made in both stores. -/
theorem update (h : s.Alike roots s') {f : Node → Node} (hc : ∀ n, (f n).children = n.children)
    (hf : ∀ n, (f n).bare = f n.bare) (i : NodeId) : (s.update i f).Alike roots (s'.update i f) := by
  -- both forests change by one map, which sets the field whatever the parents are
  have hbare : ∀ t : Store, t.size = s.size → ((t.update i f).forest roots).map Tree.bare =
      ((t.forest roots).map Tree.bare).map (Tree.map fun j n => if i = j ∧ j < s.size then f n else n) := by
    intro t ht
    rw [forest_update hc, List.map_map, List.map_map]
    refine List.map_congr_left fun u _ => ?_
    simp only [Function.comp_apply, Tree.bare, map_map, ht]
    congr 1
    funext j n
    split
    · exact hf n
    · rfl
  refine ⟨by simp [h.size], ?_⟩
  rw [hbare s' h.size, hbare s rfl, h.forest]

end Alike

/-- Filling in leaves a store alike to frozen trees. -/
theorem FilledIn.alike {roots : List NodeId} {s s' : Store} (h : s.FilledIn s')
    (hr : ∀ n ∈ s.walk roots, (s.node n.1).Frozen) : s.Alike roots s' := by
  refine ⟨h.size, ?_⟩
  rw [forest_of_children h.children h.size, List.map_map]
  refine List.map_congr_left fun t ht => ?_
  simp only [Function.comp_apply, Tree.bare, map_map]
  refine map_congr t fun n hn => ?_
  have hmem : n ∈ s.walk roots := mem_flattenAll.2 ⟨t, ht, hn⟩
  rw [(h.node n.1).bare (hr n hmem), s.walk_content roots n hmem]

end Store

end Overlay
