/-
Segments of programs. Whatever hooks and blocks add, the bindings of each node stand in the program of
its tree, one after another and in the order in which its listeners were registered.
-/
import Overlay.Proofs.Run

namespace Overlay

open Overlay.Tree

/-- The parts of a tree's segment: what its hooks add before and after, the definition and the use of its style,
its own definition with its bindings, and the segments of its subtrees. -/
theorem Tree.emit_parts {setup : Setup} {scope : String} {names names' : StyleNames} {i : NodeId} {n : Node}
    {ts : List Tree} {p : Program} (h : (node i n ts).emit setup scope names = .ok (p, names')) :
    ∃ selector before define use inside inner after, n.selector scope = .ok selector ∧
      runHooks n.before selector = .ok before ∧ n.hoist setup scope selector names = .ok (define, use, inside) ∧
      Tree.emitAll setup selector inside ts = .ok (inner, names') ∧ runHooks n.after selector = .ok after ∧
      p = before ++ ⟨define ++ [.insert scope n.definition], n.bindings selector⟩ ++ inner ++ .ofCommands use ++
        after := by
  rw [Tree.emit] at h
  obtain ⟨selector, hs, h⟩ := bind_eq_ok h
  obtain ⟨before, hbefore, h⟩ := bind_eq_ok h
  obtain ⟨⟨define, use, inside⟩, hhoist, h⟩ := bind_eq_ok h
  obtain ⟨⟨inner, outside⟩, hinner, h⟩ := bind_eq_ok h
  obtain ⟨after, hafter, h⟩ := bind_eq_ok h
  cases h
  exact ⟨selector, before, define, use, inside, inner, after, hs, hbefore, hhoist, hinner, hafter, rfl⟩

/-- A node with its subtrees is emitted once its parts are. -/
theorem Tree.emit_of_parts {setup : Setup} {scope selector : String} {names inside names' : StyleNames} (i : NodeId)
    {n : Node} {ts : List Tree} {before inner after : Program} {define use : List Command}
    (hs : n.selector scope = .ok selector) (hb : runHooks n.before selector = .ok before)
    (hh : n.hoist setup scope selector names = .ok (define, use, inside))
    (hi : Tree.emitAll setup selector inside ts = .ok (inner, names')) (ha : runHooks n.after selector = .ok after) :
    (node i n ts).emit setup scope names =
      .ok (before ++ ⟨define ++ [.insert scope n.definition], n.bindings selector⟩ ++ inner ++ .ofCommands use ++ after,
        names') := by
  rw [Tree.emit, bind_of_ok hs, bind_of_ok hb, bind_of_ok hh]
  dsimp only
  rw [bind_of_ok hi]
  dsimp only
  rw [bind_of_ok ha]
  rfl

mutual

/-- The bindings of every node of a tree stand together in its segment. -/
theorem Tree.bindings_in_segment (setup : Setup) : ∀ (t : Tree) {scope : String} {names names' : StyleNames}
    {p : Program}, t.emit setup scope names = .ok (p, names') → ∀ n ∈ t.flatten,
      ∃ selector, n.2.bindings selector <:+: p.bindings
  | node i n ts, _, _, _, _, h, m, hm => by
    obtain ⟨selector, before, define, use, inside, inner, after, -, -, -, hinner, -, rfl⟩ := emit_parts h
    rw [flatten] at hm
    simp only [Program.bindings_append]
    rcases List.mem_cons.1 hm with rfl | hm
    · exact ⟨selector, List.infix_append_of_infix_left (List.infix_append_of_infix_left
        (List.infix_append_of_infix_left (List.suffix_append _ _).isInfix))⟩
    · obtain ⟨selector', hpart⟩ := Tree.bindings_in_segments setup ts hinner m hm
      exact ⟨selector', List.infix_append_of_infix_left (List.infix_append_of_infix_left
        (hpart.trans (List.suffix_append _ _).isInfix))⟩

theorem Tree.bindings_in_segments (setup : Setup) : ∀ (ts : List Tree) {scope : String} {names names' : StyleNames}
    {p : Program}, Tree.emitAll setup scope names ts = .ok (p, names') → ∀ n ∈ flattenAll ts,
      ∃ selector, n.2.bindings selector <:+: p.bindings
  | [], _, _, _, _, _, _, hm => by cases hm
  | t :: ts, _, _, _, _, h, m, hm => by
    rw [Tree.emitAll] at h
    obtain ⟨⟨first, between⟩, hfirst, h⟩ := bind_eq_ok h
    obtain ⟨⟨rest, last⟩, hrest, h⟩ := bind_eq_ok h
    cases h
    rw [flattenAll] at hm
    simp only [Program.bindings_append]
    rcases List.mem_append.1 hm with hm | hm
    · obtain ⟨selector, hpart⟩ := Tree.bindings_in_segment setup t hfirst m hm
      exact ⟨selector, List.infix_append_of_infix_left hpart⟩
    · obtain ⟨selector, hpart⟩ := Tree.bindings_in_segments setup ts hrest m hm
      exact ⟨selector, hpart.trans (List.suffix_append _ _).isInfix⟩

end

/-- The bindings of every node stand together in the program. -/
theorem emit_bindings {setup : Setup} {ts : List Tree} {blocks : List Block} {baseFile : Option String} {p : Program}
    (h : emit setup ts blocks baseFile = .ok p) {n : NodeId × Node} (hn : n ∈ flattenAll ts) :
    ∃ selector, n.2.bindings selector <:+: p.bindings := by
  obtain ⟨edits, -, h⟩ := bind_eq_ok h
  obtain ⟨⟨segments, names⟩, hsegments, h⟩ := bind_eq_ok h
  cases h
  obtain ⟨selector, hpart⟩ := Tree.bindings_in_segments setup ts hsegments n hn
  exact ⟨selector, hpart.trans (List.suffix_append _ _).isInfix⟩

end Overlay
