/-
Programs of isomorphic trees. Nothing in a program tells the ids of nodes in their store: isomorphic trees are
prepared to isomorphic ones, and these are emitted to one program, or fail with one failure.
-/
import Overlay.Program.Emit
import Overlay.Proofs.Element.Isomorphism
import Mathlib

namespace Overlay

/-! ## What nodes add -/

theorem runHooks_congr {selector : String} : ∀ {hs ks : List Hook}, ks.map Hook.run = hs.map Hook.run →
    runHooks ks selector = runHooks hs selector
  | [], [], _ => rfl
  | [], _ :: _, h => by cases h
  | _ :: _, [], h => by cases h
  | h :: hs, k :: ks, heq => by
    obtain ⟨hfirst, hrest⟩ := List.cons.inj heq
    rw [runHooks, runHooks, hfirst, runHooks_congr hrest]

namespace Node.Matches

variable {n m : Node}

theorem selector (h : n.Matches m) (scope : String) : m.selector scope = n.selector scope :=
  h.of_plain (f := fun n => n.selector scope) fun _ => rfl

theorem hoist (h : n.Matches m) (setup : Setup) (scope selector : String) (names : StyleNames) :
    m.hoist setup scope selector names = n.hoist setup scope selector names :=
  h.of_plain (f := fun n => n.hoist setup scope selector names) fun _ => rfl

theorem definition (h : n.Matches m) : m.definition = n.definition :=
  h.of_plain (f := Node.definition) fun _ => rfl

/-- The engine is asked for the same events. -/
theorem bindings (h : n.Matches m) (selector : String) : m.bindings selector = n.bindings selector := by
  have hdata : ∀ event, m.bindingData event selector = n.bindingData event selector := fun event =>
    h.of_plain (f := fun n => n.bindingData event selector) fun _ => rfl
  have hevents : ∀ a : Node, a.bindings selector =
      (a.listeners.map (·.event)).map fun event => ⟨event, selector, Bag.ofList (a.bindingData event selector)⟩ := by
    intro a
    rw [List.map_map]
    rfl
  rw [hevents, hevents, h.events]
  simp only [hdata]

/-- Nodes that match, over subtrees with the same segments, have the same segment. -/
theorem emit (h : n.Matches m) (i j : NodeId) {setup : Setup} {ts us : List Tree}
    (hsub : ∀ scope names, Tree.emitAll setup scope names us = Tree.emitAll setup scope names ts) (scope : String)
    (names : StyleNames) :
    (Tree.node j m us).emit setup scope names = (Tree.node i n ts).emit setup scope names := by
  simp only [Tree.emit, h.selector, runHooks_congr h.before, h.hoist, h.definition, h.bindings, hsub,
    runHooks_congr h.after]

end Node.Matches

/-- Lists of trees with the same segments have the same segments together. -/
theorem Tree.emitAll_congr {α : Type} {setup : Setup} {f g : α → Tree} : ∀ {l : List α},
    (∀ a ∈ l, ∀ scope names, (g a).emit setup scope names = (f a).emit setup scope names) →
    ∀ scope names, Tree.emitAll setup scope names (l.map g) = Tree.emitAll setup scope names (l.map f)
  | [], _, _, _ => rfl
  | a :: l, h, scope, names => by
    have hfirst := h a (List.mem_cons_self ..)
    have hrest := Tree.emitAll_congr fun b hb => h b (List.mem_cons_of_mem a hb)
    simp only [List.map_cons, Tree.emitAll, hfirst, hrest]

/-! ## Programs -/

namespace Store.Isomorphic

variable {s t : Store} {roots roots' : List NodeId} {σ : NodeId → NodeId}

/-- To any depth a tree has the segment of its counterpart. -/
theorem emit_tree (h : s.Isomorphic t roots roots' σ) (setup : Setup) : ∀ (d : Nat) (i : NodeId),
    s.Reached roots i → ∀ scope names, (t.tree d (σ i)).emit setup scope names = (s.tree d i).emit setup scope names
  | 0, i, hi => (h.alike i hi).emit i (σ i) fun _ _ => rfl
  | d + 1, i, hi => by
    refine (h.alike i hi).emit i (σ i) ?_
    rw [h.children i hi, List.map_map]
    refine Tree.emitAll_congr fun c hc => ?_
    obtain ⟨place, lister, hp⟩ := hi
    obtain ⟨k, hk⟩ := List.getElem?_of_mem hc
    exact h.emit_tree setup d c ⟨_, _, .child hp hk⟩

/-- Isomorphic trees that end have one program. -/
theorem emit (h : s.Isomorphic t roots roots' σ) (hs : s.Grounded roots) (ht : t.Grounded roots') (setup : Setup)
    (blocks : List Block) (baseFile : Option String) :
    Overlay.emit setup (t.forest roots') blocks baseFile = Overlay.emit setup (s.forest roots) blocks baseFile := by
  -- the stores differ in size, so both forests are followed to a depth that is enough for either
  have hdeep := hs.forest_deeper (Nat.le_max_left s.size t.size)
  have hdeep' := ht.forest_deeper (Nat.le_max_right s.size t.size)
  have hsegments : ∀ scope names, Tree.emitAll setup scope names (t.forest roots') =
      Tree.emitAll setup scope names (s.forest roots) := by
    rw [← hdeep, ← hdeep', h.top, List.map_map]
    refine Tree.emitAll_congr fun i hi => ?_
    obtain ⟨k, hk⟩ := List.getElem?_of_mem hi
    exact h.emit_tree setup _ i ⟨_, _, .root hk⟩
  simp only [Overlay.emit, hsegments]

/-- Isomorphic trees can not be told apart. A preparation refuses both for one reason, or accepts both; then
corresponding nodes have the same internal id, and emissions with one setup, one list of blocks and one base
file give the same program or the same failure. -/
theorem prepare_emit {s t : Store} {roots roots' : List NodeId} {σ : NodeId → NodeId}
    (h : s.Isomorphic t roots roots' σ) (hs : s.Closed) (ht : t.Closed) (hr : ∀ i ∈ roots, i < s.size)
    (hr' : ∀ i ∈ roots', i < t.size) :
    (∃ v, (Overlay.prepare roots).run s = (.error v, s) ∧ (Overlay.prepare roots').run t = (.error v, t)) ∨
    ∃ s' t', (Overlay.prepare roots).run s = (.ok (), s') ∧ (Overlay.prepare roots').run t = (.ok (), t') ∧
      (∀ i, s.Reached roots i → (t'.node (σ i)).internalId = (s'.node i).internalId) ∧
      ∀ setup blocks baseFile, Overlay.emit setup (t'.forest roots') blocks baseFile =
        Overlay.emit setup (s'.forest roots) blocks baseFile := by
  rcases h.prepare hs ht hr hr' with hrefused | ⟨s', t', hok, hok', hiso⟩
  · exact .inl hrefused
  refine .inr ⟨s', t', hok, hok', ?_, fun setup blocks baseFile => ?_⟩
  · rintro i ⟨place, lister, hp⟩
    have hfill := filledIn_prepare roots s
    rw [hok] at hfill
    exact (hiso.alike i ⟨place, lister, hp.of_children hfill.children⟩).internalId
  · exact hiso.emit (prepared_of_ok hs hr hok).grounded (prepared_of_ok ht hr' hok').grounded setup blocks baseFile

end Store.Isomorphic

/-- A group with a button and a label. -/
def row : Store :=
  ⟨#[{ kind := .group, children := [1, 2] }, { kind := .button, userId := some "ok" }, { kind := .label }]⟩

/-- The same in another order of creation. -/
def rowBackwards : Store :=
  ⟨#[{ kind := .label }, { kind := .button, userId := some "ok" }, { kind := .group, children := [1, 0] }]⟩

theorem row_closed : row.Closed := Store.closed_of_nodes (by decide)

theorem rowBackwards_closed : rowBackwards.Closed := Store.closed_of_nodes (by decide)

theorem row_isomorphic : row.Isomorphic rowBackwards [0] [2] fun i => 2 - i := by
  have hlt : ∀ i, row.Reached [0] i → i < 3 := fun i ⟨_, _, hp⟩ => hp.lt_size row_closed (by decide)
  have hinjective : ∀ i < 3, ∀ j < 3, 2 - i = 2 - j → i = j := by decide
  have hchildren : ∀ i < 3, (rowBackwards.node (2 - i)).children = (row.node i).children.map (2 - ·) := by decide
  have horphans : ∀ i < 3, (rowBackwards.node (2 - i)).parent = none ∧ (row.node i).parent = none := by decide
  constructor
  · rfl
  · exact fun i j hi hj => hinjective i (hlt i hi) j (hlt j hj)
  · exact fun i hi => hchildren i (hlt i hi)
  · intro i hi
    obtain ⟨hnone', hnone⟩ := horphans i (hlt i hi)
    exact iff_of_true hnone' hnone
  · intro i j hi _
    obtain ⟨hnone', hnone⟩ := horphans i (hlt i hi)
    rw [hnone', hnone]
    exact iff_of_false (by simp) (by simp)
  · intro i hi
    match i, hlt i hi with
    | 0, _ => exact ⟨rfl, rfl, rfl, rfl⟩
    | 1, _ => exact ⟨rfl, rfl, rfl, rfl⟩
    | 2, _ => exact ⟨rfl, rfl, rfl, rfl⟩

/-- The order in which nodes were created can not be told. -/
theorem Store.Isomorphic.prepare_emit_row :
    ∃ s' t', (Overlay.prepare [0]).run row = (.ok (), s') ∧ (Overlay.prepare [2]).run rowBackwards = (.ok (), t') ∧
      (∀ i, row.Reached [0] i → (t'.node (2 - i)).internalId = (s'.node i).internalId) ∧
      ∀ setup blocks baseFile, Overlay.emit setup (t'.forest [2]) blocks baseFile =
        Overlay.emit setup (s'.forest [0]) blocks baseFile := by
  have hok : ((Overlay.prepare [0]).run row).1.isOk := by cbv
  rcases row_isomorphic.prepare_emit row_closed rowBackwards_closed (by decide) (by decide) with
    ⟨v, hrefused, -⟩ | haccepted
  · rw [hrefused] at hok
    cases hok
  · exact haccepted

end Overlay
