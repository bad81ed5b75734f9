/-
Visibility in programs. The visibility of a node shows in its own definition and nowhere else: with the
node shown or not, the trees that hold it once are emitted to the same bindings and to the same commands
but one, and the properties that this one lists differ by `Visible: false` alone.
-/
import Overlay.Proofs.Element.Tree
import Overlay.Proofs.Program.Segment

namespace Overlay

open Overlay.Tree

/-! ## One node shown or not -/

def Node.withVisible (n : Node) (b : Bool) : Node := { n with visible := b }

@[simp] theorem Node.withVisible_visible (n : Node) : n.withVisible n.visible = n := rfl

@[simp] theorem Node.withVisible_withVisible (n : Node) (b b' : Bool) :
    (n.withVisible b).withVisible b' = n.withVisible b' := rfl

/-- Of the properties of a node only `Visible: false` depends on the visibility. -/
theorem Node.properties_withVisible (n : Node) :
    ∃ front back, ∀ b, (n.withVisible b).properties =
      front ++ (if b then [] else [("Visible", "false")]) ++ back := by
  let front : List (String × Option String) :=
    [("Text", n.text.map Value.textLiteral), ("Value", n.value.map fun v => Value.literal (some v))]
  let back : List (String × Option String) :=
    [("FlexWeight", n.flexWeight.map toString),
      ("LayoutMode", if n.kind.isContainer then n.layoutMode else none),
      ("TooltipText", n.tooltip.map Value.textLiteral), ("Anchor", n.anchor.bind Anchor.literal),
      ("Style", n.inlineStyle)]
  refine ⟨front.filterMap fun p => p.2.map (p.1, ·), back.filterMap fun p => p.2.map (p.1, ·), fun b => ?_⟩
  have hsplit : (n.withVisible b).properties =
      (front ++ ([("Visible", if b then none else some "false")] ++ back)).filterMap
        fun p => p.2.map (p.1, ·) := rfl
  rw [hsplit, List.filterMap_append, List.filterMap_append, List.append_assoc]
  cases b <;> rfl

namespace Tree

/-- The node under an id, shown or not, in a tree. -/
def withVisible (i : NodeId) (b : Bool) (t : Tree) : Tree := t.map fun j n => if i = j then n.withVisible b else n

theorem withVisible_of_not_mem {i : NodeId} {t : Tree} (h : i ∉ t.flatten.map Prod.fst) (b : Bool) :
    t.withVisible i b = t := by
  refine map_eq_self fun n hn => if_neg ?_
  rintro rfl
  exact h (List.mem_map_of_mem hn)

theorem map_withVisible_of_not_mem {i : NodeId} {ts : List Tree} (h : i ∉ (flattenAll ts).map Prod.fst) (b : Bool) :
    ts.map (withVisible i b) = ts := by
  refine (List.map_congr_left fun t ht => withVisible_of_not_mem (fun hi => h ?_) b).trans (List.map_id ts)
  obtain ⟨n, hn, rfl⟩ := List.mem_map.1 hi
  exact List.mem_map_of_mem (mem_flattenAll.2 ⟨t, ht, hn⟩)

theorem withVisible_withVisible (i : NodeId) (b b' : Bool) (t : Tree) :
    (t.withVisible i b).withVisible i b' = t.withVisible i b' := by
  unfold withVisible
  rw [map_map]
  congr 1
  funext j n
  by_cases hj : i = j
  · simp only [if_pos hj, Node.withVisible_withVisible]
  · simp only [if_neg hj]

end Tree

/-! ## Programs with a gap -/

/-- A program in which one command is left open. -/
structure Gapped where
  before : List Command
  after : List Command
  bindings : List Binding

namespace Gapped

/-- The program with a command in the gap. -/
def fill (g : Gapped) (c : Command) : Program := ⟨g.before ++ c :: g.after, g.bindings⟩

/-- More on the left. -/
def prepend (g : Gapped) (p : Program) : Gapped := ⟨p.commands ++ g.before, g.after, p.bindings ++ g.bindings⟩

/-- More on the right. -/
def append (g : Gapped) (p : Program) : Gapped := ⟨g.before, g.after ++ p.commands, g.bindings ++ p.bindings⟩

variable (g : Gapped) (p : Program) (c : Command)

theorem fill_prepend : (g.prepend p).fill c = p ++ g.fill c :=
  congrArg (Program.mk · _) (List.append_assoc ..)

theorem fill_append : (g.append p).fill c = g.fill c ++ p := by
  have hcommands : g.before ++ c :: (g.after ++ p.commands) = (g.before ++ c :: g.after) ++ p.commands := by simp
  exact congrArg (Program.mk · _) hcommands

end Gapped

/-! ## Emission with a node shown or not -/

mutual

/-- A tree that holds a node once is emitted to a program whose one gap the definition of the node fills,
whether the node is shown or not. -/
theorem Tree.emit_withVisible (setup : Setup) {i : NodeId} {m : Node} : ∀ (t : Tree) {scope : String}
    {names names' : StyleNames} {p : Program}, t.emit setup scope names = .ok (p, names') →
    (t.flatten.map Prod.fst).Nodup → (i, m) ∈ t.flatten →
    ∃ g within, ∀ b, (t.withVisible i b).emit setup scope names =
      .ok (Gapped.fill g (.insert within (m.withVisible b).definition), names')
  | node j n ts, scope, names, names', p, h, hnd, hm => by
    obtain ⟨selector, before, define, use, inside, inner, after, hs, hbefore, hhoist, hinner, hafter, rfl⟩ :=
      emit_parts h
    rw [flatten, List.map_cons, List.nodup_cons] at hnd
    rcases List.mem_cons.1 hm with hroot | hbelow
    · cases hroot
      -- what the definition stands between does not look at the visibility
      have hts : ∀ b, mapAll (fun j n => if i = j then n.withVisible b else n) ts = ts := by
        intro b
        rw [mapAll_eq_map]
        exact map_withVisible_of_not_mem hnd.1 b
      let g : Gapped := ⟨define, [], m.bindings selector⟩
      refine ⟨(((g.prepend before).append inner).append (.ofCommands use)).append after, scope, fun b => ?_⟩
      have hroot : (node i m ts).withVisible i b = node i (m.withVisible b) ts := by
        rw [withVisible, Tree.map, if_pos rfl, hts]
      rw [hroot, Gapped.fill_append, Gapped.fill_append, Gapped.fill_append, Gapped.fill_prepend]
      exact Tree.emit_of_parts i (n := m.withVisible b) hs hbefore hhoist hinner hafter
    · have hij : i ≠ j := by
        rintro rfl
        exact hnd.1 (List.mem_map.2 ⟨_, hbelow, rfl⟩)
      obtain ⟨g, within, hg⟩ := Tree.emitAll_withVisible setup ts hinner hnd.2 hbelow
      let own : Program := ⟨define ++ [.insert scope n.definition], n.bindings selector⟩
      refine ⟨((g.prepend (before ++ own)).append (.ofCommands use)).append after, within, fun b => ?_⟩
      have hroot : (node j n ts).withVisible i b = node j n (ts.map (withVisible i b)) := by
        rw [withVisible, Tree.map, if_neg hij, mapAll_eq_map]
        rfl
      rw [hroot, Gapped.fill_append, Gapped.fill_append, Gapped.fill_prepend]
      exact Tree.emit_of_parts j hs hbefore hhoist (hg b) hafter

theorem Tree.emitAll_withVisible (setup : Setup) {i : NodeId} {m : Node} : ∀ (ts : List Tree) {scope : String}
    {names names' : StyleNames} {p : Program}, Tree.emitAll setup scope names ts = .ok (p, names') →
    ((flattenAll ts).map Prod.fst).Nodup → (i, m) ∈ flattenAll ts →
    ∃ g within, ∀ b, Tree.emitAll setup scope names (ts.map (withVisible i b)) =
      .ok (Gapped.fill g (.insert within (m.withVisible b).definition), names')
  | [], _, _, _, _, _, _, hm => by cases hm
  | t :: ts, scope, names, names', p, h, hnd, hm => by
    rw [Tree.emitAll] at h
    obtain ⟨⟨first, between⟩, hfirst, h⟩ := bind_eq_ok h
    obtain ⟨⟨rest, last⟩, hrest, h⟩ := bind_eq_ok h
    cases h
    rw [flattenAll, List.map_append, List.nodup_append] at hnd
    obtain ⟨hndFirst, hndRest, hapart⟩ := hnd
    rw [flattenAll] at hm
    rcases List.mem_append.1 hm with hm | hm
    · obtain ⟨g, within, hg⟩ := Tree.emit_withVisible setup t hfirst hndFirst hm
      have hout : i ∉ (flattenAll ts).map Prod.fst := fun hi => hapart _ (List.mem_map_of_mem hm) _ hi rfl
      refine ⟨g.append rest, within, fun b => ?_⟩
      rw [List.map_cons, map_withVisible_of_not_mem hout, Tree.emitAll, bind_of_ok (hg b), Gapped.fill_append]
      dsimp only
      rw [bind_of_ok hrest]
      rfl
    · obtain ⟨g, within, hg⟩ := Tree.emitAll_withVisible setup ts hrest hndRest hm
      have hout : i ∉ t.flatten.map Prod.fst := fun hi => hapart _ hi _ (List.mem_map_of_mem hm) rfl
      refine ⟨g.prepend first, within, fun b => ?_⟩
      rw [List.map_cons, withVisible_of_not_mem hout, Tree.emitAll, bind_of_ok hfirst, Gapped.fill_prepend]
      dsimp only
      rw [bind_of_ok (hg b)]
      rfl

end

/-- Of the program of some trees only the definition of a node depends on whether the node is shown. -/
theorem emit_withVisible {setup : Setup} {ts : List Tree} {blocks : List Block} {baseFile : Option String} {p : Program}
    (h : emit setup ts blocks baseFile = .ok p) (hnd : ((flattenAll ts).map Prod.fst).Nodup) {i : NodeId} {m : Node}
    (hm : (i, m) ∈ flattenAll ts) :
    ∃ g within, ∀ b, emit setup (ts.map (withVisible i b)) blocks baseFile =
      .ok (Gapped.fill g (.insert within (m.withVisible b).definition)) := by
  obtain ⟨edits, hedits, h⟩ := bind_eq_ok h
  obtain ⟨⟨segments, names⟩, hsegments, h⟩ := bind_eq_ok h
  cases h
  obtain ⟨g, within, hg⟩ := Tree.emitAll_withVisible setup ts hsegments hnd hm
  refine ⟨g.prepend (loadBase baseFile ++ edits), within, fun b => ?_⟩
  rw [emit, bind_of_ok hedits, bind_of_ok (hg b), Gapped.fill_prepend]
  rfl

end Overlay
