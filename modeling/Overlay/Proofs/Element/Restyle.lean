/-
Restyling. The fields of a resolution come on a node in one change, which no seal refuses and which leaves alone what a
seal protects. The edits come after it, each as a hook.
-/
import Overlay.Proofs.Element.Edit
import Overlay.Proofs.Element.Parent

namespace Overlay

/-! ## Two changes of one node -/

namespace Store

theorem update_id (s : Store) (i : NodeId) : s.update i id = s := by
  obtain ⟨nodes⟩ := s
  unfold update
  congr 1
  refine Array.ext (by simp) fun j _ _ => ?_
  rw [Array.getElem_modify]
  split <;> rfl

theorem update_update (s : Store) (i : NodeId) (f g : Node → Node) :
    (s.update i f).update i g = s.update i fun n => g (f n) := by
  obtain ⟨nodes⟩ := s
  unfold update
  congr 1
  refine Array.ext (by simp) fun j _ _ => ?_
  by_cases hj : i = j <;> simp [Array.getElem_modify, hj]

end Store

theorem Store.lt_size_of_isSealed {s : Store} {i : NodeId} (h : (s.node i).isSealed) : i < s.size := by
  by_contra hge
  rw [node_of_size_le (Nat.le_of_not_lt hge)] at h
  cases h

/-! ## Fields and hooks -/

/-- The hooks that make some edits. -/
def editHooks (edits : List PropertyEdit) : List Hook := edits.map fun e => .assign e.name e.literal

/-- A resolution without its edits. -/
def Resolution.fields (r : Resolution) : Resolution := { r with edits := [] }

/-- What the edits of a resolution append to the hooks after a node. -/
def Resolution.items (r : Resolution) (i : NodeId) : List (NodeId × Item) :=
  (editHooks r.edits).map fun h => (i, .hook .after h)

/-- A node with a resolution on it. -/
def Node.styled (n : Node) (r : Resolution) : Node :=
  { n with
    style := r.style.or n.style
    anchor := r.anchor.or n.anchor
    visible := r.visible.getD n.visible
    flexWeight := r.flexWeight.or n.flexWeight
    layoutMode := r.layoutMode.or n.layoutMode
    after := n.after ++ editHooks r.edits }

/-- Fields without edits leave the lists of a node as they are. -/
theorem Node.held_styled_fields (n : Node) (r : Resolution) : (n.styled r.fields).held = n.held := by
  simp [held, styled, Resolution.fields, editHooks]

namespace Edit

variable {s : Store} {i : NodeId}

theorem run_whenSome {α : Type} (f : α → Edit Unit) (g : α → Node → Node)
    (hf : ∀ (a : α) (s : Store), (f a).run s = (.ok (), s.update i (g a))) (v : Option α) (s : Store) :
    (whenSome v f).run s = (.ok (), s.update i (v.elim id g)) := by
  rcases v with _ | a
  · exact Prod.ext rfl (s.update_id i).symm
  · exact hf a s

/-- The fields of a resolution come first, and no seal keeps them off. -/
theorem run_restyle_fields (r : Resolution) (s : Store) :
    (restyle i r).run s = (r.edits.forM fun e => hookAfter i (.assign e.name e.literal)).run
      (s.update i (·.styled r.fields)) := by
  unfold restyle
  rw [run_bind_ok (run_whenSome (setStyle i) (fun a n => { n with style := some a }) (fun _ _ => rfl) r.style s),
    run_bind_ok (run_whenSome (setAnchor i) (fun a n => { n with anchor := some a }) (fun _ _ => rfl) r.anchor _),
    run_bind_ok (run_whenSome (setVisible i) (fun a n => { n with visible := a }) (fun _ _ => rfl) r.visible _),
    run_bind_ok (run_whenSome (setFlexWeight i) (fun a n => { n with flexWeight := some a }) (fun _ _ => rfl)
      r.flexWeight _),
    run_bind_ok (run_whenSome (setLayoutMode i) (fun a n => { n with layoutMode := some a }) (fun _ _ => rfl)
      r.layoutMode _)]
  -- the fields together, whichever of them are present
  have hfields : ∀ n : Node, r.layoutMode.elim id (fun a n => { n with layoutMode := some a })
      (r.flexWeight.elim id (fun a n => { n with flexWeight := some a })
        (r.visible.elim id (fun a n => { n with visible := a })
          (r.anchor.elim id (fun a n => { n with anchor := some a })
            (r.style.elim id (fun a n => { n with style := some a }) n)))) =
      n.styled r.fields := by
    intro n
    unfold Node.styled Resolution.fields
    cases r.style <;> cases r.anchor <;> cases r.visible <;> cases r.flexWeight <;> cases r.layoutMode <;>
      simp [editHooks]
  simp only [Store.update_update, hfields]

/-- Restyling changes fields of the node and then appends hooks, as far as the seal lets it. -/
theorem restyle_moves {R : Store → Store → Prop} [IsPreorder Store R] {r : Resolution}
    (hfields : ∀ s : Store, R s (s.update i (·.styled r.fields))) (hhook : ∀ h, Moves R (hookAfter i h)) :
    Moves R (restyle i r) := by
  intro s
  rw [run_restyle_fields]
  exact IsTrans.trans _ _ _ (hfields s) (Moves.forM r.edits (fun _ _ => hhook _) _)

/-- Restyling keeps every store, also where a sealed node refuses an edit after it took the fields. -/
theorem restyle_keeps (i : NodeId) (r : Resolution) : Moves Store.Keeps (restyle i r) :=
  restyle_moves (fun _ => .update (fun n => congrArg Held.children (n.held_styled_fields r))
    fun h => ⟨h.isSealed, rfl⟩) (hookAfter_keeps i)

theorem restyle_sameParents (i : NodeId) (r : Resolution) : Moves Store.SameParents (restyle i r) :=
  restyle_moves (fun _ => .update fun _ => rfl) (hookAfter_sameParents i)

/-! ## Open nodes -/

theorem isOpen_update (f : Node → Node) (hf : ∀ n, (f n).isSealed = n.isSealed) (hopen : ¬ (s.node i).isSealed) :
    ¬ ((s.update i f).node i).isSealed := by
  rw [Store.node_update]
  split
  · rw [hf]
    exact hopen
  · exact hopen

/-- Edits become hooks in their order. -/
theorem run_editHooks : ∀ (edits : List PropertyEdit) {s : Store}, ¬ (s.node i).isSealed →
    (edits.forM fun e => hookAfter i (.assign e.name e.literal)).run s =
      (.ok (), s.appendAll ((editHooks edits).map fun h => (i, .hook .after h)))
  | [], s, _ => rfl
  | e :: edits, s, hopen => by
    have hfirst : (hookAfter i (.assign e.name e.literal)).run s =
        (.ok (), s.append i (.hook .after (.assign e.name e.literal))) := by
      unfold hookAfter
      rw [run_append, if_neg hopen]
    have hstill : ¬ ((s.append i (.hook .after (.assign e.name e.literal))).node i).isSealed := by
      rw [Store.append_field Node.isSealed fun _ _ => rfl]
      exact hopen
    rw [run_forM_cons, run_bind_ok hfirst, run_editHooks edits hstill]
    rfl

theorem run_restyle (r : Resolution) (hopen : ¬ (s.node i).isSealed) :
    (restyle i r).run s = (.ok (), (s.update i (·.styled r.fields)).appendAll (r.items i)) := by
  rw [run_restyle_fields, run_editHooks r.edits (isOpen_update (·.styled _) (fun _ => rfl) hopen)]
  rfl

end Edit

/-- Nodes that differ at most in what is in their lists are equal if that is the same too. -/
theorem Node.eq_of_held {a b : Node} (hrest : { a with children := [], listeners := [], before := [], after := [] } =
    { b with children := [], listeners := [], before := [], after := [] }) (h : a.held = b.held) : a = b := by
  obtain ⟨hchildren, hlisteners, hbefore, hafter⟩ := Held.ext_iff.1 h
  calc a = { ({ a with children := [], listeners := [], before := [], after := [] } : Node) with
      children := a.children, listeners := a.listeners, before := a.before, after := a.after } := rfl
    _ = { ({ b with children := [], listeners := [], before := [], after := [] } : Node) with
      children := b.children, listeners := b.listeners, before := b.before, after := b.after } := by
        rw [hrest, show a.children = b.children from hchildren, show a.listeners = b.listeners from hlisteners,
          show a.before = b.before from hbefore, show a.after = b.after from hafter]
    _ = b := rfl

namespace Store

variable {s : Store} {i : NodeId}

/-- A node whose hooks before and after it are in two lists gets hooks after it only. -/
theorem receivedAll_hooks (hapart : s.hookList i .before ≠ s.hookList i .after) (hooks : List Hook) :
    s.receivedAll (hooks.map fun h => (i, .hook .after h)) i = { after := hooks } := by
  induction hooks with
  | nil => rfl
  | cons h hooks ih =>
    show s.received i (.hook .after h) i ++ s.receivedAll (hooks.map fun h => (i, .hook .after h)) i = _
    rw [ih]
    simp [received, hapart, Held.ext_iff]

/-- What becomes of an open node that a resolution is put on. -/
theorem node_restyled (hi : i < s.size) (hapart : s.hookList i .before ≠ s.hookList i .after) (r : Resolution) :
    ((s.update i (·.styled r.fields)).appendAll (r.items i)).node i = (s.node i).styled r := by
  have hnode : (s.update i (·.styled r.fields)).node i = (s.node i).styled r.fields := by
    rw [node_update, if_pos ⟨rfl, hi⟩]
  have hnames : ∀ side, (s.update i (·.styled r.fields)).hookList i side = s.hookList i side := by
    intro side
    unfold hookList
    rw [hnode]
    rfl
  have hreceived := receivedAll_hooks (s := s.update i (·.styled r.fields)) (i := i) (by rwa [hnames, hnames])
    (editHooks r.edits)
  refine Node.eq_of_held ?_ ?_
  · have hrest := appendAll_field
      (fun n : Node => { n with children := [], listeners := [], before := [], after := [] })
      (fun _ _ => rfl) (r.items i) i (s.update i (·.styled r.fields))
    rw [hnode] at hrest
    exact hrest
  · rw [held_appendAll _ (by simpa using hi), hnode, Node.held_styled_fields, Resolution.items, hreceived]
    simp [Node.held, Node.styled, Held.ext_iff]

end Store

namespace Edit

variable {s : Store} {i : NodeId}

/-! ## Sealed nodes -/

/-- A seal refuses the first edit. -/
theorem run_editHooks_sealed (hsealed : (s.node i).isSealed) {edits : List PropertyEdit} (hne : edits ≠ []) :
    (edits.forM fun e => hookAfter i (.assign e.name e.literal)).run s =
      (.error (.sealedNode (s.node i).label), s) := by
  rcases edits with _ | ⟨e, edits⟩
  · exact absurd rfl hne
  · have hfirst : (hookAfter i (.assign e.name e.literal)).run s = (.error (.sealedNode (s.node i).label), s) := by
      unfold hookAfter
      rw [run_append, if_pos hsealed]
    rw [run_forM_cons, run_bind_error hfirst]

theorem run_restyle_sealed (hsealed : (s.node i).isSealed) {r : Resolution} (hne : r.edits ≠ []) :
    (restyle i r).run s = (.error (.sealedNode (s.node i).label), s.update i (·.styled r.fields)) := by
  have hnode : (s.update i (·.styled r.fields)).node i = (s.node i).styled r.fields := by
    rw [Store.node_update, if_pos ⟨rfl, Store.lt_size_of_isSealed hsealed⟩]
  have hstill : ((s.update i (·.styled r.fields)).node i).isSealed := by
    rw [hnode]
    exact hsealed
  rw [run_restyle_fields, run_editHooks_sealed hstill hne, hnode]
  rfl

theorem run_restyle_no_edits {r : Resolution} (hnil : r.edits = []) (s : Store) :
    (restyle i r).run s = (.ok (), s.update i (·.styled r.fields)) := by
  rw [run_restyle_fields, hnil]
  rfl

/-! ## What restyling appends -/

theorem restyle_receives (i : NodeId) (r : Resolution) (s : Store) :
    s.Receives ((restyle i r).run s).2 (if (s.node i).isSealed then [] else r.items i) := by
  have hfields : s.Receives (s.update i (·.styled r.fields)) [] := .update fun n => n.held_styled_fields r
  split
  · rename_i hsealed
    by_cases hnil : r.edits = []
    · rw [run_restyle_no_edits hnil]
      exact hfields
    · rw [run_restyle_sealed hsealed hnil]
      exact hfields
  · rename_i hopen
    rw [run_restyle r hopen]
    refine .of_change (Store.size_update _ _ _) (fun j => ?_) (fun j => ?_) (.appendAll _ (r.items i))
    · rw [Store.node_update]
      split
      · exact Node.held_styled_fields _ r
      · rfl
    · rw [Store.node_update]
      split <;> rfl

end Edit

end Overlay
