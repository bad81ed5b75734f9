/-
What is set directly. The visibility, the weight, the layout mode and the parts of an anchor are each what the last
property says that sets them; edits are all kept, in the order of the properties they come of.
-/
import Overlay.Proofs.Style.Parts

namespace Overlay

/-! ## Parts of an anchor -/

namespace Anchor

def part (a : Anchor) : AnchorPart → Option Int
  | .full => a.full
  | .left => a.left
  | .top => a.top
  | .right => a.right
  | .bottom => a.bottom
  | .width => a.width
  | .height => a.height

@[simp] theorem part_empty (part : AnchorPart) : ({} : Anchor).part part = none := by
  cases part <;> rfl

theorem part_set (a : Anchor) (n : Int) (part part' : AnchorPart) :
    (a.set n part).part part' = if part = part' then some n else a.part part' := by
  cases part <;> cases part' <;> rfl

/-- An anchor is all in its parts. -/
theorem ext_part {a b : Anchor} (h : ∀ part, a.part part = b.part part) : a = b := by
  obtain ⟨full, left, top, right, bottom, width, height⟩ := a
  obtain ⟨full', left', top', right', bottom', width', height'⟩ := b
  obtain rfl : full = full' := h .full
  obtain rfl : left = left' := h .left
  obtain rfl : top = top' := h .top
  obtain rfl : right = right' := h .right
  obtain rfl : bottom = bottom' := h .bottom
  obtain rfl : width = width' := h .width
  obtain rfl : height = height' := h .height
  rfl

end Anchor

/-! ## What effects set -/

namespace Effect

/-- The weight that an effect sets. -/
def weight? : Effect → Option Int
  | flexWeight n => some n
  | _ => none

/-- What an effect makes of a part of the anchor. -/
def constraint? (part : AnchorPart) : Effect → Option Int
  | anchor part' n => if part' = part then some n else none
  | _ => none

/-- The edit that an effect asks for. -/
def edit? : Effect → Option PropertyEdit
  | edit e => some e
  | _ => none

end Effect

/-- What a property writes by its effect, if it can be read. -/
def written? {β : Type} (kind : Kind) (writes : Effect → Option β) (p : String × String) : Option β :=
  (effect kind p.1 p.2).toOption.bind writes

theorem written?_eq_some_iff {β : Type} {kind : Kind} {writes : Effect → Option β} {p : String × String} {b : β} :
    written? kind writes p = some b ↔ ∃ e, effect kind p.1 p.2 = .ok e ∧ writes e = some b := by
  unfold written?
  rcases effect kind p.1 p.2 with n | e <;> simp [Except.toOption]

/-! ## What properties set -/

namespace Draft

variable {β : Type}

/-- A part of a draft that each effect writes or leaves alone is what was written last. -/
theorem part_ofProperties (part : Draft → Option β) {writes : Effect → Option β}
    (happly : ∀ d key value e, part (apply d key value e) = (writes e).or (part d)) (hempty : part empty = none)
    (kind : Kind) (ps : List (String × String)) :
    part (ofProperties kind ps) = (ps.filterMap (written? kind writes)).getLast? := by
  have hstep : ∀ d p, part (read kind d p) = (written? kind writes p).or (part d) := by
    intro d p
    unfold read written?
    rcases effect kind p.1 p.2 with n | e
    · rfl
    · exact happly d p.1 p.2 e
  have hfold := foldl_getLast? part hstep ps empty
  rw [hempty, Option.or_none] at hfold
  exact hfold

theorem edits_foldl (kind : Kind) : ∀ (ps : List (String × String)) (d : Draft),
    (ps.foldl (read kind) d).edits = d.edits ++ ps.filterMap (written? kind Effect.edit?)
  | [], d => by simp
  | p :: ps, d => by
    have hread : (read kind d p).edits = d.edits ++ (written? kind Effect.edit? p).toList := by
      unfold read written?
      rcases effect kind p.1 p.2 with n | e
      · simp [Except.toOption]
      · cases e <;> simp [apply, Except.toOption, Effect.edit?]
    rw [List.foldl_cons, edits_foldl kind ps, hread]
    rcases hp : written? kind Effect.edit? p with _ | e <;> simp [hp]

end Draft

namespace Resolution

variable (kind : Kind) (ps : List (String × String))

theorem visible_ofProperties :
    (ofProperties kind ps).visible = (ps.filterMap (written? kind Effect.shown?)).getLast? :=
  Draft.part_ofProperties Draft.visible (fun _ _ _ e => by cases e <;> rfl) rfl kind ps

theorem flexWeight_ofProperties :
    (ofProperties kind ps).flexWeight = (ps.filterMap (written? kind Effect.weight?)).getLast? :=
  Draft.part_ofProperties Draft.flexWeight (fun _ _ _ e => by cases e <;> rfl) rfl kind ps

theorem layoutMode_ofProperties :
    (ofProperties kind ps).layoutMode = (ps.filterMap (written? kind Effect.mode?)).getLast? :=
  Draft.part_ofProperties Draft.layoutMode (fun _ _ _ e => by cases e <;> rfl) rfl kind ps

theorem edits_ofProperties : (ofProperties kind ps).edits = ps.filterMap (written? kind Effect.edit?) :=
  Draft.edits_foldl kind ps Draft.empty

/-- The parts of the anchor, where none stands for an anchor without any part. -/
theorem part_ofProperties (part : AnchorPart) : ((ofProperties kind ps).anchor.getD {}).part part =
    (ps.filterMap (written? kind (Effect.constraint? part))).getLast? := by
  have hpart : (Draft.ofProperties kind ps).anchor.part part =
      (ps.filterMap (written? kind (Effect.constraint? part))).getLast? := by
    refine Draft.part_ofProperties (fun d => d.anchor.part part) (fun d _ _ e => ?_) (Anchor.part_empty part) kind ps
    cases e with
    | anchor part' n => by_cases h : part' = part <;> simp [Draft.apply, Anchor.part_set, Effect.constraint?, h]
    | _ => rfl
  rw [← hpart]
  show (Option.getD (if _ then none else some (Draft.ofProperties kind ps).anchor) {}).part part = _
  split_ifs with hnone
  · rw [show (Draft.ofProperties kind ps).anchor = {} from hnone]
    rfl
  · rfl

/-- An anchor has a part. -/
theorem anchor_ne_empty {a : Anchor} (h : (ofProperties kind ps).anchor = some a) : a ≠ {} := by
  have hanchor : (if (Draft.ofProperties kind ps).anchor = {} then none
      else some (Draft.ofProperties kind ps).anchor) = some a := h
  split_ifs at hanchor with hnone
  cases hanchor
  exact hnone

end Resolution

end Overlay
