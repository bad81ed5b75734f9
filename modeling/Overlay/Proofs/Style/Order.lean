/-
The order of properties. Where no two properties address the same slot, the order in which they stand settles
nothing but the order of the edits and of the drops: each thing that is set has one property for it at most.
-/
import Overlay.Proofs.Style.Direct
import Mathlib.Data.List.Perm.Basic

namespace Overlay

/-! ## Slots -/

/-- A name that stands for both names of the background. -/
def commonName (name : String) : String := if isBackground name then "background" else name

/-- What a name addresses: a thing that is set, of a state if the name has a mark. The background, the visibility and
the layout mode have several names, and the pressed state has two marks. -/
def slot (key : String) : Option StyleState × String :=
  match splitState key with
  | (some state, name) => (some state, commonName name)
  | (none, name) =>
    (none, if isVisibility name then "visibility" else if isLayout name then "layout" else commonName name)

/-- No two properties address the same slot, whether or not their values can be used. -/
def Properties.Unaliased (properties : Properties) : Prop := (properties.entries.map fun p => slot p.1).Nodup

def AnchorPart.name : AnchorPart → String
  | full => "anchor"
  | left => "anchor-left"
  | right => "anchor-right"
  | top => "anchor-top"
  | bottom => "anchor-bottom"
  | width => "anchor-width"
  | height => "anchor-height"

theorem AnchorPart.name_of_ofName? {key : String} {part : AnchorPart} (h : ofName? key = some part) :
    key = part.name := by
  unfold ofName? at h
  split at h <;> cases h <;> rfl

/-- An effect that is told by its name alone belongs to the slot of that name. -/
theorem slot_of_effect {β : Type} {kind : Kind} {writes : Effect → Option β} {k : Option StyleState × String}
    (hnamed : ∀ {key value e}, Effect.Named kind key value e → (writes e).isSome → slot key = k)
    (hstyle : ∀ state name, writes (.style state name) = none) (hdrop : ∀ reason, writes (.drop reason) = none)
    {p : String × String} (h : (written? kind writes p).isSome) : slot p.1 = k := by
  obtain ⟨b, hb⟩ := Option.isSome_iff_exists.1 h
  obtain ⟨e, he, hwrites⟩ := written?_eq_some_iff.1 hb
  rcases effect_named he with ⟨_, _, -, rfl⟩ | ⟨-, hn⟩
  · split_ifs at hwrites
    · rw [hstyle] at hwrites
      cases hwrites
    · rw [hdrop] at hwrites
      cases hwrites
  · exact hnamed hn (Option.isSome_iff_exists.2 ⟨b, hwrites⟩)

section Writers

variable {kind : Kind} {p : String × String}

theorem slot_of_shown (h : (written? kind Effect.shown? p).isSome) : slot p.1 = (none, "visibility") := by
  refine slot_of_effect (fun hnamed hsome => ?_) (fun _ _ => rfl) (fun _ => rfl) h
  cases hnamed with
  | visible hname =>
    simp only [isVisibility, Bool.or_eq_true, decide_eq_true_eq] at hname
    rcases hname with rfl | rfl <;> decide
  | _ => cases hsome

theorem slot_of_weight (h : (written? kind Effect.weight? p).isSome) : slot p.1 = (none, "flex-weight") := by
  refine slot_of_effect (fun hnamed hsome => ?_) (fun _ _ => rfl) (fun _ => rfl) h
  cases hnamed with
  | flexWeight hname =>
    subst hname
    decide
  | _ => cases hsome

theorem slot_of_mode (h : (written? kind Effect.mode? p).isSome) : slot p.1 = (none, "layout") := by
  refine slot_of_effect (fun hnamed hsome => ?_) (fun _ _ => rfl) (fun _ => rfl) h
  cases hnamed with
  | layoutMode _ hname =>
    simp only [isLayout, Bool.or_eq_true, decide_eq_true_eq, or_assoc] at hname
    rcases hname with rfl | rfl | rfl <;> decide
  | _ => cases hsome

theorem slot_of_constraint {part : AnchorPart} (h : (written? kind (Effect.constraint? part) p).isSome) :
    slot p.1 = slot part.name := by
  refine slot_of_effect (fun hnamed hsome => ?_) (fun _ _ => rfl) (fun _ => rfl) h
  cases hnamed with
  | anchor part' hname =>
    simp only [Effect.constraint?, Option.isSome_ite] at hsome
    rw [AnchorPart.name_of_ofName? hname, hsome]
  | _ => cases hsome

/-- The slot of a property that goes to a pool is told by the state and the name that it has there. -/
theorem slot_of_pooled {state : StyleState} {e : String × String} (h : pooled? kind state p = some e) :
    slot p.1 = (if state = .default then none else some state, commonName e.1) := by
  have heffect := (pooled?_eq_some_iff.1 h).1
  unfold slot
  rcases effect_named heffect with ⟨marked, inner, hmark, hstyle⟩ | ⟨hnone, hnamed⟩
  · split_ifs at hstyle
    cases hstyle
    rw [hmark, if_neg (splitState_ne_default hmark)]
  · rcases effect_eq_style heffect with ⟨-, hmark⟩ | ⟨-, rfl, hname⟩
    · rw [hmark] at hnone
      cases hnone
    rw [hnone, hname]
    rw [hname] at hnamed
    cases hnamed with
    | style hvisibility hlayout _ => simp [hvisibility, hlayout]

end Writers

/-! ## Lists in another order -/

section Lists

variable {α β κ : Type} {key : α → κ} {f : α → Option β} {l l' : List α}

/-- The keys of what is taken over are keys of the list. -/
theorem map_filterMap_sublist {key' : β → κ} (h : ∀ a b, f a = some b → key' b = key a) :
    ∀ l : List α, ((l.filterMap f).map key').Sublist (l.map key)
  | [] => List.Sublist.refl _
  | a :: l => by
    rcases hf : f a with _ | b
    · rw [List.filterMap_cons_none hf, List.map_cons]
      exact (map_filterMap_sublist h l).cons _
    · rw [List.filterMap_cons_some hf, List.map_cons, List.map_cons, h a b hf]
      exact (map_filterMap_sublist h l).cons_cons _

/-- Where all keys differ, at most one element is taken over for one key, so no order matters. -/
theorem filterMap_eq_of_perm (hperm : l.Perm l') (hkeys : (l.map key).Nodup) {k : κ}
    (hf : ∀ a, (f a).isSome → key a = k) : l.filterMap f = l'.filterMap f := by
  have htaken : ((l.filterMap f).map fun _ => k).Nodup :=
    hkeys.sublist (map_filterMap_sublist (fun a b hb => (hf a (Option.isSome_iff_exists.2 ⟨b, hb⟩)).symm) l)
  rw [List.map_const', List.nodup_replicate] at htaken
  have htakenPerm := hperm.filterMap f
  rcases hl : l.filterMap f with _ | ⟨b, bs⟩
  · rw [hl] at htakenPerm
    exact htakenPerm.nil_eq
  · rw [hl] at htakenPerm htaken
    obtain rfl : bs = [] := List.eq_nil_of_length_eq_zero (by simp at htaken; simp [htaken])
    exact (List.singleton_perm.1 htakenPerm)

end Lists

/-! ## Properties in another order -/

section Properties

variable {kind : Kind} {ps qs : List (String × String)} (hperm : ps.Perm qs)
  (hslots : (ps.map fun p => slot p.1).Nodup)

include hslots in
/-- A pool has no two names for one thing. -/
theorem nodup_commonName (kind : Kind) (state : StyleState) :
    ((ps.filterMap (pooled? kind state)).map fun e => commonName e.1).Nodup := by
  refine List.Nodup.of_map (fun name => (if state = .default then none else some state, name)) ?_
  rw [List.map_map]
  exact hslots.sublist (map_filterMap_sublist (fun _ _ he => (slot_of_pooled he).symm) ps)

include hslots in
theorem poolEntries_eq_filterMap (kind : Kind) (state : StyleState) :
    poolEntries kind state ps = ps.filterMap (pooled? kind state) := by
  refine Bag.entries_ofList (List.Nodup.of_map commonName ?_)
  rw [List.map_map]
  exact nodup_commonName hslots kind state

include hperm hslots

theorem poolEntries_perm (kind : Kind) (state : StyleState) :
    (poolEntries kind state ps).Perm (poolEntries kind state qs) := by
  have hslots' : (qs.map fun p => slot p.1).Nodup := (hperm.map _).nodup_iff.1 hslots
  rw [poolEntries_eq_filterMap hslots, poolEntries_eq_filterMap hslots']
  exact hperm.filterMap _

theorem saySame_of_perm (kind : Kind) (state : StyleState) :
    SaySame kind (poolEntries kind state ps) (poolEntries kind state qs) := by
  intro field
  -- all names of a field have one common name
  have hcommon : ∃ k, ∀ name, field.isNamed name → commonName name = k := by
    cases field with
    | background => exact ⟨"background", fun _ hname => if_pos hname⟩
    | _ => exact ⟨_, fun _ hname => congrArg commonName (of_decide_eq_true hname)⟩
  obtain ⟨k, hk⟩ := hcommon
  unfold sayings
  rw [List.filterMap_filter, List.filterMap_filter]
  have hnodup : ((poolEntries kind state ps).map fun e => commonName e.1).Nodup := by
    rw [poolEntries_eq_filterMap hslots]
    exact nodup_commonName hslots kind state
  refine filterMap_eq_of_perm (poolEntries_perm hperm hslots kind state) hnodup fun e he => hk e.1 ?_
  by_contra hname
  rw [if_neg hname] at he
  cases he

/-- What has one property for it at most is set alike. -/
theorem written_of_perm {β : Type} {writes : Effect → Option β} {k : Option StyleState × String}
    (hslot : ∀ p, (written? kind writes p).isSome → slot p.1 = k) :
    ps.filterMap (written? kind writes) = qs.filterMap (written? kind writes) :=
  filterMap_eq_of_perm hperm hslots hslot

theorem resolveStop?_of_perm (h : resolveStop? kind ps = none) : resolveStop? kind qs = none := by
  obtain ⟨hread, hpools⟩ := resolveStop?_eq_none_iff.1 h
  refine resolveStop?_eq_none_iff.2 ⟨fun p hp => hread p (hperm.mem_iff.2 hp), fun state => ?_⟩
  rw [← (saySame_of_perm hperm hslots kind state).stop_eq]
  exact hpools state

theorem anchor_of_perm :
    (Resolution.ofProperties kind ps).anchor = (Resolution.ofProperties kind qs).anchor := by
  have hparts :
      (Resolution.ofProperties kind ps).anchor.getD {} = (Resolution.ofProperties kind qs).anchor.getD {} := by
    refine Anchor.ext_part fun part => ?_
    rw [Resolution.part_ofProperties, Resolution.part_ofProperties,
      written_of_perm hperm hslots fun _ => slot_of_constraint]
  -- no anchor is without a part, so one is missing only if the other is
  rcases ha : (Resolution.ofProperties kind ps).anchor with _ | a <;>
    rcases hb : (Resolution.ofProperties kind qs).anchor with _ | b <;> rw [ha, hb] at hparts
  · exact absurd hparts.symm (Resolution.anchor_ne_empty kind qs hb)
  · exact absurd hparts (Resolution.anchor_ne_empty kind ps ha)
  · exact congrArg some hparts

end Properties

/-! ## Resolutions -/

/-- Resolutions that differ at most in the order of their edits and of their drops. -/
structure Resolution.Reordered (r r' : Resolution) : Prop where
  style : r'.style = r.style
  anchor : r'.anchor = r.anchor
  visible : r'.visible = r.visible
  flexWeight : r'.flexWeight = r.flexWeight
  layoutMode : r'.layoutMode = r.layoutMode
  edits : r'.edits.Perm r.edits
  dropped : r'.dropped.Perm r.dropped

theorem reordered_of_perm {ps qs : List (String × String)} (hperm : ps.Perm qs)
    (hslots : (ps.map fun p => slot p.1).Nodup) (kind : Kind) :
    (Resolution.ofProperties kind ps).Reordered (Resolution.ofProperties kind qs) := by
  constructor
  case style =>
    have hpools := Style.ofPools_congr fun state => (saySame_of_perm hperm hslots kind state).bucket_eq
    simp only [Resolution.ofProperties, hpools]
  case anchor => exact (anchor_of_perm hperm hslots).symm
  case visible =>
    rw [Resolution.visible_ofProperties, Resolution.visible_ofProperties,
      written_of_perm hperm hslots fun _ => slot_of_shown]
  case flexWeight =>
    rw [Resolution.flexWeight_ofProperties, Resolution.flexWeight_ofProperties,
      written_of_perm hperm hslots fun _ => slot_of_weight]
  case layoutMode =>
    rw [Resolution.layoutMode_ofProperties, Resolution.layoutMode_ofProperties,
      written_of_perm hperm hslots fun _ => slot_of_mode]
  case edits =>
    rw [Resolution.edits_ofProperties, Resolution.edits_ofProperties]
    exact (hperm.filterMap _).symm
  case dropped =>
    unfold Resolution.dropped
    rw [Resolution.drops_ofProperties, Resolution.drops_ofProperties]
    refine List.Perm.map _ (((hperm.filterMap _).symm).append (List.Perm.flatMap_left _ fun state _ => ?_))
    exact (poolEntries_perm hperm hslots kind state).symm.filterMap _

/-- Where no two properties address the same slot, the order in which they are declared is irrelevant: in any other
order they resolve too, and to the same but for the order of edits and drops. -/
theorem resolve_reordered {kind : Kind} {B B' : Properties} (hperm : B.entries.Perm B'.entries) (hslots : B.Unaliased)
    {r : Resolution} (h : resolve kind B = .ok r) : ∃ r', resolve kind B' = .ok r' ∧ r.Reordered r' := by
  obtain ⟨hstop, rfl⟩ := resolve_ok_iff.1 h
  exact ⟨_, resolve_ok_iff.2 ⟨resolveStop?_of_perm hperm hslots hstop, rfl⟩, reordered_of_perm hperm hslots kind⟩

/-- Properties of which none addresses the slot of another one. -/
def apart : Properties := Bag.ofList [("padding", "4"), ("background", "red"), ("layout", "left"), ("color", "white"),
  ("--hover-color", "gray"), ("--active-color", "black"), ("display", "block"), ("anchor-left", "near")]

def apartBackwards : Properties := Bag.ofList apart.entries.reverse

theorem resolve_reordered_apart :
    apart.entries.Perm apartBackwards.entries ∧ apart.Unaliased ∧ ∃ r, resolve .group apart = .ok r ∧
      ∃ r', resolve .group apartBackwards = .ok r' ∧ r.Reordered r' := by
  have hperm : apart.entries.Perm apartBackwards.entries := by decide +kernel
  have hslots : apart.Unaliased := by
    unfold Properties.Unaliased
    decide +kernel
  have hresolve : (resolve .group apart).toOption.map (fun r => r.edits.map (·.name)) =
      some ["Padding", "Background"] := by decide +kernel
  obtain ⟨r, hr, -⟩ := exists_resolution hresolve
  exact ⟨hperm, hslots, r, hr, resolve_reordered hperm hslots hr⟩

end Overlay
