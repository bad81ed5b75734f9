/-
Effects of properties. The name and the value of a property leave few choices for what it does: each thing
that an element has is set under names of its own.
-/
import Overlay.Proofs.Run
import Overlay.Proofs.Style.Mark
import Mathlib.Tactic.SplitIfs

namespace Overlay

open Text

/-! ## What a property may do -/

def isVisibility (name : String) : Bool := name = "visibility" || name = "display"

/-- The words for showing and hiding, in lower case, each with what it makes of the visibility. -/
def visibilityWords : List ((String × String) × Bool) := [
  (("visibility", "hidden"), false), (("visibility", "shown"), true), (("visibility", "visible"), true),
  (("display", "none"), false), (("display", "block"), true)]

/-- The visibility that a declaration asks for, if its word is known. -/
def visibilityWord? (d : String × String) : Option Bool := visibilityWords.lookup (d.1, lower d.2)

/-- What a property without a mark may do, by its name and value. -/
inductive Effect.Plain (name value : String) : Effect → Prop
  | anchor (part : AnchorPart) (n : Int) : Plain name value (.anchor part n)
  | flexWeight (n : Int) : Plain name value (.flexWeight n)
  | visible (b : Bool) (h : isVisibility name) : Plain name value (.visible b)
  | layoutMode (h : isLayout name) : Plain name value (.layoutMode (canonicalName value))
  | edit (e : PropertyEdit) : Plain name value (.edit e)
  | style : Plain name value (.style .default name)
  | drop (reason : DropReason) : Plain name value (.drop reason)

/-- What a property without a mark may do for a kind, and the names under which it does that. -/
inductive Effect.Named (kind : Kind) (name value : String) : Effect → Prop
  | anchor (part : AnchorPart) (h : AnchorPart.ofName? name = some part) (n : Int) :
    Named kind name value (.anchor part n)
  | flexWeight (h : name = "flex-weight") (n : Int) : Named kind name value (.flexWeight n)
  | visible (h : isVisibility name) (b : Bool) : Named kind name value (.visible b)
  | layoutMode (hk : kind.isContainer) (h : isLayout name) : Named kind name value (.layoutMode (canonicalName value))
  | padding (hk : kind.isContainer) (h : name = "padding") (edges : Edges) :
    Named kind name value (.edit ⟨"Padding", edges.literal⟩)
  | background (hk : ¬ kind.isInteractive) (h : isBackground name) : Named kind name value (.edit ⟨"Background", value⟩)
  | style (hvisibility : ¬ isVisibility name) (hlayout : ¬ isLayout name)
    (hbackground : isBackground name → kind.isInteractive) : Named kind name value (.style .default name)
  | drop (reason : DropReason) : Named kind name value (.drop reason)

theorem named_integerEffect {kind : Kind} {name value : String} {make : Int → Effect} {e : Effect}
    (hmake : ∀ n, Effect.Named kind name value (make n)) (h : integerEffect value make = .ok e) :
    Effect.Named kind name value e := by
  obtain ⟨n?, -, hn⟩ := map_eq_ok h
  rcases n? with _ | n
  · subst hn
    exact .drop _
  · subst hn
    exact hmake n

theorem named_plainEffect {kind : Kind} {name value : String} {e : Effect}
    (h : plainEffect kind name value = .ok e) : e.Named kind name value := by
  unfold plainEffect at h
  split at h
  · rename_i part hpart
    exact named_integerEffect (fun n => .anchor part hpart n) h
  split_ifs at h with hflex hvisibility hdisplay hlayout hcontainer hpadding hbackground
  · exact named_integerEffect (fun n => .flexWeight hflex n) h
  · cases h
    unfold visibilityEffect
    have hn : isVisibility name := by simp [isVisibility, hvisibility]
    dsimp only
    split_ifs
    · exact .visible hn false
    · exact .visible hn true
    · exact .drop _
  · cases h
    unfold displayEffect
    have hn : isVisibility name := by simp [isVisibility, hdisplay]
    dsimp only
    split_ifs
    · exact .visible hn false
    · exact .visible hn true
    · exact .drop _
  · cases h
    exact .layoutMode hcontainer hlayout
  · cases h
    exact .drop _
  · unfold paddingEffect at h
    split at h
    · rename_i hcontainer
      obtain ⟨edges?, -, he⟩ := map_eq_ok h
      rcases edges? with _ | edges
      · subst he
        exact .drop _
      · subst he
        exact .padding hcontainer hpadding edges
    · cases h
      exact .drop _
  · cases h
    obtain ⟨hname, hk⟩ := Bool.and_eq_true_iff.1 hbackground
    exact .background (by simpa using hk) hname
  · cases h
    refine .style ?_ hlayout fun hname => ?_
    · simp [isVisibility, hvisibility, hdisplay]
    · simpa [hname] using hbackground

theorem Effect.Named.plain {kind : Kind} {name value : String} {e : Effect} (h : e.Named kind name value) :
    e.Plain name value := by
  cases h with
  | anchor part _ n => exact .anchor part n
  | flexWeight _ n => exact .flexWeight n
  | visible hname b => exact .visible b hname
  | layoutMode _ hname => exact .layoutMode hname
  | padding => exact .edit _
  | background => exact .edit _
  | style => exact .style
  | drop reason => exact .drop reason

/-- A property with a mark goes to the pool of the state, if the kind has one. -/
theorem effect_of_mark {key name : String} {state : StyleState} (h : splitState key = (some state, name)) (kind : Kind)
    (value : String) :
    effect kind key value = .ok (if kind.isInteractive then .style state name else .drop .stateOnPlainKind) := by
  unfold effect
  rw [h]

theorem effect_eq_plain {name : String} (hname : splitState name = (none, name)) (kind : Kind) (value : String) :
    effect kind name value = plainEffect kind name value := by
  unfold effect
  rw [hname]

/-- A property with a mark goes to a pool or is dropped, and one without a mark does what its name is for. -/
theorem effect_named {kind : Kind} {name value : String} {e : Effect} (h : effect kind name value = .ok e) :
    (∃ state inner, splitState name = (some state, inner) ∧
      e = if kind.isInteractive then .style state inner else .drop .stateOnPlainKind) ∨
    splitState name = (none, name) ∧ e.Named kind name value := by
  rcases hsplit : splitState name with ⟨_ | state, inner⟩
  · obtain rfl := splitState_of_none hsplit
    rw [effect_eq_plain hsplit] at h
    exact .inr ⟨rfl, named_plainEffect h⟩
  · rw [effect_of_mark hsplit] at h
    exact .inl ⟨state, inner, rfl, (Except.ok.inj h).symm⟩

theorem effect_cases {kind : Kind} {name value : String} {e : Effect} (h : effect kind name value = .ok e) :
    (∃ state inner, splitState name = (some state, inner) ∧
      e = if kind.isInteractive then .style state inner else .drop .stateOnPlainKind) ∨
    splitState name = (none, name) ∧ e.Plain name value :=
  (effect_named h).imp_right fun h => ⟨h.1, h.2.plain⟩

/-- A property goes to a pool by its mark, or without one to that of the default state. -/
theorem effect_eq_style {kind : Kind} {key value name : String} {state : StyleState}
    (h : effect kind key value = .ok (.style state name)) :
    kind.isInteractive ∧ splitState key = (some state, name) ∨
      splitState key = (none, key) ∧ state = .default ∧ name = key := by
  rcases effect_cases h with ⟨marked, inner, hsplit, he⟩ | ⟨hsplit, hplain⟩
  · split_ifs at he with hk
    cases he
    exact .inl ⟨hk, hsplit⟩
  · cases hplain
    exact .inr ⟨hsplit, rfl, rfl⟩

theorem effect_visibility (kind : Kind) (value : String) :
    effect kind "visibility" value = .ok (visibilityEffect value) := by
  rw [effect_eq_plain (by decide)]
  rfl

theorem effect_display (kind : Kind) (value : String) : effect kind "display" value = .ok (displayEffect value) := by
  rw [effect_eq_plain (by decide)]
  rfl

theorem effect_layout {kind : Kind} {name : String} (hk : kind.isContainer) (hn : isLayout name) (value : String) :
    effect kind name value = .ok (.layoutMode (canonicalName value)) := by
  have hname : name = "text-align" ∨ name = "layout" ∨ name = "layout-mode" := by
    simpa [isLayout, or_assoc] using hn
  have heffect : plainEffect kind name value =
      .ok (if kind.isContainer then .layoutMode (canonicalName value) else .drop .layoutOnPlainKind) := by
    rcases hname with rfl | rfl | rfl <;> rfl
  rw [effect_eq_plain (by rcases hname with rfl | rfl | rfl <;> decide), heffect, if_pos hk]

/-- A background goes to the pool of an interactive kind, and is an edit for other kinds. -/
theorem effect_of_isBackground {name : String} (hn : isBackground name) (kind : Kind) (value : String) :
    effect kind name value =
      .ok (if kind.isInteractive then .style .default name else .edit ⟨"Background", value⟩) := by
  have hname : name = "background" ∨ name = "background-color" := by simpa [isBackground] using hn
  have heffect : plainEffect kind name value =
      if isBackground name && !kind.isInteractive then .ok (.edit ⟨"Background", value⟩)
      else .ok (.style .default name) := by
    rcases hname with rfl | rfl <;> rfl
  rw [effect_eq_plain (by rcases hname with rfl | rfl <;> decide), heffect]
  by_cases hk : kind.isInteractive <;> simp [hn, hk]

theorem effect_background {kind : Kind} {name : String} (hk : kind.isInteractive) (hn : isBackground name)
    (value : String) : effect kind name value = .ok (.style .default name) := by
  rw [effect_of_isBackground hn, if_pos hk]

namespace Effect

/-- The visibility that an effect sets. -/
def shown? : Effect → Option Bool
  | visible b => some b
  | _ => none

/-- The layout mode that an effect sets. -/
def mode? : Effect → Option String
  | layoutMode name => some name
  | _ => none

end Effect

theorem lookup_visibilityWords_eq_none {d : String × String} (h : ∀ w ∈ visibilityWords, d ≠ w.1) :
    visibilityWords.lookup d = none := by
  rw [List.lookup_eq_none_iff]
  intro w hw
  simpa using h w hw

theorem shown?_visibilityEffect (value : String) :
    (visibilityEffect value).shown? = visibilityWord? ("visibility", value) := by
  unfold visibilityEffect visibilityWord?
  generalize lower value = word
  by_cases hhidden : word = "hidden"
  · subst hhidden
    rfl
  by_cases hshown : word = "shown"
  · subst hshown
    rfl
  by_cases hvisible : word = "visible"
  · subst hvisible
    rfl
  rw [lookup_visibilityWords_eq_none (by simp [visibilityWords, hhidden, hshown, hvisible])]
  simp [Effect.shown?, hhidden, hshown, hvisible]

theorem shown?_displayEffect (value : String) :
    (displayEffect value).shown? = visibilityWord? ("display", value) := by
  unfold displayEffect visibilityWord?
  generalize lower value = word
  by_cases hnone : word = "none"
  · subst hnone
    rfl
  by_cases hblock : word = "block"
  · subst hblock
    rfl
  rw [lookup_visibilityWords_eq_none (by simp [visibilityWords, hnone, hblock])]
  simp [Effect.shown?, hnone, hblock]

theorem visibilityWord?_eq_none {name : String} (hn : isVisibility name = false) (value : String) :
    visibilityWord? (name, value) = none := by
  obtain ⟨hvisibility, hdisplay⟩ : name ≠ "visibility" ∧ name ≠ "display" := by simpa [isVisibility] using hn
  exact lookup_visibilityWords_eq_none (by simp [visibilityWords, hvisibility, hdisplay])

/-- Visibility is set by the known words under the two names, and by nothing else. -/
theorem shown?_effect {kind : Kind} {name value : String} {e : Effect} (h : effect kind name value = .ok e) :
    e.shown? = visibilityWord? (name, value) := by
  by_cases hvisibility : name = "visibility"
  · subst hvisibility
    rw [effect_visibility] at h
    cases Except.ok.inj h
    exact shown?_visibilityEffect value
  by_cases hdisplay : name = "display"
  · subst hdisplay
    rw [effect_display] at h
    cases Except.ok.inj h
    exact shown?_displayEffect value
  have hn : isVisibility name = false := by simp [isVisibility, hvisibility, hdisplay]
  rw [visibilityWord?_eq_none hn]
  rcases effect_cases h with ⟨state, inner, -, rfl⟩ | ⟨-, hplain⟩
  · split_ifs <;> rfl
  · cases hplain with
    | visible b hvisible =>
      rw [hn] at hvisible
      cases hvisible
    | _ => rfl

/-- The layout mode of a container is set under the three names, and by nothing else. -/
theorem mode?_effect {kind : Kind} (hk : kind.isContainer) {name value : String} {e : Effect}
    (h : effect kind name value = .ok e) :
    e.mode? = if isLayout name then some (canonicalName value) else none := by
  by_cases hn : isLayout name
  · rw [effect_layout hk hn] at h
    cases Except.ok.inj h
    rw [if_pos hn]
    rfl
  · rw [if_neg hn]
    rcases effect_cases h with ⟨state, inner, -, rfl⟩ | ⟨-, hplain⟩
    · split_ifs <;> rfl
    · cases hplain with
      | layoutMode hlayout => exact absurd hlayout hn
      | _ => rfl

end Overlay
