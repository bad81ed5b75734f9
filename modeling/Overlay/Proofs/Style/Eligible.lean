/-
What a kind may carry. Whatever its properties are, an element gets nothing that its kind has no place for: a kind
that does not react to the pointer has a bucket for the default state alone and sets its background by an edit, an
interactive kind has its text in label styles and is not edited, and only a container has a layout. No record
comes without a field.
-/
import Overlay.Proofs.Style.Direct

namespace Overlay

/-! ## Records with a field -/

def TextStyle.IsSet (t : TextStyle) : Prop :=
  t.color.isSome ∨ t.size.isSome ∨ t.bold.isSome ∨ t.uppercase.isSome

def Bucket.IsSet (b : Bucket) : Prop :=
  b.background.isSome ∨ b.text.IsSet ∨ b.verticalAlignment.isSome ∨ b.horizontalAlignment.isSome ∨
    b.alignment.isSome ∨ b.label.isSome

def Anchor.IsSet (a : Anchor) : Prop := ∃ part, (a.part part).isSome

theorem TextStyle.isSet_of_ne_empty {t : TextStyle} (h : t ≠ {}) : t.IsSet := by
  obtain ⟨color, size, bold, uppercase⟩ := t
  unfold IsSet
  by_contra hnone
  simp only [not_or, Option.not_isSome_iff_eq_none] at hnone
  obtain ⟨rfl, rfl, rfl, rfl⟩ := hnone
  exact h rfl

theorem Bucket.isSet_of_ne_empty {b : Bucket} (h : b ≠ {}) : b.IsSet := by
  obtain ⟨background, text, vertical, horizontal, alignment, label⟩ := b
  unfold IsSet
  by_contra hnone
  simp only [not_or, Option.not_isSome_iff_eq_none] at hnone
  obtain ⟨rfl, htext, rfl, rfl, rfl, rfl⟩ := hnone
  obtain rfl : text = {} := by
    by_contra hne
    exact htext (TextStyle.isSet_of_ne_empty hne)
  exact h rfl

theorem Anchor.isSet_of_ne_empty {a : Anchor} (h : a ≠ {}) : a.IsSet := by
  by_contra hnone
  refine h (Anchor.ext_part fun part => ?_)
  rw [Anchor.part_empty]
  by_contra hpart
  exact hnone ⟨part, Option.isSome_iff_ne_none.2 hpart⟩

/-! ## Buckets of a kind -/

/-- A bucket of a kind that does not react to the pointer. -/
structure Bucket.IsPlain (b : Bucket) : Prop where
  background : b.background = none
  label : b.label = none

/-- A bucket of an interactive kind. -/
structure Bucket.IsControl (b : Bucket) : Prop where
  text : b.text = {}
  vertical : b.verticalAlignment = none
  horizontal : b.horizontalAlignment = none
  alignment : b.alignment = none
  label : ∀ t, b.label = some t → t.IsSet

section Buckets

variable {kind : Kind} {b : Bucket} {es : List (String × String)}

/-- A finished bucket has a field, and is the one in the making but for text that an interactive kind nests. -/
theorem Bucket.finish_eq_some {c : Bucket} (h : b.finish kind = some c) : c ≠ {} ∧
    (kind.isInteractive ∧ b.text ≠ {} ∧ c = { b with text := {}, label := some b.text } ∨
      (kind.isInteractive → b.text = {}) ∧ c = b) := by
  unfold finish at h
  dsimp only at h
  split_ifs at h with hnest hempty hempty
  · cases h
    obtain ⟨hk, htext⟩ := Bool.and_eq_true_iff.1 hnest
    exact ⟨hempty, .inl ⟨hk, of_decide_eq_true htext, rfl⟩⟩
  · cases h
    refine ⟨hempty, .inr ⟨fun hk => ?_, rfl⟩⟩
    by_contra htext
    exact hnest (Bool.and_eq_true_iff.2 ⟨hk, decide_eq_true htext⟩)

theorem poolBucket_nil (kind : Kind) : poolBucket kind [] = none := by
  cases kind <;> rfl

theorem isSet_poolBucket (h : poolBucket kind es = some b) : b.IsSet :=
  Bucket.isSet_of_ne_empty (Bucket.finish_eq_some h).1

/-- A field of a bucket is set by an entry of the pool, under a name of the field. -/
theorem exists_setting (field : BucketField) {v : field.Value} (h : poolBucket kind es = some b)
    (hv : (Bucket.unfinished (some b)).field field = some v) :
    ∃ e ∈ es, field.isNamed e.1 ∧ ∃ x, setting kind e.1 e.2 = .ok x ∧ x.value? field = some v := by
  rw [← h, field_poolBucket, List.filterMap_filterMap] at hv
  obtain ⟨said, hsaid, hvalue⟩ := List.mem_filterMap.1 (List.mem_of_getLast? hv)
  obtain ⟨e, he, hsays⟩ := List.mem_filterMap.1 hsaid
  obtain ⟨hmem, hname⟩ := List.mem_filter.1 he
  refine ⟨e, hmem, hname, ?_⟩
  rcases said?_cases kind e with ⟨_, -, hnone, -⟩ | ⟨hsome, -⟩
  · rw [hnone] at hsays
    cases hsays
  · rw [hsome] at hsays
    cases hsays
    rcases hx : setting kind e.1 e.2 with n | x <;> rw [hx] at hvalue
    · cases hvalue
    · exact ⟨x, rfl, hvalue⟩

/-- Alignments mean nothing to an interactive kind. -/
theorem setting_alignment (hk : kind.isInteractive) {name : String}
    (hname : name = "vertical-align" ∨ name = "horizontal-align" ∨ name = "align") (value : String) :
    setting kind name value = .ok (.drop .unsupported) := by
  rcases hname with rfl | rfl | rfl <;> simp [setting, isBackground, hk]

theorem field_eq_none_of_alignment (hk : kind.isInteractive) (h : poolBucket kind es = some b) (field : BucketField)
    (hfield : ∀ name, field.isNamed name → name = "vertical-align" ∨ name = "horizontal-align" ∨ name = "align") :
    (Bucket.unfinished (some b)).field field = none := by
  by_contra hne
  obtain ⟨v, hv⟩ := Option.ne_none_iff_exists'.1 hne
  obtain ⟨e, -, hname, x, hx, hvalue⟩ := exists_setting field h hv
  rw [setting_alignment hk (hfield _ hname)] at hx
  cases hx
  cases hvalue

theorem isControl_poolBucket (hk : kind.isInteractive) (h : poolBucket kind es = some b) : b.IsControl := by
  have hlabel := Bucket.label_putAll ((sayings kind es).filterMap (·.toOption)) {}
  refine
    { text := ?_
      vertical := field_eq_none_of_alignment hk h .vertical fun _ hname => .inl (of_decide_eq_true hname)
      horizontal := field_eq_none_of_alignment hk h .horizontal fun _ hname =>
        .inr (.inl (of_decide_eq_true hname))
      alignment := field_eq_none_of_alignment hk h .alignment fun _ hname =>
        .inr (.inr (of_decide_eq_true hname))
      label := fun t ht => ?_ }
  · rcases (Bucket.finish_eq_some h).2 with ⟨-, -, rfl⟩ | ⟨htext, rfl⟩
    · rfl
    · exact htext hk
  · rcases (Bucket.finish_eq_some h).2 with ⟨-, htext, rfl⟩ | ⟨-, rfl⟩
    · cases ht
      exact TextStyle.isSet_of_ne_empty htext
    · rw [hlabel] at ht
      cases ht

end Buckets

/-! ## Pools of a kind that does not react to the pointer -/

section Plain

variable {kind : Kind} {ps : List (String × String)} {state : StyleState}

theorem poolEntries_of_plain (hk : ¬ kind.isInteractive) (hstate : state ≠ .default) :
    poolEntries kind state ps = [] := by
  have hnone : ps.filterMap (pooled? kind state) = [] := by
    refine List.filterMap_eq_nil_iff.2 fun p _ => Option.eq_none_iff_forall_ne_some.2 fun e he => ?_
    rcases effect_eq_style (pooled?_eq_some_iff.1 he).1 with ⟨hinteractive, -⟩ | ⟨-, hdefault, -⟩
    · exact hk hinteractive
    · exact hstate hdefault
  rw [poolEntries, hnone]
  rfl

/-- A background goes to no pool. -/
theorem not_isBackground_of_plain (hk : ¬ kind.isInteractive) {e : String × String}
    (he : e ∈ poolEntries kind state ps) : ¬ isBackground e.1 := by
  obtain ⟨p, -, hpooled⟩ := List.mem_filterMap.1 (Bag.mem_of_mem_ofList he)
  rcases effect_named (pooled?_eq_some_iff.1 hpooled).1 with ⟨_, _, -, hmarked⟩ | ⟨hsplit, hnamed⟩
  · rw [if_neg hk] at hmarked
    cases hmarked
  · rcases effect_eq_style (pooled?_eq_some_iff.1 hpooled).1 with ⟨hinteractive, -⟩ | ⟨-, rfl, hname⟩
    · exact absurd hinteractive hk
    · rw [hname] at hnamed ⊢
      cases hnamed with
      | style _ _ hbackground => exact fun h => hk (hbackground h)

theorem isPlain_poolBucket (hk : ¬ kind.isInteractive) {b : Bucket}
    (h : poolBucket kind (poolEntries kind state ps) = some b) : b.IsPlain := by
  refine ⟨?_, ?_⟩
  · by_contra hne
    obtain ⟨v, hv⟩ := Option.ne_none_iff_exists'.1 hne
    obtain ⟨e, he, hname, -⟩ := exists_setting .background h hv
    exact not_isBackground_of_plain hk he hname
  · rcases (Bucket.finish_eq_some h).2 with ⟨hinteractive, -, -⟩ | ⟨-, rfl⟩
    · exact absurd hinteractive hk
    · exact Bucket.label_putAll _ _

end Plain

/-! ## Resolutions of a kind -/

/-- What a kind may carry. -/
structure Resolution.Eligible (kind : Kind) (r : Resolution) : Prop where
  plain : ¬ kind.isInteractive → ∀ style, r.style = some style → ∃ b, style.entries = [(.default, b)] ∧ b.IsPlain
  control : kind.isInteractive → ∀ style, r.style = some style → ∀ e ∈ style.entries, e.2.IsControl
  unedited : kind.isInteractive → r.edits = []
  layout : r.layoutMode.isSome → kind.isContainer
  padding : ∀ e ∈ r.edits, e.name = "Padding" → kind.isContainer
  style : ∀ style, r.style = some style → style.entries ≠ [] ∧ ∀ e ∈ style.entries, e.2.IsSet
  anchor : ∀ a, r.anchor = some a → a.IsSet

theorem Bag.entries_eq_singleton {κ α : Type} {b : Bag κ α} {k : κ} (hne : b.entries ≠ [])
    (hkey : ∀ e ∈ b.entries, e.1 = k) : ∃ v, b.entries = [(k, v)] := by
  obtain ⟨entries, distinct⟩ := b
  match entries with
  | [] => exact absurd rfl hne
  | [e] => exact ⟨e.2, by rw [← hkey e (List.mem_singleton_self e)]⟩
  | e :: e' :: es =>
    have hsame : e.1 = e'.1 := (hkey e (by simp)).trans (hkey e' (by simp)).symm
    simp [hsame] at distinct

section Eligible

variable {kind : Kind} {ps : List (String × String)}

theorem entries_ne_nil_of_style {style : Style} (h : (Resolution.ofProperties kind ps).style = some style) :
    style.entries ≠ [] := by
  have hstyle : (if (Style.ofPools kind (Draft.ofProperties kind ps).pools).isEmpty then none
      else some (Style.ofPools kind (Draft.ofProperties kind ps).pools)) = some style := h
  split_ifs at hstyle with hempty
  cases hstyle
  exact fun hnil => hempty (List.isEmpty_iff.2 hnil)

/-- Each bucket of a style is what the pool of its state comes to. -/
theorem poolBucket_of_mem {style : Style} (h : (Resolution.ofProperties kind ps).style = some style)
    {e : StyleState × Bucket} (he : e ∈ style.entries) : poolBucket kind (poolEntries kind e.1 ps) = some e.2 := by
  rw [← Resolution.bucket_ofProperties, Resolution.bucket, h]
  exact Bag.mem_iff_get?.1 he

/-- An edit is the background of a kind that does not react to the pointer, or the padding of a container. -/
theorem effect_eq_edit {key value : String} {e : PropertyEdit} (h : effect kind key value = .ok (.edit e)) :
    ¬ kind.isInteractive ∧ isBackground key ∧ e = ⟨"Background", value⟩ ∨
      kind.isContainer ∧ key = "padding" ∧ ∃ edges : Edges, e = ⟨"Padding", edges.literal⟩ := by
  rcases effect_named h with ⟨_, _, -, hmarked⟩ | ⟨-, hnamed⟩
  · split_ifs at hmarked
  · cases hnamed with
    | padding hk hname edges => exact .inr ⟨hk, hname, edges, rfl⟩
    | background hk hname => exact .inl ⟨hk, hname, rfl⟩

theorem Kind.not_isInteractive_of_isContainer (h : kind.isContainer) : ¬ kind.isInteractive := by
  cases kind <;> simp_all [isContainer, isInteractive]

theorem eligible_ofProperties (kind : Kind) (ps : List (String × String)) :
    (Resolution.ofProperties kind ps).Eligible kind := by
  have hedit : ∀ e ∈ (Resolution.ofProperties kind ps).edits, ∃ p : String × String,
      effect kind p.1 p.2 = .ok (.edit e) := by
    intro e he
    rw [Resolution.edits_ofProperties] at he
    obtain ⟨p, -, hp⟩ := List.mem_filterMap.1 he
    obtain ⟨x, hx, hwrites⟩ := written?_eq_some_iff.1 hp
    cases x <;> cases hwrites
    exact ⟨p, hx⟩
  constructor
  case plain =>
    intro hk style hstyle
    have hdefault : ∀ e ∈ style.entries, e.1 = .default := by
      intro e he
      by_contra hne
      have hpool := poolBucket_of_mem hstyle he
      rw [poolEntries_of_plain hk hne, poolBucket_nil] at hpool
      cases hpool
    obtain ⟨b, hb⟩ := Bag.entries_eq_singleton (entries_ne_nil_of_style hstyle) hdefault
    have hmem : (StyleState.default, b) ∈ style.entries := by simp [hb]
    exact ⟨b, hb, isPlain_poolBucket hk (poolBucket_of_mem hstyle hmem)⟩
  case control =>
    intro hk style hstyle e he
    exact isControl_poolBucket hk (poolBucket_of_mem hstyle he)
  case unedited =>
    intro hk
    refine List.eq_nil_iff_forall_not_mem.2 fun e he => ?_
    obtain ⟨p, hp⟩ := hedit e he
    rcases effect_eq_edit hp with ⟨hplain, -, -⟩ | ⟨hcontainer, -, -⟩
    · exact hplain hk
    · exact Kind.not_isInteractive_of_isContainer hcontainer hk
  case layout =>
    intro hmode
    obtain ⟨name, hname⟩ := Option.isSome_iff_exists.1 hmode
    rw [Resolution.layoutMode_ofProperties] at hname
    obtain ⟨p, -, hp⟩ := List.mem_filterMap.1 (List.mem_of_getLast? hname)
    obtain ⟨x, hx, hwrites⟩ := written?_eq_some_iff.1 hp
    rcases effect_named hx with ⟨_, _, -, rfl⟩ | ⟨-, hnamed⟩
    · split_ifs at hwrites <;> cases hwrites
    · cases hnamed with
      | layoutMode hk => exact hk
      | _ => cases hwrites
  case padding =>
    intro e he hname
    obtain ⟨p, hp⟩ := hedit e he
    rcases effect_eq_edit hp with ⟨-, -, rfl⟩ | ⟨hcontainer, -, -⟩
    · simp at hname
    · exact hcontainer
  case style =>
    intro style hstyle
    refine ⟨entries_ne_nil_of_style hstyle, fun e he => ?_⟩
    exact isSet_poolBucket (poolBucket_of_mem hstyle he)
  case anchor =>
    intro a ha
    exact Anchor.isSet_of_ne_empty (Resolution.anchor_ne_empty kind ps ha)

end Eligible

/-- An element gets nothing that its kind has no place for, and no record without a field. -/
theorem resolve_eligible {kind : Kind} {properties : Properties} {r : Resolution}
    (h : resolve kind properties = .ok r) : r.Eligible kind := by
  obtain ⟨-, rfl⟩ := resolve_ok_iff.1 h
  exact eligible_ofProperties kind properties.entries

/-- A property of each sort: a layout, an edit of its own, an edge of the anchor, text and a marked background. -/
def dressed : Properties := Bag.ofList [("layout", "left"), ("padding", "4"), ("background", "red"),
  ("anchor-left", "8px"), ("color", "white"), ("align", "center"), ("--hover-background", "blue")]

/-- The layout mode, the names of the edits, the states of the style, and the names that were dropped. -/
def Resolution.outline (r : Resolution) : Option String × List String × Option (List StyleState) × List String :=
  (r.layoutMode, r.edits.map (·.name), r.style.map (·.keys), r.dropped)

theorem resolve_eligible_dressed :
    (∃ r, resolve .group dressed = .ok r ∧
      r.outline = (some "Left", ["Padding", "Background"], some [.default], ["--hover-background"]) ∧
      r.Eligible .group) ∧
    ∃ r, resolve .button dressed = .ok r ∧
      r.outline = (none, [], some [.default, .hovered], ["layout", "padding", "align"]) ∧ r.Eligible .button := by
  have hgroup : (resolve .group dressed).toOption.map Resolution.outline =
      some (some "Left", ["Padding", "Background"], some [.default], ["--hover-background"]) := by decide +kernel
  have hbutton : (resolve .button dressed).toOption.map Resolution.outline =
      some (none, [], some [.default, .hovered], ["layout", "padding", "align"]) := by decide +kernel
  obtain ⟨r, hr, houtline⟩ := exists_resolution hgroup
  obtain ⟨r', hr', houtline'⟩ := exists_resolution hbutton
  exact ⟨⟨r, hr, houtline, resolve_eligible hr⟩, r', hr', houtline', resolve_eligible hr'⟩

end Overlay
