/-
What literals show of resolved records. A record with a field has a literal, and the literal lists every field that is
set, once and in a fixed order. So a resolved style or anchor never comes to nothing when it is written.
-/
import Overlay.Proofs.Style.Eligible

namespace Overlay

/-! ## Entries of records -/

/-- Entries between parentheses. -/
def inParentheses (entries : List String) : String := "(" ++ ", ".intercalate entries ++ ")"

namespace BucketField

/-- All fields in the order in which they are written. -/
def all : List BucketField := [color, size, bold, uppercase, vertical, horizontal, alignment, background]

/-- The word for a field in programs. -/
def word : BucketField → String
  | color => "TextColor"
  | background => "Background"
  | size => "FontSize"
  | bold => "RenderBold"
  | uppercase => "RenderUppercase"
  | vertical => "VerticalAlignment"
  | horizontal => "HorizontalAlignment"
  | alignment => "Alignment"

def text : (field : BucketField) → field.Value → String
  | color, v | background, v | vertical, v | horizontal, v | alignment, v => v
  | size, x => x.literal
  | bold, b | uppercase, b => toString b

def entry (field : BucketField) (v : field.Value) : String := field.word ++ ": " ++ field.text v

theorem mem_all (field : BucketField) : field ∈ all := by
  cases field <;> simp [all]

end BucketField

/-- An entry for each field of a bucket that is set. -/
def Bucket.entries (b : Bucket) : List String := BucketField.all.filterMap fun field => (b.field field).map field.entry

/-- The text properties alone. -/
def TextStyle.entries (t : TextStyle) : List String := ({ text := t } : Bucket).entries

/-- What the section of an interactive kind's bucket holds: the background, and the label style with its entries. -/
def Bucket.sectionEntries (b : Bucket) : List String :=
  (b.background.map fun v => "Background" ++ ": " ++ v).toList ++
    (b.label.map fun t => "LabelStyle" ++ ": " ++ inParentheses t.entries).toList

/-- A section for each state that has a bucket. -/
def Style.sections (style : Style) : List String := StyleState.all.filterMap fun state =>
  (style.bucket state).map fun b => state.name ++ ": " ++ inParentheses b.sectionEntries

namespace AnchorPart

/-- All parts in the order in which they are written. -/
def all : List AnchorPart := [full, left, top, right, bottom, width, height]

/-- The word for a part in programs. -/
def word : AnchorPart → String
  | full => "Full"
  | left => "Left"
  | top => "Top"
  | right => "Right"
  | bottom => "Bottom"
  | width => "Width"
  | height => "Height"

theorem mem_all (part : AnchorPart) : part ∈ all := by
  cases part <;> decide

end AnchorPart

/-- An entry for each part of an anchor that is set. -/
def Anchor.entries (a : Anchor) : List String :=
  AnchorPart.all.filterMap fun part => (a.part part).map fun n => part.word ++ ": " ++ toString n

/-! ## No field is left out -/

theorem Bucket.mem_entries {b : Bucket} {field : BucketField} {v : field.Value} (h : b.field field = some v) :
    field.entry v ∈ b.entries :=
  List.mem_filterMap.2 ⟨field, field.mem_all, by rw [h]; rfl⟩

theorem Bucket.entries_ne_nil_of_field {b : Bucket} (field : BucketField) (h : (b.field field).isSome) :
    b.entries ≠ [] := by
  obtain ⟨v, hv⟩ := Option.isSome_iff_exists.1 h
  exact List.ne_nil_of_mem (mem_entries hv)

theorem Bucket.entries_ne_nil_of_text {b : Bucket} (h : b.text.IsSet) : b.entries ≠ [] := by
  rcases h with h | h | h | h
  · exact entries_ne_nil_of_field .color h
  · exact entries_ne_nil_of_field .size h
  · exact entries_ne_nil_of_field .bold h
  · exact entries_ne_nil_of_field .uppercase h

theorem TextStyle.entries_ne_nil {t : TextStyle} (h : t.IsSet) : t.entries ≠ [] := Bucket.entries_ne_nil_of_text h

theorem Bucket.entries_ne_nil {b : Bucket} (hplain : b.IsPlain) (h : b.IsSet) : b.entries ≠ [] := by
  rcases h with h | h | h | h | h | h
  · rw [hplain.background] at h
    cases h
  · exact entries_ne_nil_of_text h
  · exact entries_ne_nil_of_field .vertical h
  · exact entries_ne_nil_of_field .horizontal h
  · exact entries_ne_nil_of_field .alignment h
  · rw [hplain.label] at h
    cases h

theorem Bucket.sectionEntries_ne_nil {b : Bucket} (hcontrol : b.IsControl) (h : b.IsSet) : b.sectionEntries ≠ [] := by
  unfold sectionEntries
  rcases h with h | (h | h | h | h) | h | h | h | h
  · obtain ⟨v, hv⟩ := Option.isSome_iff_exists.1 h
    simp [hv]
  all_goals try simp [hcontrol.text, hcontrol.vertical, hcontrol.horizontal, hcontrol.alignment] at h
  obtain ⟨t, ht⟩ := Option.isSome_iff_exists.1 h
  simp [ht]

theorem Anchor.entries_ne_nil {a : Anchor} (h : a.IsSet) : a.entries ≠ [] := by
  obtain ⟨part, hpart⟩ := h
  obtain ⟨n, hn⟩ := Option.isSome_iff_exists.1 hpart
  exact List.ne_nil_of_mem (List.mem_filterMap.2 ⟨part, part.mem_all, by rw [hn]; rfl⟩)

/-! ## Literals -/

/-- Flags that are set are on. -/
def TextStyle.FlagsOn (t : TextStyle) : Prop := t.bold ≠ some false ∧ t.uppercase ≠ some false

theorem parenthesized_of_ne_nil {fields : List String} (h : fields ≠ []) :
    parenthesized fields = some (inParentheses fields) := by
  unfold parenthesized
  rw [if_neg (by simpa using h)]
  rfl

theorem flagOf_eq {flag : Option Bool} (h : flag ≠ some false) (word : String) :
    flagOf word flag = (flag.map fun b => word ++ ": " ++ toString b).toList := by
  match flag with
  | none => rfl
  | some true =>
    show [word ++ ": true"] = [word ++ ": " ++ "true"]
    rw [String.append_assoc]
    rfl
  | some false => exact absurd rfl h

/-- The inline fields of a bucket are all there are but the background. -/
theorem Bucket.inlineFields_eq {b : Bucket} (hbackground : b.background = none) (hflags : b.text.FlagsOn) :
    b.text.fields ++ fieldOf "VerticalAlignment" b.verticalAlignment ++
      fieldOf "HorizontalAlignment" b.horizontalAlignment ++ fieldOf "Alignment" b.alignment = b.entries := by
  have hcons : ∀ (field : BucketField) (l : List BucketField),
      ((field :: l).filterMap fun f => (b.field f).map f.entry) =
      ((b.field field).map field.entry).toList ++ l.filterMap fun f => (b.field f).map f.entry := by
    intro field l
    rcases h : b.field field with _ | v <;> simp [h]
  have hnone : b.field .background = none := hbackground
  unfold entries BucketField.all TextStyle.fields
  rw [flagOf_eq hflags.1, flagOf_eq hflags.2]
  simp only [hcons, hnone, List.filterMap_nil, Option.map_none, Option.toList_none, List.append_nil, fieldOf,
    Option.map_map, List.append_assoc]
  rfl

theorem TextStyle.fields_eq {t : TextStyle} (hflags : t.FlagsOn) : t.fields = t.entries := by
  show t.fields = ({ text := t } : Bucket).entries
  rw [← Bucket.inlineFields_eq rfl hflags]
  simp [fieldOf]

theorem Bucket.inlineLiteral_eq {b : Bucket} (hplain : b.IsPlain) (hset : b.IsSet) (hflags : b.text.FlagsOn) :
    b.inlineLiteral = some (inParentheses b.entries) := by
  unfold inlineLiteral
  rw [inlineFields_eq hplain.background hflags]
  exact parenthesized_of_ne_nil (entries_ne_nil hplain hset)

theorem Bucket.buttonFields_eq {b : Bucket} (hcontrol : b.IsControl) (hflags : ∀ t, b.label = some t → t.FlagsOn) :
    b.buttonFields = b.sectionEntries := by
  unfold buttonFields sectionEntries fieldOf
  rcases hlabel : b.label with _ | t
  · rfl
  · have hliteral : t.literal = some (inParentheses t.entries) := by
      unfold TextStyle.literal
      rw [TextStyle.fields_eq (hflags t hlabel)]
      exact parenthesized_of_ne_nil (TextStyle.entries_ne_nil (hcontrol.label t hlabel))
    rw [Option.bind_some, hliteral]
    rfl

/-- The literal of a style for an interactive kind has a section for each state with a bucket. -/
theorem Style.buttonLiteral_eq {style : Style} (hne : style.entries ≠ [])
    (hbuckets : ∀ e ∈ style.entries, e.2.IsControl ∧ e.2.IsSet ∧ ∀ t, e.2.label = some t → t.FlagsOn) :
    style.sections ≠ [] ∧ style.buttonLiteral = some ("TextButtonStyle" ++ inParentheses style.sections) := by
  have hbucket : ∀ {state b}, style.bucket state = some b → b.IsControl ∧ b.IsSet ∧ ∀ t, b.label = some t → t.FlagsOn :=
    fun {state b} h => hbuckets (state, b) (Bag.mem_iff_get?.2 h)
  have hsections : style.sections ≠ [] := by
    obtain ⟨e, he⟩ := List.exists_mem_of_ne_nil _ hne
    have hmem : style.bucket e.1 = some e.2 := Bag.mem_iff_get?.1 he
    exact List.ne_nil_of_mem (List.mem_filterMap.2 ⟨e.1, e.1.mem_all, by rw [hmem]; rfl⟩)
  refine ⟨hsections, ?_⟩
  have hwritten : (style.populated.filterMap fun state => do
      let body ← parenthesized (((style.bucket state).map Bucket.buttonFields).getD [])
      some (state.name ++ ": " ++ body)) = style.sections := by
    unfold populated sections
    rw [List.filterMap_filter]
    refine List.filterMap_congr fun state _ => ?_
    rcases hb : style.bucket state with _ | b
    · have habsent : style.contains state = false := by
        simpa [Bag.contains] using Bag.get?_eq_none_iff.1 hb
      rw [habsent]
      rfl
    · have hpresent : style.contains state = true := by
        by_contra habsent
        have hnone : style.bucket state = none := Bag.get?_eq_none_iff.2 (by simpa [Bag.contains] using habsent)
        rw [hb] at hnone
        cases hnone
      obtain ⟨hcontrol, hset, hflags⟩ := hbucket hb
      rw [if_pos hpresent, Option.map_some, Option.getD_some, Bucket.buttonFields_eq hcontrol hflags,
        parenthesized_of_ne_nil (Bucket.sectionEntries_ne_nil hcontrol hset)]
      rfl
  unfold buttonLiteral
  simp only [hwritten, parenthesized_of_ne_nil hsections, Option.map_some]

theorem Anchor.literal_eq {a : Anchor} (h : a.IsSet) : a.literal = some (inParentheses a.entries) := by
  have hfields : (a.fields.map fun f => f.1 ++ ": " ++ toString f.2) = a.entries := by
    show ((AnchorPart.all.map fun part => (part.word, a.part part)).filterMap fun f => f.2.map (f.1, ·)).map
      (fun f => f.1 ++ ": " ++ toString f.2) = _
    rw [List.filterMap_map, List.map_filterMap]
    refine List.filterMap_congr fun part _ => ?_
    rw [Function.comp_apply, Option.map_map]
    rfl
  unfold literal
  rw [hfields]
  exact parenthesized_of_ne_nil (entries_ne_nil h)

/-! ## Literals of resolved records -/

section Resolved

variable {kind : Kind} {ps : List (String × String)}

/-- A flag is set by the one word that turns it on. -/
theorem flagsOn_unfinished {b : Bucket} {es : List (String × String)} (h : poolBucket kind es = some b) :
    (Bucket.unfinished (some b)).text.FlagsOn := by
  constructor
  · intro hbold
    obtain ⟨e, -, -, x, -, hvalue⟩ := exists_setting .bold h hbold
    cases x <;> cases hvalue
  · intro huppercase
    obtain ⟨e, -, -, x, -, hvalue⟩ := exists_setting .uppercase h huppercase
    cases x <;> cases hvalue

theorem flagsOn_of_label {b : Bucket} {es : List (String × String)} (h : poolBucket kind es = some b)
    {t : TextStyle} (ht : b.label = some t) : t.FlagsOn := by
  have hflags := flagsOn_unfinished h
  simpa [Bucket.unfinished, ht] using hflags

theorem flagsOn_of_plain {b : Bucket} {es : List (String × String)} (h : poolBucket kind es = some b)
    (hlabel : b.label = none) : b.text.FlagsOn := by
  have hflags := flagsOn_unfinished h
  simpa [Bucket.unfinished, hlabel] using hflags

theorem inlineLiteral_of_resolved (hk : ¬ kind.isInteractive) {style : Style}
    (h : (Resolution.ofProperties kind ps).style = some style) : ∃ b, style.bucket .default = some b ∧
      b.IsPlain ∧ b.entries ≠ [] ∧ b.inlineLiteral = some (inParentheses b.entries) := by
  have heligible := eligible_ofProperties kind ps
  obtain ⟨b, hentries, hplain⟩ := heligible.plain hk style h
  have hmem : (StyleState.default, b) ∈ style.entries := by simp [hentries]
  have hset := (heligible.style style h).2 _ hmem
  refine ⟨b, Bag.mem_iff_get?.1 hmem, hplain, Bucket.entries_ne_nil hplain hset, ?_⟩
  exact Bucket.inlineLiteral_eq hplain hset (flagsOn_of_plain (poolBucket_of_mem h hmem) hplain.label)

theorem buttonLiteral_of_resolved (hk : kind.isInteractive) {style : Style}
    (h : (Resolution.ofProperties kind ps).style = some style) :
    style.sections ≠ [] ∧ (∀ state b, style.bucket state = some b → b.sectionEntries ≠ []) ∧
      style.buttonLiteral = some ("TextButtonStyle" ++ inParentheses style.sections) := by
  have heligible := eligible_ofProperties kind ps
  obtain ⟨hne, hset⟩ := heligible.style style h
  have hcontrol := heligible.control hk style h
  obtain ⟨hsections, hliteral⟩ := Style.buttonLiteral_eq hne fun e he =>
    ⟨hcontrol e he, hset e he, fun _ => flagsOn_of_label (poolBucket_of_mem h he)⟩
  refine ⟨hsections, fun state b hb => ?_, hliteral⟩
  have hmem : (state, b) ∈ style.entries := Bag.mem_iff_get?.2 hb
  exact Bucket.sectionEntries_ne_nil (hcontrol _ hmem) (hset _ hmem)

theorem anchorLiteral_of_resolved {a : Anchor} (h : (Resolution.ofProperties kind ps).anchor = some a) :
    a.entries ≠ [] ∧ a.literal = some (inParentheses a.entries) := by
  have hset := (eligible_ofProperties kind ps).anchor a h
  exact ⟨Anchor.entries_ne_nil hset, Anchor.literal_eq hset⟩

end Resolved

/-! ## Edits in the order of their properties -/

/-- The edit that a property asks for: the background of a kind that does not react to the pointer, or the padding of
a container. -/
def declaredEdit? (kind : Kind) (p : String × String) : Option PropertyEdit :=
  if isBackground p.1 then if kind.isInteractive then none else some ⟨"Background", p.2⟩
  else if p.1 = "padding" ∧ kind.isContainer then
    (readPadding p.2).toOption.join.map fun edges => ⟨"Padding", edges.literal⟩
  else none

theorem effect_padding (kind : Kind) (value : String) : effect kind "padding" value = paddingEffect kind value := by
  rw [effect_eq_plain (by decide)]
  rfl

theorem written_edit (kind : Kind) (p : String × String) : written? kind Effect.edit? p = declaredEdit? kind p := by
  unfold written? declaredEdit?
  by_cases hbackground : isBackground p.1
  · rw [if_pos hbackground, effect_of_isBackground hbackground]
    by_cases hk : kind.isInteractive
    · rw [if_pos hk, if_pos hk]
      rfl
    · rw [if_neg hk, if_neg hk]
      rfl
  rw [if_neg hbackground]
  by_cases hpadding : p.1 = "padding"
  · rw [hpadding, effect_padding]
    unfold paddingEffect
    by_cases hk : kind.isContainer
    · rw [if_pos hk, if_pos ⟨rfl, hk⟩]
      rcases readPadding p.2 with n | _ | edges <;> rfl
    · rw [if_neg hk, if_neg fun h => hk h.2]
      rfl
  · rw [if_neg fun h => hpadding h.1]
    refine Option.eq_none_iff_forall_ne_some.2 fun e he => ?_
    obtain ⟨x, hx, hedit⟩ := written?_eq_some_iff.1 he
    cases x <;> cases hedit
    rcases effect_eq_edit hx with ⟨-, hname, -⟩ | ⟨-, hname, -⟩
    · exact hbackground hname
    · exact hpadding hname

theorem Resolution.edits_declared (kind : Kind) (ps : List (String × String)) :
    (ofProperties kind ps).edits = ps.filterMap (declaredEdit? kind) := by
  rw [edits_ofProperties]
  exact List.filterMap_congr fun p _ => written_edit kind p

end Overlay
