/-
Pools. What a pool comes to is settled field by field: a field of the bucket is set under names of its own, and
keeps what the last entry under these names says; an entry that is dropped says nothing. So pools whose entries
say the same about each field come to the same bucket, or are stopped by the same number.
-/
import Overlay.Proofs.Bag
import Overlay.Proofs.Run
import Overlay.Style.Resolve
import Mathlib.Tactic.SplitIfs

namespace Overlay

/-- Where each element writes a part of the state or leaves it alone, the last write stands. -/
theorem foldl_getLast? {σ α β : Type} {f : σ → α → σ} (part : σ → Option β) {writes : α → Option β}
    (hstep : ∀ s a, part (f s a) = (writes a).or (part s)) :
    ∀ (l : List α) (s : σ), part (l.foldl f s) = ((l.filterMap writes).getLast?).or (part s)
  | [], s => rfl
  | a :: l, s => by
    rw [List.foldl_cons, foldl_getLast? part hstep l, hstep]
    rcases hw : writes a with _ | b
    · rw [List.filterMap_cons_none hw]
      rfl
    · rw [List.filterMap_cons_some hw, List.getLast?_cons]
      cases (l.filterMap writes).getLast? <;> rfl

/-! ## Fields of a bucket -/

/-- What an entry of a pool may set in a bucket. -/
inductive BucketField where
  | color
  | background
  | size
  | bold
  | uppercase
  | vertical
  | horizontal
  | alignment

namespace BucketField

abbrev Value : BucketField → Type
  | size => Size
  | bold | uppercase => Bool
  | _ => String

/-- Whether a field is set under a name. -/
def isNamed : BucketField → String → Bool
  | color, name => name = "color"
  | background, name => isBackground name
  | size, name => name = "font-size"
  | bold, name => name = "font-weight"
  | uppercase, name => name = "text-transform"
  | vertical, name => name = "vertical-align"
  | horizontal, name => name = "horizontal-align"
  | alignment, name => name = "align"

end BucketField

def Bucket.field (b : Bucket) : (field : BucketField) → Option field.Value
  | .color => b.text.color
  | .background => b.background
  | .size => b.text.size
  | .bold => b.text.bold
  | .uppercase => b.text.uppercase
  | .vertical => b.verticalAlignment
  | .horizontal => b.horizontalAlignment
  | .alignment => b.alignment

/-- What a setting makes of a field. -/
def Setting.value? : Setting → (field : BucketField) → Option field.Value
  | .color v, .color => some v
  | .background v, .background => some v
  | .fontSize x, .size => some x
  | .bold, .bold => some true
  | .uppercase, .uppercase => some true
  | .vertical v, .vertical => some v
  | .horizontal v, .horizontal => some v
  | .alignment v, .alignment => some v
  | _, _ => none

namespace Bucket

theorem field_put (b : Bucket) (x : Setting) (field : BucketField) :
    (b.put x).field field = (x.value? field).or (b.field field) := by
  cases x <;> cases field <;> rfl

/-- Each field has what was set last. -/
theorem field_putAll (field : BucketField) (xs : List Setting) (b : Bucket) :
    (xs.foldl put b).field field = ((xs.filterMap (·.value? field)).getLast?).or (b.field field) :=
  foldl_getLast? (fun b : Bucket => b.field field) (fun b x => field_put b x field) xs b

theorem label_putAll : ∀ (xs : List Setting) (b : Bucket), (xs.foldl put b).label = b.label
  | [], b => rfl
  | x :: xs, b => by
    rw [List.foldl_cons, label_putAll xs]
    cases x <;> rfl

/-- A bucket without a label style is all in its fields. -/
theorem ext_field {a b : Bucket} (h : ∀ field, a.field field = b.field field) (ha : a.label = none)
    (hb : b.label = none) : a = b := by
  obtain ⟨background, ⟨color, size, bold, uppercase⟩, vertical, horizontal, alignment, label⟩ := a
  obtain ⟨background', ⟨color', size', bold', uppercase'⟩, vertical', horizontal', alignment', label'⟩ := b
  obtain rfl : color = color' := h .color
  obtain rfl : background = background' := h .background
  obtain rfl : size = size' := h .size
  obtain rfl : bold = bold' := h .bold
  obtain rfl : uppercase = uppercase' := h .uppercase
  obtain rfl : vertical = vertical' := h .vertical
  obtain rfl : horizontal = horizontal' := h .horizontal
  obtain rfl : alignment = alignment' := h .alignment
  obtain rfl : label = none := ha
  obtain rfl : label' = none := hb
  rfl

/-- The bucket before it was finished. -/
def unfinished (b : Option Bucket) : Bucket :=
  let b := b.getD {}
  { b with text := b.label.getD b.text, label := none }

theorem unfinished_finish (kind : Kind) {b : Bucket} (hb : b.label = none) : unfinished (b.finish kind) = b := by
  obtain ⟨background, text, vertical, horizontal, alignment, label⟩ := b
  obtain rfl : label = none := hb
  unfold finish unfinished
  dsimp only
  split_ifs with hlabel hempty hempty
  · cases hempty
  · rfl
  · rw [hempty]
    rfl
  · rfl

end Bucket

/-! ## What entries say -/

/-- What stopped a computation. -/
def stop? {ε α : Type} : Except ε α → Option ε
  | .ok _ => none
  | .error e => some e

theorem stop?_eq_some_iff {ε α : Type} {x : Except ε α} {e : ε} : stop? x = some e ↔ x = .error e := by
  cases x <;> simp [stop?]

/-- What an entry of a pool says, a setting or that it holds a number too long to read; one that is dropped says
nothing. -/
def said? (kind : Kind) (p : String × String) : Option (Except NumeralTooLong Setting) :=
  match setting kind p.1 p.2 with
  | .ok (.drop _) => none
  | x => some x

/-- The report of an entry that is dropped. -/
def unset? (kind : Kind) (p : String × String) : Option Drop :=
  match setting kind p.1 p.2 with
  | .ok (.drop reason) => some ⟨p.1, p.2, reason⟩
  | _ => none

/-- How an entry of a pool is read, by its name. -/
inductive Setting.Read (kind : Kind) (name value : String) : Except NumeralTooLong Setting → Prop
  | color (h : name = "color") : Read kind name value (.ok (.color value))
  | background (h : isBackground name) : Read kind name value (.ok (.background value))
  | size (h : name = "font-size") (x : Size) : Read kind name value (.ok (.fontSize x))
  | tooLong (h : name = "font-size") (n : NumeralTooLong) : Read kind name value (.error n)
  | bold (h : name = "font-weight") : Read kind name value (.ok .bold)
  | uppercase (h : name = "text-transform") : Read kind name value (.ok .uppercase)
  | vertical (h : name = "vertical-align") : Read kind name value (.ok (.vertical (canonicalName value)))
  | horizontal (h : name = "horizontal-align") : Read kind name value (.ok (.horizontal (canonicalName value)))
  | alignment (h : name = "align") : Read kind name value (.ok (.alignment (canonicalName value)))
  | drop (reason : DropReason) : Read kind name value (.ok (.drop reason))

theorem setting_read (kind : Kind) (name value : String) : Setting.Read kind name value (setting kind name value) := by
  unfold setting
  split_ifs with hcolor hbackground hsize hweight hbold htransform huppercase
  · exact .color hcolor
  · exact .background hbackground
  · rcases readSize value with n | x?
    · exact .tooLong hsize n
    · rcases x? with _ | x
      · exact .drop _
      · exact .size hsize x
  · exact .bold hweight
  · exact .drop _
  · exact .uppercase htransform
  · exact .drop _
  · exact .drop _
  · unfold alignmentSetting?
    split
    · rename_i x hx
      split at hx <;> cases hx
      · exact .vertical rfl
      · exact .horizontal rfl
      · exact .alignment rfl
    · exact .drop _

theorem isNamed_of_value? {kind : Kind} {name value : String} {x : Setting} (h : setting kind name value = .ok x)
    {field : BucketField} (hx : x.value? field ≠ none) : field.isNamed name := by
  have hread := setting_read kind name value
  rw [h] at hread
  cases hread <;> cases field <;> first | exact absurd rfl hx | simp_all [BucketField.isNamed]

theorem setting_of_isBackground {name : String} (h : isBackground name) (kind : Kind) (value : String) :
    setting kind name value = .ok (.background value) := by
  have hcolor : name ≠ "color" := by
    rintro rfl
    cases h
  unfold setting
  rw [if_neg hcolor, if_pos h]

/-- An entry is dropped, or it says what it sets or that it cannot be read. -/
theorem said?_cases (kind : Kind) (p : String × String) :
    (∃ reason, setting kind p.1 p.2 = .ok (.drop reason) ∧ said? kind p = none ∧
      unset? kind p = some ⟨p.1, p.2, reason⟩) ∨
    (said? kind p = some (setting kind p.1 p.2) ∧ unset? kind p = none) := by
  unfold said? unset?
  rcases h : setting kind p.1 p.2 with n | x
  · exact .inr ⟨rfl, rfl⟩
  · cases x with
    | drop reason => exact .inl ⟨reason, rfl, rfl, rfl⟩
    | _ => exact .inr ⟨rfl, rfl⟩

/-- What says something has the name of a field. -/
theorem isNamed_of_said? {kind : Kind} {p : String × String} {x : Except NumeralTooLong Setting}
    (h : said? kind p = some x) : ∃ field : BucketField, field.isNamed p.1 := by
  have hread := setting_read kind p.1 p.2
  unfold said? at h
  rcases hset : setting kind p.1 p.2 with n | y <;> rw [hset] at hread h
  · cases hread with
    | tooLong hname => exact ⟨.size, decide_eq_true hname⟩
  · cases hread with
    | color hname => exact ⟨.color, decide_eq_true hname⟩
    | background hname => exact ⟨.background, hname⟩
    | size hname => exact ⟨.size, decide_eq_true hname⟩
    | bold hname => exact ⟨.bold, decide_eq_true hname⟩
    | uppercase hname => exact ⟨.uppercase, decide_eq_true hname⟩
    | vertical hname => exact ⟨.vertical, decide_eq_true hname⟩
    | horizontal hname => exact ⟨.horizontal, decide_eq_true hname⟩
    | alignment hname => exact ⟨.alignment, decide_eq_true hname⟩
    | drop => cases h

/-! ## Pools that come to the same -/

def sayings (kind : Kind) (es : List (String × String)) : List (Except NumeralTooLong Setting) :=
  es.filterMap (said? kind)

/-- The first number in some entries that is too long to read. -/
def poolStop? (kind : Kind) (es : List (String × String)) : Option NumeralTooLong :=
  es.findSome? fun p => stop? (setting kind p.1 p.2)

/-- The reports of those of some entries that are dropped. -/
def poolDrops (kind : Kind) (es : List (String × String)) : List Drop := es.filterMap (unset? kind)

/-- The bucket that some entries come to. -/
def poolBucket (kind : Kind) (es : List (String × String)) : Option Bucket :=
  (((sayings kind es).filterMap (·.toOption)).foldl Bucket.put {}).finish kind

/-- Entries that say the same about each field, in the same order. -/
def SaySame (kind : Kind) (es es' : List (String × String)) : Prop :=
  ∀ field : BucketField, sayings kind (es.filter fun e => field.isNamed e.1) =
    sayings kind (es'.filter fun e => field.isNamed e.1)

/-- Elements that give nothing can be left out. -/
theorem filterMap_filter_of_none {α β : Type} {f : α → Option β} {p : α → Bool} {l : List α}
    (h : ∀ a ∈ l, p a = false → f a = none) : (l.filter p).filterMap f = l.filterMap f := by
  rw [List.filterMap_filter]
  refine List.filterMap_congr fun a ha => ?_
  by_cases hp : p a = true
  · rw [if_pos hp]
  · rw [if_neg hp, h a ha (by simpa using hp)]

/-- A number can be too long in a size alone. -/
theorem poolStop?_eq (kind : Kind) (es : List (String × String)) :
    poolStop? kind es = ((sayings kind (es.filter fun e => BucketField.size.isNamed e.1)).filterMap stop?).head? := by
  unfold poolStop? sayings
  rw [← List.head?_filterMap, List.filterMap_filterMap, filterMap_filter_of_none]
  · congr 2
    funext p
    rcases said?_cases kind p with ⟨_, hdrop, hnone, -⟩ | ⟨hsome, -⟩
    · rw [hdrop, hnone]
      rfl
    · rw [hsome]
      rfl
  · intro p _ hp
    rcases said?_cases kind p with ⟨_, -, hnone, -⟩ | ⟨hsome, -⟩
    · rw [hnone]
      rfl
    · rw [hsome]
      have hread := setting_read kind p.1 p.2
      rcases h : setting kind p.1 p.2 with n | x
      · rw [h] at hread
        cases hread with
        | tooLong hname => simp [BucketField.isNamed, hname] at hp
      · rfl

theorem field_poolBucket (kind : Kind) (es : List (String × String)) (field : BucketField) :
    (Bucket.unfinished (poolBucket kind es)).field field =
      (((sayings kind (es.filter fun e => field.isNamed e.1)).filterMap (·.toOption)).filterMap
        (·.value? field)).getLast? := by
  unfold poolBucket
  rw [Bucket.unfinished_finish kind (Bucket.label_putAll _ _), Bucket.field_putAll]
  unfold sayings
  simp only [List.filterMap_filterMap]
  rw [filterMap_filter_of_none]
  · cases field <;> exact Option.or_none
  intro p _ hp
  rcases said?_cases kind p with ⟨_, -, hnone, -⟩ | ⟨hsome, -⟩
  · rw [hnone]
    rfl
  · rw [hsome]
    rcases h : setting kind p.1 p.2 with n | x
    · rfl
    · by_contra hx
      rw [isNamed_of_value? h hx] at hp
      cases hp

namespace SaySame

variable {kind : Kind} {es es' : List (String × String)}

theorem stop_eq (h : SaySame kind es es') : poolStop? kind es = poolStop? kind es' := by
  rw [poolStop?_eq, poolStop?_eq, h .size]

theorem bucket_eq (h : SaySame kind es es') : poolBucket kind es = poolBucket kind es' := by
  have hsame : Bucket.unfinished (poolBucket kind es) = Bucket.unfinished (poolBucket kind es') :=
    Bucket.ext_field (fun field => by rw [field_poolBucket, field_poolBucket, h field]) rfl rfl
  unfold poolBucket at hsame ⊢
  rw [Bucket.unfinished_finish kind (Bucket.label_putAll _ _), Bucket.unfinished_finish kind (Bucket.label_putAll _ _)]
    at hsame
  rw [hsame]

end SaySame

end Overlay
