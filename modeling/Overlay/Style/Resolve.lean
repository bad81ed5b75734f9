/-
Resolution of properties for one kind of element. A property either has an effect of its own, goes
to the pool of a state, or is dropped with a reason; then the pool of each state is read into a
bucket. Interactive kinds keep the background in the bucket and nest the text properties in its
label style. Other kinds have the default state alone and turn a background into an edit, and
containers do the same with padding. A dropped property affects nothing else.
-/
import Overlay.Element.Kind
import Overlay.Style.Attribute
import Overlay.Style.Literal

namespace Overlay

open Text

/-! ## Names and tokens -/

/-- Layout and alignment names of several words, by their lower case. -/
def spellings : List (String × String) := [
  ("topscrolling", "TopScrolling"), ("bottomscrolling", "BottomScrolling"),
  ("middlecenter", "MiddleCenter"), ("centermiddle", "CenterMiddle"),
  ("leftcenterwrap", "LeftCenterWrap")]

/-- The engine's spelling of a layout or alignment name: a known one, or the name with its first
character in upper case. -/
def canonicalName (value : String) : String :=
  let name := trim value
  match spellings.lookup (lower name) with
  | some known => known
  | none => match name.toList with
    | [] => ""
    | c :: cs => String.ofList (upperChar c ++ cs)

/-- A token without a `px` at its end, in any case. -/
def dropPx (token : List Char) : List Char :=
  if ['p', 'x'].isSuffixOf (lowerChars token) then token.take (token.length - 2) else token

/-- An integer with an optional `px` after it. -/
def readPixels (raw : String) : Reading Int :=
  Token.integer? (trimChars (dropPx (trimChars raw.toList)))

/-- A number with an optional `px` after it. -/
def readSize (raw : String) : Reading Size :=
  (Value.readNumber (String.ofList (dropPx (trimChars raw.toList)))).map (·.bind Size.ofValue?)

/-! ## What a property does -/

inductive DropReason where
  | stateOnPlainKind
  | notInteger
  | unknownVisibility
  | unknownDisplay
  | layoutOnPlainKind
  | badPadding
  | paddingOnPlainKind
  | notNumber
  | onlyBold
  | onlyUppercase
  | unsupported
  deriving DecidableEq

def DropReason.text : DropReason → String
  | stateOnPlainKind => "pseudo-state on non-interactive kind"
  | notInteger => "not an integer"
  | unknownVisibility => "unknown visibility"
  | unknownDisplay => "unknown display"
  | layoutOnPlainKind => "layout on non-container kind"
  | badPadding => "bad padding"
  | paddingOnPlainKind => "padding on non-container kind"
  | notNumber => "not a number"
  | onlyBold => "only bold is supported"
  | onlyUppercase => "only uppercase is supported"
  | unsupported => "unsupported property"

/-- A property that was dropped, under the name by which it was looked at. -/
structure Drop where
  property : String
  value : String
  reason : DropReason
  deriving DecidableEq

/-- A property that is assigned right after the element's subtree. -/
structure PropertyEdit where
  name : String
  literal : String
  deriving DecidableEq

/-- The constraints of an anchor. -/
inductive AnchorPart where
  | full
  | left
  | top
  | right
  | bottom
  | width
  | height
  deriving DecidableEq

def AnchorPart.ofName? : String → Option AnchorPart
  | "anchor" => some full
  | "anchor-left" => some left
  | "anchor-right" => some right
  | "anchor-top" => some top
  | "anchor-bottom" => some bottom
  | "anchor-width" => some width
  | "anchor-height" => some height
  | _ => none

def Anchor.set (a : Anchor) (n : Int) : AnchorPart → Anchor
  | .full => { a with full := some n }
  | .left => { a with left := some n }
  | .top => { a with top := some n }
  | .right => { a with right := some n }
  | .bottom => { a with bottom := some n }
  | .width => { a with width := some n }
  | .height => { a with height := some n }

/-- What one property does. -/
inductive Effect where
  | anchor (part : AnchorPart) (n : Int)
  | flexWeight (n : Int)
  | visible (b : Bool)
  | layoutMode (name : String)
  | edit (e : PropertyEdit)
  | style (state : StyleState) (name : String)
  | drop (reason : DropReason)

/-- The marks at the front of names that belong to a state other than the default. -/
def stateMarks : List (String × StyleState) := [
  ("--hover-", .hovered), ("--pressed-", .pressed), ("--active-", .pressed), ("--disabled-", .disabled)]

/-- The state that a name belongs to by its mark, and the name after it. -/
def splitState (key : String) : Option StyleState × String :=
  let found := stateMarks.findSome? fun m => (after? m.1.toList key.toList).map fun rest =>
    (some m.2, String.ofList rest)
  found.getD (none, key)

/-- Integers in a row; the first token that is none settles that there are none. -/
def readAllPixels : List String → Except NumeralTooLong (Option (List Int))
  | [] => .ok (some [])
  | t :: ts => do
    match ← readPixels t with
    | none => return none
    | some n => return (← readAllPixels ts).map (n :: ·)

/-- Padding in one, two or four integers. -/
def readPadding (value : String) : Reading Edges :=
  (readAllPixels ((words value.toList).map String.ofList)).map (·.bind Edges.ofShorthand)

def isBackground (name : String) : Bool := name = "background" || name = "background-color"

def isLayout (name : String) : Bool := name = "text-align" || name = "layout" || name = "layout-mode"

/-- An effect of the integer in a value, if there is one. -/
def integerEffect (value : String) (f : Int → Effect) : Except NumeralTooLong Effect :=
  (readPixels value).map fun
    | some n => f n
    | none => .drop .notInteger

def visibilityEffect (value : String) : Effect :=
  let word := lower value
  if word = "hidden" then .visible false
  else if word = "shown" || word = "visible" then .visible true
  else .drop .unknownVisibility

def displayEffect (value : String) : Effect :=
  let word := lower value
  if word = "none" then .visible false
  else if word = "block" then .visible true
  else .drop .unknownDisplay

def paddingEffect (kind : Kind) (value : String) : Except NumeralTooLong Effect :=
  if kind.isContainer then
    (readPadding value).map fun
      | some e => .edit ⟨"Padding", e.literal⟩
      | none => .drop .badPadding
  else .ok (.drop .paddingOnPlainKind)

/-- What a property without a state mark does. -/
def plainEffect (kind : Kind) (key value : String) : Except NumeralTooLong Effect :=
  match AnchorPart.ofName? key with
  | some part => integerEffect value (.anchor part)
  | none =>
    if key = "flex-weight" then integerEffect value .flexWeight
    else if key = "visibility" then .ok (visibilityEffect value)
    else if key = "display" then .ok (displayEffect value)
    else if isLayout key then
      .ok (if kind.isContainer then .layoutMode (canonicalName value) else .drop .layoutOnPlainKind)
    else if key = "padding" then paddingEffect kind value
    else if isBackground key && !kind.isInteractive then .ok (.edit ⟨"Background", value⟩)
    else .ok (.style .default key)

/-- What a property does for an element of the kind. -/
def effect (kind : Kind) (key value : String) : Except NumeralTooLong Effect :=
  match splitState key with
  | (some state, name) =>
    .ok (if kind.isInteractive then .style state name else .drop .stateOnPlainKind)
  | (none, _) => plainEffect kind key value

/-! ## What a property of a state does -/

/-- A property of a bucket, read from one entry of a pool. -/
inductive Setting where
  | color (value : String)
  | background (value : String)
  | fontSize (size : Size)
  | bold
  | uppercase
  | vertical (name : String)
  | horizontal (name : String)
  | alignment (name : String)
  | drop (reason : DropReason)

/-- The alignments that the name of a property sets; interactive kinds have none. -/
def alignmentSetting? (name : String) (value : String) : Option Setting :=
  match name with
  | "vertical-align" => some (.vertical (canonicalName value))
  | "horizontal-align" => some (.horizontal (canonicalName value))
  | "align" => some (.alignment (canonicalName value))
  | _ => none

/-- What one entry of a pool sets. -/
def setting (kind : Kind) (name value : String) : Except NumeralTooLong Setting :=
  if name = "color" then .ok (.color value)
  else if isBackground name then .ok (.background value)
  else if name = "font-size" then
    (readSize value).map fun
      | some size => .fontSize size
      | none => .drop .notNumber
  else if name = "font-weight" then .ok (if lower value = "bold" then .bold else .drop .onlyBold)
  else if name = "text-transform" then
    .ok (if lower value = "uppercase" then .uppercase else .drop .onlyUppercase)
  else
    match if kind.isInteractive then none else alignmentSetting? name value with
    | some s => .ok s
    | none => .ok (.drop .unsupported)

/-- A bucket in the making, with the text properties in the direct fields. -/
def Bucket.put (b : Bucket) : Setting → Bucket
  | .color v => { b with text := { b.text with color := some v } }
  | .background v => { b with background := some v }
  | .fontSize x => { b with text := { b.text with size := some x } }
  | .bold => { b with text := { b.text with bold := some true } }
  | .uppercase => { b with text := { b.text with uppercase := some true } }
  | .vertical v => { b with verticalAlignment := some v }
  | .horizontal v => { b with horizontalAlignment := some v }
  | .alignment v => { b with alignment := some v }
  | .drop _ => b

/-- The finished bucket: an interactive kind has its text properties in a label style, and a bucket
without any field is none. -/
def Bucket.finish (kind : Kind) (b : Bucket) : Option Bucket :=
  let b := if kind.isInteractive && b.text ≠ {} then { b with text := {}, label := some b.text } else b
  if b = {} then none else some b

/-! ## Resolution -/

/-- Everything that the properties of one element resolve to. -/
structure Resolution where
  style : Option Style := none
  anchor : Option Anchor := none
  edits : List PropertyEdit := []
  visible : Option Bool := none
  flexWeight : Option Int := none
  layoutMode : Option String := none
  drops : List Drop := []

/-- The names of the dropped properties, in the order in which they were dropped. -/
def Resolution.dropped (r : Resolution) : List String := r.drops.map (·.property)

/-- A resolution that met a numeral too long to read, and what it had dropped until then. -/
structure Interrupted where
  cause : NumeralTooLong
  drops : List Drop

/-- What the properties read so far come to. -/
structure Draft where
  pools : StyleState → Properties
  anchor : Anchor := {}
  edits : List PropertyEdit := []
  visible : Option Bool := none
  flexWeight : Option Int := none
  layoutMode : Option String := none
  drops : List Drop := []

namespace Draft

def empty : Draft := { pools := fun _ => Bag.empty }

def apply (d : Draft) (key value : String) : Effect → Draft
  | .anchor part n => { d with anchor := d.anchor.set n part }
  | .flexWeight n => { d with flexWeight := some n }
  | .visible b => { d with visible := some b }
  | .layoutMode name => { d with layoutMode := some name }
  | .edit e => { d with edits := d.edits ++ [e] }
  | .style state name =>
    { d with pools := fun s => if s = state then (d.pools s).put name value else d.pools s }
  | .drop reason => { d with drops := d.drops ++ [⟨key, value, reason⟩] }

/-- Reads one property. -/
def take (kind : Kind) (d : Draft) (p : String × String) : Except Interrupted Draft :=
  match effect kind p.1 p.2 with
  | .ok e => .ok (d.apply p.1 p.2 e)
  | .error cause => .error ⟨cause, d.drops⟩

end Draft

/-- Reads one entry of a pool into a bucket; the drops are those so far. -/
def takeSetting (kind : Kind) (acc : Bucket × List Drop) (p : String × String) :
    Except Interrupted (Bucket × List Drop) :=
  match setting kind p.1 p.2 with
  | .ok (.drop reason) => .ok (acc.1, acc.2 ++ [⟨p.1, p.2, reason⟩])
  | .ok s => .ok (acc.1.put s, acc.2)
  | .error cause => .error ⟨cause, acc.2⟩

/-- Reads the pool of one state; a bucket with a field joins the style. -/
def takePool (kind : Kind) (pools : StyleState → Properties) (acc : Style × List Drop) (state : StyleState) :
    Except Interrupted (Style × List Drop) := do
  let (bucket, drops) ← (pools state).entries.foldlM (takeSetting kind) ({}, acc.2)
  return match bucket.finish kind with
    | some b => (acc.1.put state b, drops)
    | none => (acc.1, drops)

/-- Resolves properties for one kind of element. -/
def resolve (kind : Kind) (properties : Properties) : Except Interrupted Resolution := do
  let d ← properties.entries.foldlM (Draft.take kind) Draft.empty
  let (style, drops) ← StyleState.all.foldlM (takePool kind d.pools) (Bag.empty, d.drops)
  return {
    style := if style.isEmpty then none else some style
    anchor := if d.anchor = {} then none else some d.anchor
    edits := d.edits
    visible := d.visible
    flexWeight := d.flexWeight
    layoutMode := d.layoutMode
    drops }

end Overlay
