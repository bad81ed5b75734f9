/-
Outlines and moments. An outline lists an element and what is in it, each element before those in it, with its depth.
The moments of some steps are the steps themselves, each with how far the steps before it have come: how many elements
there are, and which of them are open. They say what steps grow without a word about trees that are still growing.
-/
import Overlay.Markup.Tree
import Mathlib.Data.List.Basic

namespace Overlay.Markup

/-! ## Outlines -/

namespace Element

mutual

/-- An element and the elements in it, each before those in it, with its depth. -/
def outline (d : Nat) : Element → List (Nat × Element)
  | mk tag attributes text children => (d, mk tag attributes text children) :: outlineAll (d + 1) children

def outlineAll (d : Nat) : List Element → List (Nat × Element)
  | [] => []
  | e :: es => e.outline d ++ outlineAll d es

end

/-- The elements in an element. -/
def inside (e : Element) : List (Nat × Element) := outlineAll 1 e.children

theorem outline_eq (d : Nat) (e : Element) : e.outline d = (d, e) :: outlineAll (d + 1) e.children := by
  rcases e with ⟨tag, attributes, text, children⟩
  rw [outline]
  rfl

theorem outlineAll_concat (d : Nat) (e : Element) : ∀ es : List Element,
    outlineAll d (es ++ [e]) = outlineAll d es ++ e.outline d
  | [] => by simp [outlineAll]
  | x :: es => by simp [outlineAll, outlineAll_concat d e es]

end Element

/-! ## How far steps have come -/

/-- How many elements there are, and which are open, the innermost first, each by its number and its tag. -/
structure Progress where
  count : Nat := 0
  opened : List (Nat × String) := []

namespace Progress

/-- What is around the innermost open element with a tag, if one has it. -/
def around? (tag : String) : List (Nat × String) → Option (List (Nat × String))
  | [] => none
  | o :: rest => if o.2 = tag then some rest else around? tag rest

def next (p : Progress) : Step → Progress
  | .opening tag _ => ⟨p.count + 1, if tag ∈ voidTags then p.opened else (p.count, tag) :: p.opened⟩
  | .alone _ _ => ⟨p.count + 1, p.opened⟩
  | .closing tag => ⟨p.count, (around? tag p.opened).getD p.opened⟩
  | .data _ => p

/-- The number of the innermost open element; the root has none. -/
def innermost (p : Progress) : Option Nat := p.opened.head?.map Prod.fst

def after (steps : List Step) : Progress := steps.foldl next {}

theorem after_concat (steps : List Step) (step : Step) : after (steps ++ [step]) = (after steps).next step := by
  simp [after]

theorem around?_eq (tag : String) : ∀ opened : List (Nat × String), around? tag opened =
    if tag ∈ opened.map Prod.snd then some (opened.drop ((opened.map Prod.snd).idxOf tag + 1)) else none
  | [] => rfl
  | o :: opened => by
    rw [around?, around?_eq tag opened]
    by_cases ho : o.2 = tag
    · simp [ho]
    · rw [if_neg ho, List.map_cons, List.idxOf_cons_ne _ ho, List.drop_succ_cons]
      by_cases hmem : tag ∈ opened.map Prod.snd
      · rw [if_pos hmem, if_pos (List.mem_cons_of_mem _ hmem)]
      · rw [if_neg hmem, if_neg (List.not_mem_cons_of_ne_of_not_mem (Ne.symm ho) hmem)]

end Progress

/-! ## Moments -/

/-- Steps that make elements. -/
def Step.isElement : Step → Bool
  | .opening .. => true
  | .alone .. => true
  | .closing _ => false
  | .data _ => false

/-- The element that a step makes: with its tag, and its attributes, of which the last of each name counts. Only an
element that was opened and whose tag may have content has any. -/
inductive Step.Makes : Step → Element → Prop
  | opened {tag : String} {attributes : List (String × Option String)} {text : String} {children : List Element}
    (h : tag ∉ voidTags) : Makes (.opening tag attributes) (.mk tag (Bag.ofList attributes) text children)
  | void {tag : String} {attributes : List (String × Option String)} (h : tag ∈ voidTags) :
    Makes (.opening tag attributes) (.mk tag (Bag.ofList attributes) "" [])
  | alone {tag : String} {attributes : List (String × Option String)} :
    Makes (.alone tag attributes) (.mk tag (Bag.ofList attributes) "" [])

/-- Steps, each with how far those before it have come. -/
def momentsFrom : Progress → List Step → List (Progress × Step)
  | _, [] => []
  | p, step :: steps => (p, step) :: momentsFrom (p.next step) steps

def moments (steps : List Step) : List (Progress × Step) := momentsFrom {} steps

/-- The text that comes while an element is innermost. -/
def dataIn (k : Option Nat) : Progress × Step → Option String
  | (p, .data s) => if p.innermost = k then some s else none
  | _ => none

/-- All text that comes while an element is innermost. -/
def textIn (k : Option Nat) (steps : List Step) : String := String.join ((moments steps).filterMap (dataIn k))

theorem momentsFrom_append (steps' : List Step) : ∀ (steps : List Step) (p : Progress),
    momentsFrom p (steps ++ steps') = momentsFrom p steps ++ momentsFrom (steps.foldl Progress.next p) steps'
  | [], _ => rfl
  | step :: steps, p => by
    rw [List.cons_append, momentsFrom, momentsFrom_append steps' steps]
    rfl

theorem moments_concat (steps : List Step) (step : Step) :
    moments (steps ++ [step]) = moments steps ++ [(.after steps, step)] :=
  momentsFrom_append [step] steps {}

theorem map_snd_moments (steps : List Step) : (moments steps).map Prod.snd = steps := by
  have h : ∀ p, (momentsFrom p steps).map Prod.snd = steps := by
    induction steps with
    | nil => exact fun p => rfl
    | cons step steps ih =>
      intro p
      rw [momentsFrom, List.map_cons, ih]
  exact h {}

theorem textIn_concat (k : Option Nat) (steps : List Step) (step : Step) :
    textIn k (steps ++ [step]) = textIn k steps ++ ((dataIn k (.after steps, step)).getD "") := by
  unfold textIn
  rw [moments_concat, List.filterMap_append]
  rcases h : dataIn k (.after steps, step) with _ | s <;> simp [h, String.join_append]

end Overlay.Markup
