/-
Growing trees. Whatever the order of the steps, the tree has one element for each step that makes one, in the order of
these steps, as deep as elements were open at that moment, and each text goes to the element that is innermost when it
comes. A closing tag with no open element of its name changes nothing.
-/
import Overlay.Proofs.Markup.Outline
import Mathlib.Data.List.Forall2
import Mathlib.Data.List.Induction

namespace Overlay.Markup

open Element

/-! ## Trees that are still growing -/

/-- What is known of an element: the moment of the step that makes it, and its own text so far. -/
structure Entry where
  moment : Progress × Step
  text : String

namespace Entry

def addText (s : String) (a : Entry) : Entry := { a with text := a.text ++ s }

/-- An element at a depth, as its entry has it. -/
structure Of (a : Entry) (x : Nat × Element) : Prop where
  depth : x.1 = a.moment.1.opened.length + 1
  makes : a.moment.2.Makes x.2
  text : x.2.text = a.text

end Entry

/-- Open elements, the innermost first, with the entries of all elements that are in the tree so far. The entries of
what was closed inside an open element come after its own, and before those of the next open element. -/
inductive Grown : List Entry → List (Nat × String) → String → List Element → Prop
  | root {entries : List Entry} {text : String} {children : List Element}
    (h : List.Forall₂ Entry.Of entries (outlineAll 1 children)) :
    Grown entries [] text [.mk "root" Bag.empty text children]
  | inner {entries closed : List Entry} {opened : List (Nat × String)} {text own tag : String} {stack : List Element}
    {p : Progress} {attributes : List (String × Option String)} {children : List Element}
    (hrest : Grown entries opened text stack) (htag : tag ∉ voidTags) (hdepth : p.opened.length = opened.length)
    (h : List.Forall₂ Entry.Of closed (outlineAll (opened.length + 2) children)) :
    Grown (entries ++ ⟨(p, .opening tag attributes), own⟩ :: closed) ((entries.length, tag) :: opened) text
      (.mk tag (Bag.ofList attributes) own children :: stack)

namespace Grown

variable {entries : List Entry} {opened : List (Nat × String)} {text : String} {e : Element} {stack : List Element}

theorem length_eq (h : Grown entries opened text stack) : stack.length = opened.length + 1 := by
  induction h with
  | root _ => rfl
  | inner _ _ _ _ ih => rw [List.length_cons, List.length_cons, ih]

theorem tags_eq (h : Grown entries opened text stack) : stack.dropLast.map Element.tag = opened.map Prod.snd := by
  induction h with
  | root _ => rfl
  | @inner _ _ _ _ _ _ stack _ _ _ hrest _ _ _ ih =>
    have hne : stack ≠ [] := List.ne_nil_of_length_pos (by rw [hrest.length_eq]; exact Nat.succ_pos _)
    rw [List.dropLast_cons_of_ne_nil hne, List.map_cons, ih]
    rfl

/-- A closed element goes into the innermost open one. -/
theorem child (h : Grown entries opened text (e :: stack)) {x : Element} {closed : List Entry}
    (hx : List.Forall₂ Entry.Of closed (x.outline (opened.length + 1))) :
    Grown (entries ++ closed) opened text (Opened.addChild e x :: stack) := by
  cases h with
  | root h =>
    refine .root ?_
    rw [outlineAll_concat]
    exact List.rel_append h hx
  | inner hrest htag hdepth h =>
    rw [List.append_assoc, List.cons_append]
    refine .inner hrest htag hdepth ?_
    rw [outlineAll_concat]
    exact List.rel_append h hx

theorem close {p : Element} {o : Nat × String} (h : Grown entries (o :: opened) text (e :: p :: stack)) :
    Grown entries opened text (Opened.addChild p e :: stack) := by
  cases h with
  | inner hrest htag hdepth h =>
    refine hrest.child ?_
    rw [outline_eq]
    exact .cons ⟨by rw [hdepth], .opened htag, rfl⟩ h

theorem closeMany : ∀ {n : Nat} {opened : List (Nat × String)} {o : Opened}, n ≤ opened.length →
    Grown entries opened text (o.innermost :: o.around) →
    Grown entries (opened.drop n) text ((Opened.closeMany n o).innermost :: (Opened.closeMany n o).around)
  | 0, _, _, _, h => h
  | n + 1, [], _, hn, _ => by cases hn
  | n + 1, k :: opened, ⟨e, []⟩, _, h => by
    have hlen := h.length_eq
    simp at hlen
  | n + 1, k :: opened, ⟨e, p :: around⟩, hn, h => by
    let o : Opened := ⟨Opened.addChild p e, around⟩
    have hclosed : Grown entries opened text (o.innermost :: o.around) := h.close
    have hrest : Grown entries (opened.drop n) text
        ((Opened.closeMany n o).innermost :: (Opened.closeMany n o).around) :=
      closeMany (by simpa using hn) hclosed
    exact hrest

/-- Text goes to the root if nothing is open. -/
theorem addText_root (h : Grown entries [] text (e :: stack)) (s : String) :
    Grown entries [] (text ++ s) (Opened.addText e s :: stack) := by
  cases h with
  | root h => exact .root h

/-- Text goes to the innermost element. -/
theorem addText_inner {k : Nat} {tag : String} (h : Grown entries ((k, tag) :: opened) text (e :: stack)) (s : String) :
    k < entries.length ∧
      Grown (entries.modify k (.addText s)) ((k, tag) :: opened) text (Opened.addText e s :: stack) := by
  cases h with
  | @inner entries closed _ _ own _ _ _ _ _ hrest htag hdepth h =>
    refine ⟨by simp, ?_⟩
    have hmodify : ∀ a, (entries ++ a :: closed).modify entries.length (Entry.addText s) =
        entries ++ a.addText s :: closed :=
      fun a => List.modifyTailIdx_add (List.modifyHead (Entry.addText s)) 0 entries (a :: closed)
    rw [hmodify]
    exact .inner hrest htag hdepth h

end Grown

/-! ## Steps -/

/-- How a growing tree stands after some steps. -/
structure Tracks (steps : List Step) (entries : List Entry) (o : Opened) : Prop where
  grown : Grown entries (Progress.after steps).opened (textIn none steps) (o.innermost :: o.around)
  made : entries.map Entry.moment = (moments steps).filter (·.2.isElement)
  count : (Progress.after steps).count = entries.length
  texts : ∀ k, ((entries[k]?).map Entry.text).getD "" = textIn (some k) steps

namespace Tracks

variable {steps : List Step} {entries : List Entry} {o : Opened}

theorem root : Tracks [] [] Opened.root where
  grown := .root .nil
  made := rfl
  count := rfl
  texts _ := rfl

theorem made_concat (h : Tracks steps entries o) (step : Step) {new : List Entry}
    (hnew : new.map Entry.moment = [(.after steps, step)].filter (·.2.isElement)) :
    (entries ++ new).map Entry.moment = (moments (steps ++ [step])).filter (·.2.isElement) := by
  rw [moments_concat, List.filter_append, List.map_append, h.made, hnew]

section Silent

variable (step : Step) (hsilent : ∀ k, dataIn k (.after steps, step) = none)

include hsilent

theorem textIn_of_silent (k : Option Nat) : textIn k (steps ++ [step]) = textIn k steps := by
  rw [textIn_concat, hsilent, Option.getD_none, String.append_empty]

/-- A step without text leaves the texts as they are, and a new element has none. -/
theorem texts_concat (h : Tracks steps entries o) {new : List Entry} (hnew : ∀ a ∈ new, a.text = "") (k : Nat) :
    (((entries ++ new)[k]?).map Entry.text).getD "" = textIn (some k) (steps ++ [step]) := by
  rw [textIn_of_silent step hsilent, ← h.texts k]
  by_cases hk : k < entries.length
  · rw [List.getElem?_append_left hk]
  · rw [List.getElem?_append_right (Nat.le_of_not_lt hk), List.getElem?_eq_none (Nat.le_of_not_lt hk)]
    rcases ha : new[k - entries.length]? with _ | a
    · rfl
    · exact hnew a (List.mem_of_getElem? ha)

/-- An element that is closed at once. -/
theorem leaf (h : Tracks steps entries o) {tag : String} {attributes : List (String × Option String)}
    (hstep : step.isElement)
    (hnext : (Progress.after steps).next step = ⟨(Progress.after steps).count + 1, (Progress.after steps).opened⟩)
    (hmakes : step.Makes (.mk tag (Bag.ofList attributes) "" [])) :
    Tracks (steps ++ [step]) (entries ++ [⟨(.after steps, step), ""⟩])
      { o with innermost := Opened.addChild o.innermost (.mk tag (Bag.ofList attributes) "" []) } where
  grown := by
    rw [Progress.after_concat, hnext, textIn_of_silent step hsilent]
    exact h.grown.child (.cons ⟨rfl, hmakes, rfl⟩ .nil)
  made := h.made_concat step (by simp [hstep])
  count := by
    rw [Progress.after_concat, hnext, List.length_append, h.count]
    rfl
  texts := texts_concat step hsilent h (by simp)

end Silent

theorem opening (h : Tracks steps entries o) {tag : String} (htag : tag ∉ voidTags)
    (attributes : List (String × Option String)) :
    Tracks (steps ++ [.opening tag attributes]) (entries ++ [⟨(.after steps, .opening tag attributes), ""⟩])
      ⟨.mk tag (Bag.ofList attributes) "" [], o.innermost :: o.around⟩ where
  grown := by
    rw [Progress.after_concat, Progress.next, if_neg htag, h.count, textIn_of_silent _ fun _ => rfl]
    exact .inner h.grown htag rfl .nil
  made := h.made_concat _ rfl
  count := by
    rw [Progress.after_concat, List.length_append, ← h.count]
    rfl
  texts := texts_concat _ (fun _ => rfl) h (by simp)

/-- A closing tag closes as many elements as the innermost open one of its name is deep. -/
theorem depthOf_eq (h : Tracks steps entries o) (tag : String) :
    o.depthOf tag ≤ (Progress.after steps).opened.length ∧
      (Progress.around? tag (Progress.after steps).opened).getD (Progress.after steps).opened =
        (Progress.after steps).opened.drop (o.depthOf tag) := by
  unfold Opened.depthOf
  dsimp only
  rw [h.grown.tags_eq, Progress.around?_eq]
  split
  · rename_i hmem
    have hlt := List.idxOf_lt_length_of_mem hmem
    rw [List.length_map] at hlt
    exact ⟨hlt, rfl⟩
  · exact ⟨Nat.zero_le _, rfl⟩

theorem closing (h : Tracks steps entries o) (tag : String) :
    Tracks (steps ++ [.closing tag]) entries (Opened.closeMany (o.depthOf tag) o) where
  grown := by
    obtain ⟨hle, hopened⟩ := h.depthOf_eq tag
    rw [Progress.after_concat, Progress.next, hopened, textIn_of_silent _ fun _ => rfl]
    exact h.grown.closeMany hle
  made := by
    rw [← h.made_concat (.closing tag) (show [].map Entry.moment = _ from rfl), List.append_nil]
  count := by
    rw [Progress.after_concat, ← h.count]
    rfl
  texts k := by
    rw [← texts_concat (.closing tag) (fun _ => rfl) h (List.forall_mem_nil _) k, List.append_nil]

/-- Text is added to the innermost element. -/
theorem data (h : Tracks steps entries o) (s : String) :
    ∃ entries', Tracks (steps ++ [.data s]) entries' { o with innermost := Opened.addText o.innermost s } := by
  have hafter : Progress.after (steps ++ [.data s]) = .after steps := Progress.after_concat steps (.data s)
  have hmade : entries.map Entry.moment = (moments (steps ++ [.data s])).filter (·.2.isElement) := by
    rw [← h.made_concat (.data s) (show [].map Entry.moment = _ from rfl), List.append_nil]
  have hgrown := h.grown
  rcases hopened : (Progress.after steps).opened with _ | ⟨⟨k, tag⟩, around⟩
  · rw [hopened] at hgrown
    have hinner : (Progress.after steps).innermost = none := by rw [Progress.innermost, hopened]; rfl
    refine ⟨entries, ⟨?_, hmade, by rw [hafter, h.count], fun k => ?_⟩⟩
    · rw [hafter, hopened, textIn_concat]
      simpa [dataIn, hinner] using hgrown.addText_root s
    · rw [h.texts, textIn_concat]
      simp [dataIn, hinner]
  · rw [hopened] at hgrown
    obtain ⟨hk, hgrown⟩ := hgrown.addText_inner s
    have hinner : (Progress.after steps).innermost = some k := by rw [Progress.innermost, hopened]; rfl
    refine ⟨entries.modify k (.addText s), ⟨?_, ?_, ?_, fun j => ?_⟩⟩
    · rw [hafter, hopened, textIn_concat]
      simpa [dataIn, hinner] using hgrown
    · rw [← hmade]
      refine List.ext_getElem? fun j => ?_
      rw [List.getElem?_map, List.getElem?_map, List.getElem?_modify]
      rcases entries[j]? with _ | a
      · rfl
      · by_cases hj : k = j <;> simp [hj, Entry.addText]
    · rw [hafter, h.count, List.length_modify]
    · rw [textIn_concat, ← h.texts j, List.getElem?_modify]
      by_cases hj : k = j
      · subst hj
        simp [List.getElem?_eq_getElem hk, dataIn, hinner, Entry.addText]
      · simp [hj, dataIn, hinner]

/-- Each step is tracked. -/
theorem take (h : Tracks steps entries o) (step : Step) :
    ∃ entries', Tracks (steps ++ [step]) entries' (o.take step) := by
  cases step with
  | opening tag attributes =>
    by_cases htag : tag ∈ voidTags
    · have hnext : (Progress.after steps).next (.opening tag attributes) =
          ⟨(Progress.after steps).count + 1, (Progress.after steps).opened⟩ := by
        rw [Progress.next, if_pos htag]
      have htake : o.take (.opening tag attributes) =
          { o with innermost := Opened.addChild o.innermost (.mk tag (Bag.ofList attributes) "" []) } := by
        rw [Opened.take]
        exact if_pos htag
      rw [htake]
      exact ⟨_, h.leaf _ (fun _ => rfl) rfl hnext (.void htag)⟩
    · have htake : o.take (.opening tag attributes) =
          ⟨.mk tag (Bag.ofList attributes) "" [], o.innermost :: o.around⟩ := by
        rw [Opened.take]
        exact if_neg htag
      rw [htake]
      exact ⟨_, h.opening htag attributes⟩
  | alone tag attributes => exact ⟨_, h.leaf _ (fun _ => rfl) rfl rfl .alone⟩
  | closing tag => exact ⟨entries, h.closing tag⟩
  | data s => exact h.data s

/-- All steps are tracked. -/
theorem run (steps : List Step) : ∃ entries, Tracks steps entries (steps.foldl Opened.take Opened.root) := by
  induction steps using List.reverseRecOn with
  | nil => exact ⟨[], root⟩
  | append_singleton steps step ih =>
    obtain ⟨entries, h⟩ := ih
    rw [List.foldl_append]
    exact h.take step

end Tracks

/-! ## Whole trees -/

/-- A tree that is true to some steps. -/
structure Faithful (steps : List Step) (e : Element) : Prop where
  root : e.tag = "root" ∧ e.attributes = Bag.empty
  /-- In document order, the elements in the tree are those that the steps make, in the order of the steps. -/
  elements : List.Forall₂ Step.Makes (steps.filter Step.isElement) (e.inside.map Prod.snd)
  /-- An element is as deep as elements were open at its step. -/
  depths : e.inside.map Prod.fst = ((moments steps).filter (·.2.isElement)).map (·.1.opened.length + 1)
  /-- The text of an element is what came while it was innermost. -/
  texts : ∀ k x, e.inside[k]? = some x → x.2.text = textIn (some k) steps
  text : e.text = textIn none steps

theorem faithful_of_entries {steps : List Step} {entries : List Entry} {children : List Element}
    (hmade : entries.map Entry.moment = (moments steps).filter (·.2.isElement))
    (htexts : ∀ k, ((entries[k]?).map Entry.text).getD "" = textIn (some k) steps)
    (hof : List.Forall₂ Entry.Of entries (outlineAll 1 children)) :
    Faithful steps (.mk "root" Bag.empty (textIn none steps) children) where
  root := ⟨rfl, rfl⟩
  elements := by
    have hsteps : steps.filter Step.isElement = entries.map (·.moment.2) := by
      conv_lhs => rw [← map_snd_moments steps, List.filter_map]
      exact (congrArg (List.map Prod.snd) hmade.symm).trans List.map_map
    rw [hsteps, List.forall₂_map_left_iff, List.forall₂_map_right_iff]
    exact hof.imp fun a x h => h.makes
  depths := by
    rw [← hmade, List.map_map, ← List.forall₂_eq_eq_eq, List.forall₂_map_left_iff, List.forall₂_map_right_iff]
    exact hof.flip.imp fun x a h => h.depth
  texts k x hx := by
    obtain ⟨hk, rfl⟩ := List.getElem?_eq_some_iff.1 hx
    obtain ⟨hlength, hget⟩ := List.forall₂_iff_get.1 hof
    have hentry : k < entries.length := hlength ▸ hk
    rw [← htexts k, List.getElem?_eq_getElem hentry]
    exact (hget k hentry hk).text
  text := rfl

theorem faithful_of_tracks {steps : List Step} {entries : List Entry} {o : Opened} (h : Tracks steps entries o) :
    Faithful steps o.finish := by
  have hlen := h.grown.length_eq
  rw [List.length_cons, Nat.add_right_cancel_iff] at hlen
  have hgrown := h.grown.closeMany (Nat.le_of_eq hlen)
  have hclosed : (Progress.after steps).opened.drop o.around.length = [] := by rw [hlen, List.drop_length]
  rw [hclosed] at hgrown
  unfold Opened.finish
  generalize Opened.closeMany o.around.length o = closed at hgrown ⊢
  rcases closed with ⟨e, around⟩
  cases hgrown with
  | root hof => exact faithful_of_entries h.made h.texts hof

/-- A closing tag with no open element of its name changes nothing. -/
theorem ofSteps_stray {before : List Step} {tag : String} (h : tag ∉ (Progress.after before).opened.map Prod.snd)
    (steps : List Step) : ofSteps (before ++ .closing tag :: steps) = ofSteps (before ++ steps) := by
  obtain ⟨entries, htracks⟩ := Tracks.run before
  have hdepth : (before.foldl Opened.take Opened.root).depthOf tag = 0 := by
    unfold Opened.depthOf
    dsimp only
    rw [htracks.grown.tags_eq, if_neg h]
  unfold ofSteps
  rw [List.foldl_append, List.foldl_append, List.foldl_cons, Opened.take, hdepth]
  rfl

end Overlay.Markup
