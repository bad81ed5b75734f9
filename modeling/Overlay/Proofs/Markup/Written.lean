/-
Written trees. A tree is written as steps: start, text, the steps of its children, end. If all its tags may have
content, these steps grow the tree again. The main statement says with this what steps grow in any order.
-/
import Overlay.Proofs.Bag
import Overlay.Proofs.Markup.Growth

namespace Overlay.Markup

open Element

namespace Element

mutual

/-- The steps that a tree is written as: start, text, children, end. -/
def steps : Element → List Step
  | mk tag attributes text children =>
    .opening tag attributes.entries :: .data text :: (stepsAll children ++ [.closing tag])

def stepsAll : List Element → List Step
  | [] => []
  | e :: es => e.steps ++ stepsAll es

end

/-- No element of a tree has a tag without content. -/
def Solid (e : Element) : Prop := ∀ x ∈ e.outline 0, x.2.tag ∉ voidTags

end Element

theorem take_closing (e p : Element) (around : List Element) :
    Opened.take ⟨e, p :: around⟩ (.closing e.tag) = ⟨Opened.addChild p e, around⟩ := by
  have hdepth : Opened.depthOf ⟨e, p :: around⟩ e.tag = 1 := by
    simp [Opened.depthOf]
  rw [Opened.take, hdepth]
  rfl

theorem foldl_addChild (tag : String) (attributes : Attributes) (text : String) : ∀ es children : List Element,
    es.foldl Opened.addChild (.mk tag attributes text children) = .mk tag attributes text (children ++ es)
  | [], children => by rw [List.append_nil]; rfl
  | e :: es, children => by
    rw [List.foldl_cons, List.append_cons]
    exact foldl_addChild tag attributes text es (children ++ [e])

mutual

/-- The steps of a tree put it into the innermost open element. -/
theorem foldl_steps (d : Nat) : ∀ (e : Element) (o : Opened), (∀ x ∈ e.outline d, x.2.tag ∉ voidTags) →
    e.steps.foldl Opened.take o = { o with innermost := Opened.addChild o.innermost e }
  | .mk tag attributes text children, o, hsolid => by
    rw [outline] at hsolid
    have htag : tag ∉ voidTags := hsolid _ (List.mem_cons_self ..)
    have hopening : o.take (.opening tag attributes.entries) = ⟨.mk tag attributes "" [], o.innermost :: o.around⟩ := by
      rw [Opened.take, Bag.ofList_entries]
      exact if_neg htag
    have htext : Opened.take ⟨.mk tag attributes "" [], o.innermost :: o.around⟩ (.data text) =
        ⟨.mk tag attributes text [], o.innermost :: o.around⟩ := by
      simp [Opened.take, Opened.addText, Element.tag, Element.attributes, Element.text, Element.children]
    have hchildren := foldl_stepsAll (d + 1) children ⟨.mk tag attributes text [], o.innermost :: o.around⟩
      fun x hx => hsolid x (List.mem_cons_of_mem _ hx)
    rw [steps, List.foldl_cons, List.foldl_cons, List.foldl_append, hopening, htext, hchildren]
    dsimp only
    rw [foldl_addChild, List.nil_append]
    exact take_closing (.mk tag attributes text children) o.innermost o.around

theorem foldl_stepsAll (d : Nat) : ∀ (es : List Element) (o : Opened), (∀ x ∈ outlineAll d es, x.2.tag ∉ voidTags) →
    (stepsAll es).foldl Opened.take o = { o with innermost := es.foldl Opened.addChild o.innermost }
  | [], _, _ => rfl
  | e :: es, o, hsolid => by
    rw [outlineAll] at hsolid
    rw [stepsAll, List.foldl_append, foldl_steps d e o fun x hx => hsolid x (List.mem_append_left _ hx),
      foldl_stepsAll d es _ fun x hx => hsolid x (List.mem_append_right _ hx)]
    rfl

end

/-- The steps that a tree is written as grow this tree. -/
theorem ofSteps_steps {e : Element} (h : e.Solid) : ofSteps e.steps = .mk "root" Bag.empty "" [e] := by
  unfold ofSteps
  rw [foldl_steps 0 e _ h]
  rfl

/-- Steps in any order grow a tree that is true to them; a closing tag with no open element of its name changes
nothing; and of the attributes of one name the last counts. The steps that a tree is written as grow this tree, if all
its tags may have content. -/
theorem ofSteps_faithful :
    (∀ steps, Faithful steps (ofSteps steps)) ∧
    (∀ before tag after, tag ∉ (Progress.after before).opened.map Prod.snd →
      ofSteps (before ++ .closing tag :: after) = ofSteps (before ++ after)) ∧
    (∀ (attributes : List (String × Option String)) name,
      (Bag.ofList attributes).get? name = (attributes.reverse.find? (·.1 = name)).map Prod.snd) ∧
    ∀ e : Element, e.Solid → ofSteps e.steps = .mk "root" Bag.empty "" [e] := by
  refine ⟨fun steps => ?_, fun before tag after h => ofSteps_stray h after, fun attributes name => ?_,
    fun e => ofSteps_steps⟩
  · obtain ⟨entries, h⟩ := Tracks.run steps
    exact faithful_of_tracks h
  · exact (Bag.get?_putAll name attributes Bag.empty).trans (Option.or_none)

end Overlay.Markup
