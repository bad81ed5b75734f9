/-
What a compilation visits. It calls handlers on the outermost elements that some handler accepts, in document order, and
on nothing else: on each of them the first handler that accepts it, once. What handlers compile themselves is their own
matter. So an element that is passed over may as well be its children.
-/
import Overlay.Markup.Compile
import Mathlib.Data.List.Lex
import Mathlib.Data.List.ReduceOption

namespace Overlay.Markup

/-! ## Places in a tree -/

namespace Element

/-- The element at a place: the position of a child, then of a child of that one, and so on. Places are in document
order if they are in lexicographic order. -/
def at? : List Nat → Element → Option Element
  | [], e => some e
  | k :: place, e => (e.children[k]?).bind (at? place)

def withChildren (e : Element) (children : List Element) : Element := .mk e.tag e.attributes e.text children

/-- A tree in which the element at a place is replaced by its children. -/
def splice : List Nat → Element → Element
  | [], e => e
  | [k], e => match e.children[k]? with
    | none => e
    | some c => e.withChildren (e.children.take k ++ c.children ++ e.children.drop (k + 1))
  | k :: place, e => e.withChildren (e.children.modify k (splice place))

theorem children_splice_cons (k l : Nat) (place : List Nat) (e : Element) :
    (e.splice (k :: l :: place)).children = e.children.modify k (splice (l :: place)) := rfl

theorem at?_cons_eq_some {k : Nat} {place : List Nat} {e x : Element} :
    at? (k :: place) e = some x ↔ ∃ c, e.children[k]? = some c ∧ at? place c = some x :=
  Option.bind_eq_some_iff

theorem tag_splice : ∀ (place : List Nat) (e : Element), (e.splice place).tag = e.tag
  | [], e => rfl
  | [k], e => by
    rw [splice]
    split <;> rfl
  | _ :: _ :: _, _ => rfl

theorem attributes_splice : ∀ (place : List Nat) (e : Element), (e.splice place).attributes = e.attributes
  | [], e => rfl
  | [k], e => by
    rw [splice]
    split <;> rfl
  | _ :: _ :: _, _ => rfl

end Element

/-! ## Outermost elements -/

/-- Whether some handler accepts an element. -/
def Taken (handlers : List Handler) (e : Element) : Prop := ∃ h ∈ handlers, h.accepts e

/-- A handler that reads only the tag and the attributes of an element to accept it or not. -/
def Handler.ReadsTag (h : Handler) : Prop :=
  ∀ e e' : Element, e.tag = e'.tag → e.attributes = e'.attributes → h.accepts e = h.accepts e'

/-- Rules tell elements by their tag and attributes. -/
theorem Rule.readsTag (r : Rule) : r.handler.ReadsTag := by
  intro e e' htag hattributes
  have hhas : e.hasAttribute = e'.hasAttribute := by
    funext name
    rw [Element.hasAttribute, hattributes, Element.hasAttribute]
  simp only [handler, accepts, htag, hhas]

instance (handlers : List Handler) (e : Element) : Decidable (Taken handlers e) :=
  inferInstanceAs (Decidable (∃ h ∈ handlers, h.accepts e))

/-- An element below the root that is in no other element below the root that some handler accepts. -/
structure Exposed (handlers : List Handler) (root : Element) (place : List Nat) (e : Element) : Prop where
  below : place ≠ []
  here : root.at? place = some e
  around : ∀ above a, above ≠ [] → above <+: place → above ≠ place → root.at? above = some a → ¬ Taken handlers a

/-- A call of a handler on the element at a place. -/
structure Visit where
  place : List Nat
  handler : Handler
  element : Element

namespace Visit

def inChild (k : Nat) (v : Visit) : Visit := { v with place := k :: v.place }

/-- What the handler makes of the element. The handler may have its children compiled. -/
def call (handlers : List Handler) (v : Visit) : Act (Option NodeId) :=
  v.handler.handle v.element (compileAll handlers v.element.children)

end Visit

/-- The nodes that some visits make, one visit after the other. -/
def perform (handlers : List Handler) (visits : List Visit) : Act (List NodeId) := do
  let made ← visits.mapM (Visit.call handlers)
  return made.reduceOption

section Handlers

variable {handlers : List Handler}

theorem find?_eq_none_iff_not_taken {e : Element} : handlers.find? (·.accepts e) = none ↔ ¬ Taken handlers e := by
  simp [Taken]

theorem taken_of_find? {e : Element} {h : Handler} (hfind : handlers.find? (·.accepts e) = some h) :
    Taken handlers e :=
  ⟨h, List.mem_of_find?_eq_some hfind, by simpa using List.find?_some hfind⟩

theorem taken_congr (hreads : ∀ h ∈ handlers, h.ReadsTag) {e e' : Element} (htag : e.tag = e'.tag)
    (hattributes : e.attributes = e'.attributes) : Taken handlers e ↔ Taken handlers e' := by
  constructor
  · rintro ⟨h, hmem, haccepts⟩
    exact ⟨h, hmem, by rwa [← hreads h hmem e e' htag hattributes]⟩
  · rintro ⟨h, hmem, haccepts⟩
    exact ⟨h, hmem, by rwa [hreads h hmem e e' htag hattributes]⟩

/-- What is exposed is a child, or it is exposed in a child that is passed over. -/
theorem exposed_cons_iff {root x : Element} {k : Nat} {place : List Nat} : Exposed handlers root (k :: place) x ↔
    ∃ c, root.children[k]? = some c ∧ (place = [] ∧ x = c ∨ ¬ Taken handlers c ∧ Exposed handlers c place x) := by
  constructor
  · rintro ⟨-, here, around⟩
    obtain ⟨c, hc, hx⟩ := Element.at?_cons_eq_some.1 here
    refine ⟨c, hc, ?_⟩
    rcases place with _ | ⟨l, place⟩
    · cases hx
      exact .inl ⟨rfl, rfl⟩
    · refine .inr ⟨around [k] c (by simp) (by simp) (by simp) (by simp [Element.at?, hc]), by simp, hx, ?_⟩
      intro above a hne hprefix hproper ha
      refine around (k :: above) a (by simp) (by simpa using hprefix) (by simpa using hproper) ?_
      exact Element.at?_cons_eq_some.2 ⟨c, hc, ha⟩
  · rintro ⟨c, hc, ⟨rfl, rfl⟩ | ⟨hpassed, -, here, around⟩⟩
    · refine ⟨by simp, Element.at?_cons_eq_some.2 ⟨x, hc, rfl⟩, fun above a hne hprefix hproper _ => ?_⟩
      rcases List.prefix_cons_iff.1 hprefix with rfl | ⟨rest, rfl, hrest⟩
      · exact absurd rfl hne
      · exact absurd (by rw [List.prefix_nil.1 hrest]) hproper
    · refine ⟨by simp, Element.at?_cons_eq_some.2 ⟨c, hc, here⟩, fun above a hne hprefix hproper ha => ?_⟩
      rcases List.prefix_cons_iff.1 hprefix with rfl | ⟨rest, rfl, hrest⟩
      · exact absurd rfl hne
      · obtain ⟨c', hc', ha⟩ := Element.at?_cons_eq_some.1 ha
        obtain rfl : c = c' := Option.some.inj (hc.symm.trans hc')
        rcases rest with _ | ⟨l, rest⟩
        · cases ha
          exact hpassed
        · exact around _ a (by simp) hrest (by simpa using hproper) ha

/-! ## Visits -/

variable (handlers)

mutual

/-- The visits to an element, or in it if no handler accepts it. -/
def visitsTo : Element → List Visit
  | .mk tag attributes text children =>
    match handlers.find? (·.accepts (.mk tag attributes text children)) with
    | some h => [⟨[], h, .mk tag attributes text children⟩]
    | none => visitsIn 0 children

/-- The visits to elements or in them, where the first of them is a child of the given position. -/
def visitsIn : Nat → List Element → List Visit
  | _, [] => []
  | k, e :: es => (visitsTo e).map (Visit.inChild k) ++ visitsIn (k + 1) es

end

theorem visitsTo_of_find? {e : Element} {h : Handler} (hfind : handlers.find? (·.accepts e) = some h) :
    visitsTo handlers e = [⟨[], h, e⟩] := by
  rcases e with ⟨tag, attributes, text, children⟩
  rw [visitsTo, hfind]

theorem visitsTo_of_not_taken {e : Element} (h : ¬ Taken handlers e) :
    visitsTo handlers e = visitsIn handlers 0 e.children := by
  rcases e with ⟨tag, attributes, text, children⟩
  rw [visitsTo, find?_eq_none_iff_not_taken.2 h]
  rfl

theorem compileElement_of_find? {e : Element} {h : Handler} (hfind : handlers.find? (·.accepts e) = some h) :
    compileElement handlers e = do return (← h.handle e (compileAll handlers e.children)).toList := by
  rcases e with ⟨tag, attributes, text, children⟩
  rw [compileElement, hfind]
  rfl

/-- An element that is passed over is compiled as its children are. -/
theorem compileElement_of_not_taken {e : Element} (h : ¬ Taken handlers e) :
    compileElement handlers e = compileAll handlers e.children := by
  rcases e with ⟨tag, attributes, text, children⟩
  rw [compileElement, find?_eq_none_iff_not_taken.2 h]
  rfl

theorem compileAll_append (es fs : List Element) : compileAll handlers (es ++ fs) = do
    return (← compileAll handlers es) ++ (← compileAll handlers fs) := by
  induction es with
  | nil => simp [compileAll]
  | cons e es ih =>
    simp only [List.cons_append, compileAll, ih, bind_assoc, pure_bind, List.append_assoc]

theorem perform_append (visits visits' : List Visit) : perform handlers (visits ++ visits') = do
    return (← perform handlers visits) ++ (← perform handlers visits') := by
  simp [perform, List.mapM_append, List.reduceOption_append]

theorem perform_inChild (k : Nat) (visits : List Visit) :
    perform handlers (visits.map (Visit.inChild k)) = perform handlers visits := by
  unfold perform
  rw [List.mapM_map]
  rfl

mutual

/-- A compilation performs its visits. -/
theorem compileElement_eq : ∀ e : Element, compileElement handlers e = perform handlers (visitsTo handlers e)
  | .mk tag attributes text children => by
    rcases hfind : handlers.find? (·.accepts (.mk tag attributes text children)) with _ | h
    · have hpassed := find?_eq_none_iff_not_taken.1 hfind
      rw [compileElement_of_not_taken handlers hpassed, visitsTo_of_not_taken handlers hpassed]
      exact compileAll_eq 0 children
    · rw [compileElement_of_find? handlers hfind, visitsTo_of_find? handlers hfind]
      simp [perform, Visit.call, List.reduceOption_singleton]

theorem compileAll_eq : ∀ (k : Nat) (es : List Element),
    compileAll handlers es = perform handlers (visitsIn handlers k es)
  | _, [] => by simp [compileAll, visitsIn, perform]
  | k, e :: es => by
    rw [compileAll, visitsIn, perform_append, perform_inChild, compileElement_eq e, compileAll_eq (k + 1) es]

end

/-! ## Which visits there are -/

variable {handlers}

mutual

theorem mem_visitsTo (v : Visit) : ∀ e : Element, v ∈ visitsTo handlers e ↔
    (v.place = [] ∧ v.element = e ∨ ¬ Taken handlers e ∧ Exposed handlers e v.place v.element) ∧
      handlers.find? (·.accepts v.element) = some v.handler
  | .mk tag attributes text children => by
    rcases hfind : handlers.find? (·.accepts (.mk tag attributes text children)) with _ | h
    · have hpassed := find?_eq_none_iff_not_taken.1 hfind
      rw [visitsTo_of_not_taken handlers hpassed]
      constructor
      · intro hv
        obtain ⟨i, c, place, hc, hplace, hin, hv⟩ := (mem_visitsIn v 0 children).1 hv
        refine ⟨.inr ⟨hpassed, ?_⟩, hv⟩
        rw [hplace, Nat.zero_add]
        exact exposed_cons_iff.2 ⟨c, hc, hin⟩
      · rintro ⟨⟨-, he⟩ | ⟨-, hin⟩, hv⟩
        · rw [he, hfind] at hv
          cases hv
        · rcases hplace : v.place with _ | ⟨i, place⟩
          · exact absurd hplace hin.below
          · rw [hplace] at hin
            obtain ⟨c, hc, hin⟩ := exposed_cons_iff.1 hin
            exact (mem_visitsIn v 0 children).2 ⟨i, c, place, hc, by rw [hplace, Nat.zero_add], hin, hv⟩
    · rw [visitsTo_of_find? handlers hfind, List.mem_singleton]
      constructor
      · rintro rfl
        exact ⟨.inl ⟨rfl, rfl⟩, hfind⟩
      · rintro ⟨⟨hplace, he⟩ | ⟨hpassed, -⟩, hv⟩
        · rcases v with ⟨place, handler, element⟩
          dsimp only at hplace he hv
          rw [he, hfind] at hv
          cases hv
          rw [hplace, he]
        · exact absurd (taken_of_find? hfind) hpassed

theorem mem_visitsIn (v : Visit) : ∀ (k : Nat) (es : List Element), v ∈ visitsIn handlers k es ↔
    ∃ i c place, es[i]? = some c ∧ v.place = (k + i) :: place ∧
      (place = [] ∧ v.element = c ∨ ¬ Taken handlers c ∧ Exposed handlers c place v.element) ∧
      handlers.find? (·.accepts v.element) = some v.handler
  | k, [] => by simp [visitsIn]
  | k, e :: es => by
    rw [visitsIn, List.mem_append, List.mem_map]
    constructor
    · rintro (⟨w, hw, rfl⟩ | hv)
      · obtain ⟨hin, hw⟩ := (mem_visitsTo w e).1 hw
        exact ⟨0, e, w.place, rfl, rfl, hin, hw⟩
      · obtain ⟨i, c, place, hc, hplace, hv⟩ := (mem_visitsIn v (k + 1) es).1 hv
        exact ⟨i + 1, c, place, hc, by rw [hplace, Nat.add_assoc, Nat.add_comm 1], hv⟩
    · rintro ⟨i, c, place, hc, hplace, hin, hv⟩
      cases i with
      | zero =>
        cases hc
        refine .inl ⟨{ v with place }, (mem_visitsTo _ e).2 ⟨hin, hv⟩, ?_⟩
        rw [Visit.inChild, ← Nat.add_zero k, ← hplace]
      | succ i =>
        refine .inr ((mem_visitsIn v (k + 1) es).2 ⟨i, c, place, hc, ?_, hin, hv⟩)
        rw [hplace, Nat.add_assoc, Nat.add_comm 1]

end

/-- The visits of a compilation are to the outermost elements that are accepted, by the first handler that does. -/
theorem mem_visits_iff {root : Element} {v : Visit} : v ∈ visitsIn handlers 0 root.children ↔
    Exposed handlers root v.place v.element ∧ handlers.find? (·.accepts v.element) = some v.handler := by
  rw [mem_visitsIn]
  constructor
  · rintro ⟨i, c, place, hc, hplace, hin, hv⟩
    rw [hplace, Nat.zero_add]
    exact ⟨exposed_cons_iff.2 ⟨c, hc, hin⟩, hv⟩
  · rintro ⟨hexposed, hv⟩
    rcases hplace : v.place with _ | ⟨i, place⟩
    · exact absurd hplace hexposed.below
    · rw [hplace] at hexposed
      obtain ⟨c, hc, hin⟩ := exposed_cons_iff.1 hexposed
      exact ⟨i, c, place, hc, by rw [Nat.zero_add], hin, hv⟩

mutual

/-- Visits are in document order, so there is at most one to each place. -/
theorem pairwise_visitsTo : ∀ e : Element, (visitsTo handlers e).Pairwise fun v w => v.place < w.place
  | .mk tag attributes text children => by
    rw [visitsTo]
    split
    · simp
    · exact pairwise_visitsIn 0 children

theorem pairwise_visitsIn : ∀ (k : Nat) (es : List Element),
    (visitsIn handlers k es).Pairwise fun v w => v.place < w.place
  | _, [] => .nil
  | k, e :: es => by
    rw [visitsIn]
    refine List.pairwise_append.2 ⟨?_, pairwise_visitsIn (k + 1) es, ?_⟩
    · rw [List.pairwise_map]
      refine (pairwise_visitsTo e).imp fun h => ?_
      exact List.cons_lt_cons_iff.2 (.inr ⟨rfl, h⟩)
    · intro v hv w hw
      obtain ⟨u, -, rfl⟩ := List.mem_map.1 hv
      obtain ⟨i, c, place, -, hplace, -⟩ := (mem_visitsIn w (k + 1) es).1 hw
      rw [hplace]
      exact List.cons_lt_cons_iff.2 (.inl (by omega))

end

/-! ## Passing over -/

/-- Compiling a list in which one element is replaced by others that compile as it does. -/
theorem compileAll_replace {es fs : List Element} {k : Nat} {c : Element} (hc : es[k]? = some c)
    (hfs : compileAll handlers fs = compileElement handlers c) :
    compileAll handlers (es.take k ++ fs ++ es.drop (k + 1)) = compileAll handlers es := by
  have hsplit : es = es.take k ++ [c] ++ es.drop (k + 1) := by
    obtain ⟨hk, rfl⟩ := List.getElem?_eq_some_iff.1 hc
    simp
  conv_rhs => rw [hsplit]
  have hsingle : compileAll handlers [c] = compileElement handlers c := by simp [compileAll]
  rw [compileAll_append, compileAll_append, compileAll_append handlers (es.take k ++ [c]),
    compileAll_append handlers (es.take k) [c], hfs, hsingle]

/-- Where an element is passed over that no handler's element is around, it may as well be its children. -/
theorem compileAll_splice (hreads : ∀ h ∈ handlers, h.ReadsTag) : ∀ (place : List Nat) {root e : Element},
    Exposed handlers root place e → ¬ Taken handlers e →
      compileAll handlers (root.splice place).children = compileAll handlers root.children
  | [], _, _, hexposed, _ => absurd rfl hexposed.below
  | [k], root, e, hexposed, hpassed => by
    obtain ⟨c, hc, ⟨-, rfl⟩ | ⟨-, hin⟩⟩ := exposed_cons_iff.1 hexposed
    · rw [Element.splice, hc]
      exact compileAll_replace hc (compileElement_of_not_taken handlers hpassed).symm
    · exact absurd rfl hin.below
  | k :: l :: place, root, e, hexposed, hpassed => by
    obtain ⟨c, hc, ⟨hnil, -⟩ | ⟨hc', hin⟩⟩ := exposed_cons_iff.1 hexposed
    · cases hnil
    · -- the child that is changed on the way is passed over before and after
      have hsame : compileElement handlers (c.splice (l :: place)) = compileElement handlers c := by
        have hpassed' : ¬ Taken handlers (c.splice (l :: place)) := by
          rwa [taken_congr hreads (Element.tag_splice _ c) (Element.attributes_splice _ c)]
        rw [compileElement_of_not_taken handlers hpassed', compileElement_of_not_taken handlers hc',
          compileAll_splice hreads (l :: place) hin hpassed]
      obtain ⟨hk, rfl⟩ := List.getElem?_eq_some_iff.1 hc
      have hmodify : root.children.modify k (Element.splice (l :: place)) =
          root.children.take k ++ [root.children[k].splice (l :: place)] ++ root.children.drop (k + 1) := by
        rw [List.modify_eq_take_cons_drop hk]
        simp
      rw [Element.children_splice_cons, hmodify]
      refine compileAll_replace hc ?_
      rw [← hsame]
      simp [compileAll]

end Handlers

/-! ## Compilations -/

/-- A compilation visits the outermost elements that some handler accepts, in document order and each once, with the
first handler that accepts it, and gives the nodes that the visits make. An element that is passed over, and that none
around it takes, may as well be its children, if handlers tell elements by their tag and attributes. -/
theorem compile_visits_outermost (handlers : List Handler) (root : Element) :
    (∃ visits : List Visit, visits.Pairwise (fun v w => v.place < w.place) ∧
      (∀ v, v ∈ visits ↔
        Exposed handlers root v.place v.element ∧ handlers.find? (·.accepts v.element) = some v.handler) ∧
      compile handlers root = do
        let made ← visits.mapM (Visit.call handlers)
        return made.reduceOption) ∧
    ((∀ h ∈ handlers, h.ReadsTag) → ∀ place e, Exposed handlers root place e → ¬ Taken handlers e →
      compile handlers (root.splice place) = compile handlers root) := by
  refine ⟨⟨visitsIn handlers 0 root.children, pairwise_visitsIn 0 root.children, fun v => mem_visits_iff, ?_⟩, ?_⟩
  · exact compileAll_eq handlers 0 root.children
  · intro hreads place e hexposed hpassed
    exact compileAll_splice hreads place hexposed hpassed

/-- Rules for paragraphs and for panels. -/
def noteRules : List Handler := [
  Rule.handler { tag := some "p", kind := some .label, content := .text },
  Rule.handler { tag := some "div", kind := some .group, content := .children }]

/-- An element that none of the rules takes, with a paragraph in it. -/
def margin : Element := .mk "aside" Bag.empty "" [.mk "p" Bag.empty "first" []]

/-- A page with a panel and a margin in a section, and a paragraph in the panel. -/
def notePage : Element := .mk "root" Bag.empty "" [
  .mk "section" Bag.empty "" [margin, .mk "div" Bag.empty "" [.mk "p" Bag.empty "second" []]],
  .mk "p" Bag.empty "third" []]

theorem compile_visits_outermost_notePage :
    (∀ h ∈ noteRules, h.ReadsTag) ∧ Exposed noteRules notePage [0, 0] margin ∧ ¬ Taken noteRules margin ∧
      compile noteRules (notePage.splice [0, 0]) = compile noteRules notePage := by
  have hreads : ∀ h ∈ noteRules, h.ReadsTag := by
    intro h hmem
    simp only [noteRules, List.mem_cons, List.not_mem_nil, or_false] at hmem
    rcases hmem with rfl | rfl <;> exact Rule.readsTag _
  have hexposed : Exposed noteRules notePage [0, 0] margin :=
    exposed_cons_iff.2 ⟨_, rfl, .inr ⟨by decide, exposed_cons_iff.2 ⟨_, rfl, .inl ⟨rfl, rfl⟩⟩⟩⟩
  have hpassed : ¬ Taken noteRules margin := by decide
  exact ⟨hreads, hexposed, hpassed,
    (compile_visits_outermost noteRules notePage).2 hreads [0, 0] margin hexposed hpassed⟩

/-- The paragraph in the panel is left to the rule for panels. -/
example : (visitsIn noteRules 0 notePage.children).map (·.place) = [[0, 0, 0], [0, 1], [1]] := by decide

end Overlay.Markup
