/-
Full texts. An element keeps one text, and what comes after an element in it is added to that text. So a full text has
the texts that come in the document order of the elements that they stand directly in, and only those of one element in
the order in which they come.
-/
import Overlay.Proofs.Markup.Nesting

namespace Overlay.Markup

open Element

/-! ## Texts that come -/

/-- The text of a step, if it has one. -/
def Step.text? : Step → Option String
  | .data s => some s
  | _ => none

/-- The texts that come, each with how far the steps before it have come. -/
def said (steps : List Step) : List (Progress × String) :=
  (moments steps).filterMap fun m => m.2.text?.map (m.1, ·)

/-- The texts that come between the tags of an element, that is while it is open. -/
def saidIn (k : Nat) (steps : List Step) : List (Progress × String) :=
  (said steps).filter fun t => k ∈ t.1.opened.map Prod.fst

/-- The place of the innermost open element in document order, in which the root comes first. -/
def Progress.place (p : Progress) : Nat := p.innermost.elim 0 (· + 1)

/-- Texts in the document order of the elements that they stand directly in. Those of one element stay in the order in
which they come. -/
def documentOrder (ts : List (Progress × String)) : List (Progress × String) :=
  ts.mergeSort fun t t' => t.1.place ≤ t'.1.place

/-- No text comes directly in an element after a text in an element inside of it. -/
def Straight (ts : List (Progress × String)) : Prop := ts.Pairwise fun t t' => t.1.place ≤ t'.1.place

/-- Texts one after another. -/
def spoken (ts : List (Progress × String)) : String := String.join (ts.map Prod.snd)

theorem documentOrder_of_straight {ts : List (Progress × String)} (h : Straight ts) : documentOrder ts = ts :=
  List.mergeSort_of_pairwise (h.imp fun hle => decide_eq_true hle)

theorem exists_moment_of_said {steps : List Step} {t : Progress × String} (ht : t ∈ said steps) :
    ∃ m ∈ moments steps, m.1 = t.1 := by
  obtain ⟨m, hm, htext⟩ := List.mem_filterMap.1 ht
  obtain ⟨s, -, rfl⟩ := Option.map_eq_some_iff.1 htext
  exact ⟨m, hm, rfl⟩

/-- The texts that come are those of the steps. -/
theorem spoken_said (steps : List Step) : spoken (said steps) = String.join (steps.filterMap Step.text?) := by
  unfold spoken said
  conv_rhs => rw [← map_snd_moments steps, List.filterMap_map]
  rw [List.map_filterMap]
  congr 2
  funext m
  cases h : m.2.text? <;> simp [h]

/-! ## Lists in groups -/

section Groups

variable {α : Type} (key : α → Nat)

/-- A list that is in order is made of its groups. -/
theorem eq_groups_of_pairwise {s n : Nat} : ∀ {l : List α}, l.Pairwise (fun a b => key a ≤ key b) →
    (∀ a ∈ l, s ≤ key a ∧ key a < s + n) → l = (List.range' s n).flatMap fun j => l.filter (key · = j) := by
  induction n generalizing s with
  | zero =>
    intro l _ hkeys
    rcases l with _ | ⟨a, l⟩
    · simp
    · have := hkeys a (List.mem_cons_self ..)
      omega
  | succ n ih =>
    intro l hl hkeys
    have hsplit : ∀ {l : List α}, l.Pairwise (fun a b => key a ≤ key b) → (∀ a ∈ l, s ≤ key a) →
        l = l.filter (key · = s) ++ l.filter (key · ≠ s) := by
      intro l hl hle
      induction l with
      | nil => rfl
      | cons a l ihl =>
        obtain ⟨ha, hl⟩ := List.pairwise_cons.1 hl
        by_cases hs : key a = s
        · rw [List.filter_cons_of_pos (by simpa using hs), List.filter_cons_of_neg (by simpa using hs),
            List.cons_append, ← ihl hl fun b hb => hle b (List.mem_cons_of_mem _ hb)]
        · -- everything from here on belongs to later groups
          have hlater : ∀ b ∈ a :: l, key b ≠ s := by
            intro b hb
            have hs' := hle a (List.mem_cons_self ..)
            rcases List.mem_cons.1 hb with rfl | hb
            · exact hs
            · have := ha b hb
              omega
          rw [List.filter_eq_nil_iff.2 (by simpa using hlater), List.filter_eq_self.2 (by simpa using hlater)]
          rfl
    have hrest := ih (hl.filter (key · ≠ s)) (s := s + 1) (by
      intro a ha
      rw [List.mem_filter] at ha
      have := hkeys a ha.1
      have : key a ≠ s := by simpa using ha.2
      omega)
    rw [List.range'_succ, List.flatMap_cons]
    conv_lhs => rw [hsplit hl fun a ha => (hkeys a ha).1, hrest]
    congr 1
    refine List.flatMap_congr fun j hj => ?_
    rw [List.filter_filter]
    refine List.filter_congr fun a _ => ?_
    have := List.mem_range'_1.1 hj
    by_cases ha : key a = j
    · simp [ha]; omega
    · simp [ha]

/-- Sorting keeps the groups as they are. -/
theorem filter_mergeSort (l : List α) (j : Nat) :
    (l.mergeSort fun a b => key a ≤ key b).filter (key · = j) = l.filter (key · = j) := by
  symm
  refine List.Sublist.eq_of_length ?_ ?_
  · have hgroup : (l.filter (key · = j)).Pairwise fun a b => decide (key a ≤ key b) = true := by
      refine List.pairwise_of_forall_mem_list fun a ha b hb => ?_
      have ha' : key a = j := by simpa using (List.mem_filter.1 ha).2
      have hb' : key b = j := by simpa using (List.mem_filter.1 hb).2
      simp [ha', hb']
    have hsub := List.sublist_mergeSort (by simp; omega) (by simp; omega) hgroup List.filter_sublist
    simpa using hsub.filter (key · = j)
  · exact ((List.mergeSort_perm l _).filter _).length_eq.symm

theorem mergeSort_eq_groups {s n : Nat} {l : List α} (hkeys : ∀ a ∈ l, s ≤ key a ∧ key a < s + n) :
    (l.mergeSort fun a b => key a ≤ key b) = (List.range' s n).flatMap fun j => l.filter (key · = j) := by
  have hdecided : (l.mergeSort fun a b => key a ≤ key b).Pairwise fun a b => decide (key a ≤ key b) = true :=
    List.pairwise_mergeSort (by simp; omega) (by simp; omega) l
  have hsorted : (l.mergeSort fun a b => key a ≤ key b).Pairwise fun a b => key a ≤ key b :=
    hdecided.imp of_decide_eq_true
  rw [eq_groups_of_pairwise key hsorted fun a ha => hkeys a (List.mem_mergeSort.1 ha)]
  exact List.flatMap_congr fun j _ => filter_mergeSort key l j

end Groups

/-! ## Texts of elements -/

mutual

/-- A full text is made of the texts in the outline. -/
theorem fullText_outline (d : Nat) : ∀ e : Element, e.fullText = String.join ((e.outline d).map (·.2.text))
  | .mk tag attributes text children => by
    rw [fullText, fullTextAll_outline (d + 1) children, outline, List.map_cons, String.join_cons]
    rfl

theorem fullTextAll_outline (d : Nat) : ∀ es : List Element,
    fullTextAll es = String.join ((outlineAll d es).map (·.2.text))
  | [] => rfl
  | e :: es => by
    rw [fullTextAll, outlineAll, List.map_append, String.join_append, fullText_outline d e, fullTextAll_outline d es]

end

/-- The text that stands directly in the element of a place. -/
def textAt (steps : List Step) (j : Nat) : String := spoken ((said steps).filter (·.1.place = j))

theorem textIn_eq (steps : List Step) (o : Option Nat) : textIn o steps = textAt steps (o.elim 0 (· + 1)) := by
  unfold textIn textAt spoken said
  rw [List.filter_filterMap, List.map_filterMap]
  congr 2
  funext m
  rcases m with ⟨p, step⟩
  cases step with
  | data s =>
    have hplace : p.place = o.elim 0 (· + 1) ↔ p.innermost = o := by
      unfold Progress.place
      rcases p.innermost with _ | k <;> rcases o with _ | l <;> simp
    by_cases hp : p.innermost = o <;> simp [dataIn, Step.text?, Option.filter, hplace, hp]
  | _ => rfl

/-- Texts of neighbouring elements in document order are those of one element after the other. -/
theorem spoken_documentOrder {steps : List Step} {p : Progress × String → Bool} {s n : Nat}
    (hp : ∀ t ∈ said steps, p t ↔ s ≤ t.1.place ∧ t.1.place < s + n) :
    spoken (documentOrder ((said steps).filter p)) = String.join ((List.range' s n).map (textAt steps)) := by
  have hjoin : ∀ {α : Type} (js : List α) (f : α → List (Progress × String)),
      spoken (js.flatMap f) = String.join (js.map fun j => spoken (f j)) := by
    intro α js f
    induction js with
    | nil => rfl
    | cons j js ih =>
      rw [List.map_cons, String.join_cons, ← ih]
      simp [spoken, String.join_append]
  unfold documentOrder
  rw [mergeSort_eq_groups (fun t => t.1.place) fun t ht => (hp t (List.mem_filter.1 ht).1).1 (List.mem_filter.1 ht).2,
    hjoin]
  congr 1
  refine List.map_congr_left fun j hj => ?_
  unfold textAt
  rw [List.filter_filter]
  congr 1
  refine List.filter_congr fun t ht => ?_
  have hj := List.mem_range'_1.1 hj
  by_cases htj : t.1.place = j
  · simp [htj, (hp t ht).2 (by omega)]
  · simp [htj]

namespace Faithful

variable {steps : List Step} {e : Element}

/-- Texts of elements that follow each other. -/
theorem map_text (h : Faithful steps e) {k : Nat} {l rest : List (Nat × Element)} (hl : e.inside.drop k = l ++ rest) :
    l.map (·.2.text) = (List.range' (k + 1) l.length).map (textAt steps) := by
  refine List.ext_getElem (by simp) fun i hi _ => ?_
  rw [List.length_map] at hi
  have hx : e.inside[k + i]? = some l[i] := by
    rw [← List.getElem?_drop, hl, List.getElem?_append_left hi, List.getElem?_eq_getElem hi]
  rw [List.getElem_map, List.getElem_map, List.getElem_range', h.texts _ _ hx, textIn_eq]
  congr 1
  simp
  omega

/-- The place of a text is that of the root or of an element in it. -/
theorem place_lt (h : Faithful steps e) {t : Progress × String} (ht : t ∈ said steps) :
    t.1.place < 1 + e.inside.length := by
  obtain ⟨m, hm, hp⟩ := exists_moment_of_said ht
  have hlength : (depthsOf steps).length = e.inside.length := by
    have hdepths : depthsOf steps = e.inside.map Prod.fst := h.depths.symm
    rw [hdepths, List.length_map]
  unfold Progress.place
  rcases hj : t.1.innermost with _ | j
  · show 0 < 1 + e.inside.length
    omega
  · rw [← hp] at hj
    have hlt := (mem_opened_iff hm hj j).1
    show j + 1 < 1 + e.inside.length
    omega

theorem fullText_eq (h : Faithful steps e) : e.fullText = spoken (documentOrder (said steps)) := by
  have hroot : e.text = textAt steps 0 := by rw [h.text, textIn_eq]; rfl
  have hinside : e.inside.map (·.2.text) = (List.range' 1 e.inside.length).map (textAt steps) :=
    h.map_text (List.append_nil e.inside).symm
  have hall : (said steps).filter (fun _ => true) = said steps := List.filter_eq_self.2 fun _ _ => rfl
  rw [fullText_outline 0 e, outline_eq, List.map_cons, String.join_cons, ← hall,
    spoken_documentOrder (s := 0) (n := 1 + e.inside.length) fun t ht => by simpa using h.place_lt ht,
    Nat.add_comm 1, List.range'_succ, List.map_cons, String.join_cons, hroot]
  congr 2

/-- The full text of an element is what comes between its tags. -/
theorem fullText_inside (h : Faithful steps e) {k : Nat} {x : Nat × Element} (hx : e.inside[k]? = some x) :
    x.2.fullText = spoken (documentOrder (saidIn k steps)) := by
  have hsegmented : Segmented 1 e.inside := segmented_outlineAll 1 e.children
  obtain ⟨-, rest, hdrop, -⟩ := hsegmented k x hx
  rw [fullText_outline x.1, h.map_text hdrop]
  refine (spoken_documentOrder fun t ht => ?_).symm
  obtain ⟨m, hm, hp⟩ := exists_moment_of_said ht
  have hdepths : depthsOf steps = e.inside.map Prod.fst := h.depths.symm
  rw [decide_eq_true_iff, ← hp]
  rcases hj : m.1.innermost with _ | j
  · have hopened : m.1.opened = [] := by simpa [Progress.innermost] using hj
    simp [Progress.place, hj, hopened]
  · obtain ⟨hlt, hmem⟩ := mem_opened_iff hm hj k
    rw [hdepths, List.length_map] at hlt
    rw [hmem, hdepths, encloses_iff hsegmented hx hlt]
    simp [Progress.place, hj]
    omega

end Faithful

/-! ## Whole trees -/

/-- A tree that has the texts of some steps in document order. -/
structure TellsTexts (steps : List Step) (e : Element) : Prop where
  whole : e.fullText = spoken (documentOrder (said steps))
  /-- An element has the texts that come between its tags. -/
  inside : ∀ k x, e.inside[k]? = some x → x.2.fullText = spoken (documentOrder (saidIn k steps))
  whole_straight : Straight (said steps) → e.fullText = String.join (steps.filterMap Step.text?)
  inside_straight : ∀ k x, e.inside[k]? = some x → Straight (saidIn k steps) → x.2.fullText = spoken (saidIn k steps)

/-- The texts that steps in any order bring come back in document order, in the whole tree and in each element. They
come back in the order in which they came wherever no text comes directly in an element after a text in an element
inside of it. -/
theorem ofSteps_tellsTexts (steps : List Step) : TellsTexts steps (ofSteps steps) := by
  obtain ⟨entries, htracks⟩ := Tracks.run steps
  have h : Faithful steps (ofSteps steps) := faithful_of_tracks htracks
  constructor
  · exact h.fullText_eq
  · intro k x hx
    exact h.fullText_inside hx
  · intro hstraight
    rw [h.fullText_eq, documentOrder_of_straight hstraight, spoken_said]
  · intro k x hx hstraight
    rw [h.fullText_inside hx, documentOrder_of_straight hstraight]

/-- A paragraph with an element in the middle of its text. -/
def interrupted : List Step :=
  [.opening "p" [], .data "a", .opening "b" [], .data "b", .closing "b", .data "c", .closing "p"]

/-- Text after an element is given back before the text in that element. -/
theorem not_received_interrupted : ¬ ∀ steps, (ofSteps steps).fullText = String.join (steps.filterMap Step.text?) := by
  intro h
  have hinterrupted := h interrupted
  revert hinterrupted
  decide

end Overlay.Markup
