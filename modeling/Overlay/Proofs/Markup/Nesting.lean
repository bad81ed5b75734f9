/-
Nesting, told by depths. What is in an element follows it in document order, as long as the depths stay above its own.
The depths that steps give their elements also tell what is open at a moment: the innermost element and those that
enclose it.
-/
import Overlay.Proofs.Markup.Growth
import Mathlib.Data.List.GetD

namespace Overlay.Markup

open Element

/-! ## Depths of an outline -/

/-- Whether an element is another one or in it: from the first one up to it, all are deeper than the first. -/
def Encloses (depths : List Nat) (k j : Nat) : Prop :=
  k ≤ j ∧ ∀ i, k < i → i ≤ j → depths.getD k 0 < depths.getD i 0

/-- More elements after an element do not change what encloses it. -/
theorem encloses_append {depths : List Nat} (depths' : List Nat) {k j : Nat} (hj : j < depths.length) :
    Encloses (depths ++ depths') k j ↔ Encloses depths k j := by
  have hget : ∀ {i}, i ≤ j → (depths ++ depths').getD i 0 = depths.getD i 0 :=
    fun hi => List.getD_append _ _ _ _ (by omega)
  constructor
  · rintro ⟨hkj, hdeeper⟩
    refine ⟨hkj, fun i hki hij => ?_⟩
    simpa only [hget hkj, hget hij] using hdeeper i hki hij
  · rintro ⟨hkj, hdeeper⟩
    refine ⟨hkj, fun i hki hij => ?_⟩
    simpa only [hget hkj, hget hij] using hdeeper i hki hij

/-- A list of elements with their depths, none above `d`, in which each element is followed by what is in it, and then
by an element that is not in it or by nothing. -/
def Segmented (d : Nat) (l : List (Nat × Element)) : Prop :=
  ∀ k x, l[k]? = some x → d ≤ x.1 ∧
    ∃ rest, l.drop k = x.2.outline x.1 ++ rest ∧ ∀ y ∈ rest.head?, y.1 ≤ x.1

namespace Segmented

variable {d : Nat} {l l' : List (Nat × Element)}

theorem append (h : Segmented d l) (h' : Segmented d l') (hhead : ∀ y ∈ l'.head?, y.1 ≤ d) : Segmented d (l ++ l') := by
  intro k x hx
  by_cases hk : k < l.length
  · rw [List.getElem?_append_left hk] at hx
    obtain ⟨hd, rest, hdrop, hrest⟩ := h k x hx
    refine ⟨hd, rest ++ l', ?_, ?_⟩
    · rw [List.drop_append_of_le_length (by omega), hdrop, List.append_assoc]
    · intro y hy
      rcases rest with _ | ⟨z, rest⟩
      · exact Nat.le_trans (hhead y hy) hd
      · exact hrest y hy
  · rw [List.getElem?_append_right (by omega)] at hx
    obtain ⟨hd, rest, hdrop, hrest⟩ := h' _ x hx
    refine ⟨hd, rest, ?_, hrest⟩
    rw [List.drop_append, List.drop_eq_nil_of_le (by omega), List.nil_append, hdrop]

theorem le (h : Segmented d l) {x : Nat × Element} (hx : x ∈ l) : d ≤ x.1 := by
  obtain ⟨k, hk⟩ := List.getElem?_of_mem hx
  exact (h k x hk).1

end Segmented

mutual

theorem segmented_outline (d : Nat) : ∀ e : Element, Segmented d (e.outline d)
  | .mk tag attributes text children => by
    intro k x hx
    rw [outline] at hx ⊢
    cases k with
    | zero =>
      cases hx
      exact ⟨Nat.le_refl d, [], by simp [outline], by simp⟩
    | succ k =>
      obtain ⟨hd, rest, hdrop, hrest⟩ := segmented_outlineAll (d + 1) children k x hx
      exact ⟨by omega, rest, hdrop, hrest⟩

theorem segmented_outlineAll (d : Nat) : ∀ es : List Element, Segmented d (outlineAll d es)
  | [] => by
    intro k x hx
    simp [outlineAll] at hx
  | e :: es => by
    rw [outlineAll]
    refine (segmented_outline d e).append (segmented_outlineAll d es) ?_
    rcases es with _ | ⟨e', es⟩
    · simp [outlineAll]
    · simp [outlineAll, outline_eq]

end

/-- What an element encloses is what its own outline holds. -/
theorem encloses_iff {d : Nat} {l : List (Nat × Element)} (h : Segmented d l) {k j : Nat} {x : Nat × Element}
    (hx : l[k]? = some x) (hj : j < l.length) :
    Encloses (l.map Prod.fst) k j ↔ k ≤ j ∧ j < k + (x.2.outline x.1).length := by
  obtain ⟨-, rest, hdrop, hrest⟩ := h k x hx
  have hget : ∀ {i y}, l[i]? = some y → (l.map Prod.fst).getD i 0 = y.1 := by
    intro i y hy
    simp [List.getD_eq_getElem?_getD, hy]
  have hafter : ∀ m, l[k + m]? = (x.2.outline x.1 ++ rest)[m]? := by
    intro m
    rw [← hdrop, List.getElem?_drop]
  constructor
  · rintro ⟨hkj, hdeeper⟩
    refine ⟨hkj, ?_⟩
    by_contra hout
    -- the first element after the outline is not deeper
    obtain ⟨y, hy⟩ : ∃ y, l[k + (x.2.outline x.1).length]? = some y :=
      ⟨_, List.getElem?_eq_getElem (by omega)⟩
    have hle : y.1 ≤ x.1 := by
      rw [hafter, List.getElem?_append_right (Nat.le_refl _), Nat.sub_self, ← List.head?_eq_getElem?] at hy
      exact hrest y hy
    have hlt := hdeeper (k + (x.2.outline x.1).length) (by rw [outline_eq]; simp) (by omega)
    rw [hget hx, hget hy] at hlt
    omega
  · rintro ⟨hkj, hlt⟩
    refine ⟨hkj, fun i hki hij => ?_⟩
    obtain ⟨m, rfl⟩ : ∃ m, i = k + (m + 1) := ⟨i - k - 1, by omega⟩
    obtain ⟨y, hy⟩ : ∃ y, l[k + (m + 1)]? = some y := ⟨_, List.getElem?_eq_getElem (by omega)⟩
    rw [hget hx, hget hy]
    rw [hafter, List.getElem?_append_left (by omega), outline_eq, List.getElem?_cons_succ] at hy
    exact (segmented_outlineAll (x.1 + 1) x.2.children).le (List.mem_of_getElem? hy)

/-! ## Depths of steps -/

/-- The depths of the elements that steps make, in the order of the steps. -/
def depthsOf (steps : List Step) : List Nat :=
  ((moments steps).filter (·.2.isElement)).map (·.1.opened.length + 1)

theorem depthsOf_concat (steps : List Step) (step : Step) : depthsOf (steps ++ [step]) =
    depthsOf steps ++ if step.isElement then [(Progress.after steps).opened.length + 1] else [] := by
  unfold depthsOf
  rw [moments_concat, List.filter_append, List.map_append]
  by_cases h : step.isElement <;> simp [h]

theorem pos_of_mem_depthsOf {steps : List Step} : ∀ d ∈ depthsOf steps, 0 < d := by
  intro d hd
  obtain ⟨m, -, rfl⟩ := List.mem_map.1 hd
  omega

theorem count_after (steps : List Step) : (Progress.after steps).count = (depthsOf steps).length := by
  induction steps using List.reverseRecOn with
  | nil => rfl
  | append_singleton steps step ih =>
    rw [Progress.after_concat, depthsOf_concat]
    cases step <;> simp [Progress.next, Step.isElement, ih]

/-! ## What is open -/

/-- Open elements that fit the depths so far. Each has the depth of its place, all that came after it is in it, and
it is enclosed by itself and the elements open around it. -/
inductive Stacked (ds : List Nat) : List (Nat × String) → Prop
  | nil : Stacked ds []
  | cons {k : Nat} {tag : String} {opened : List (Nat × String)} (hopened : Stacked ds opened) (hk : k < ds.length)
      (hdepth : ds.getD k 0 = opened.length + 1)
      (hafter : ∀ i, k < i → i < ds.length → opened.length + 1 < ds.getD i 0)
      (haround : ∀ i, i ∈ ((k, tag) :: opened).map Prod.fst ↔ Encloses ds i k) : Stacked ds ((k, tag) :: opened)

namespace Stacked

variable {ds : List Nat} {opened : List (Nat × String)}

theorem lt_length (h : Stacked ds opened) {i : Nat} (hi : i ∈ opened.map Prod.fst) : i < ds.length := by
  cases h with
  | nil => cases hi
  | cons _ hk _ _ haround =>
    have hle := ((haround i).1 hi).1
    omega

theorem drop (h : Stacked ds opened) : ∀ n, Stacked ds (opened.drop n) := by
  induction h with
  | nil =>
    intro n
    rw [List.drop_nil]
    exact .nil
  | cons hopened hk hdepth hafter haround ih =>
    intro n
    cases n with
    | zero => exact .cons hopened hk hdepth hafter haround
    | succ n => exact ih n

/-- Another element that is in all that is open. -/
theorem concat (h : Stacked ds opened) {d : Nat} (hd : opened.length < d) : Stacked (ds ++ [d]) opened := by
  induction h with
  | nil => exact .nil
  | @cons k tag opened hopened hk hdepth hafter haround ih =>
    rw [List.length_cons] at hd
    refine .cons (ih (by omega)) (by simp; omega) ?_ ?_ ?_
    · rw [List.getD_append _ _ _ _ hk, hdepth]
    · intro i hki hi
      by_cases hlt : i < ds.length
      · rw [List.getD_append _ _ _ _ hlt]
        exact hafter i hki hlt
      · obtain rfl : i = ds.length := by simp at hi; omega
        simpa using hd
    · intro i
      rw [haround, encloses_append _ hk]

/-- A new element is enclosed by all that is open and by nothing else. -/
theorem encloses_new (h : Stacked ds opened) (hpos : ∀ d ∈ ds, 0 < d) (i : Nat) :
    i = ds.length ∨ i ∈ opened.map Prod.fst ↔ Encloses (ds ++ [opened.length + 1]) i ds.length := by
  have hold : ∀ {j}, j < ds.length → (ds ++ [opened.length + 1]).getD j 0 = ds.getD j 0 :=
    fun hj => List.getD_append _ _ _ _ hj
  have hnew : (ds ++ [opened.length + 1]).getD ds.length 0 = opened.length + 1 := by simp
  constructor
  · rintro (rfl | hmem)
    · exact ⟨Nat.le_refl _, fun j hj hj' => absurd hj (by omega)⟩
    · have hi := h.lt_length hmem
      refine ⟨Nat.le_of_lt hi, fun j hij hj => ?_⟩
      cases h with
      | nil => cases hmem
      | @cons k tag opened hopened hk hdepth hafter haround =>
        obtain ⟨hik, hdeeper⟩ := (haround i).1 hmem
        have hle : ds.getD i 0 ≤ opened.length + 1 := by
          rcases Nat.eq_or_lt_of_le hik with rfl | hlt
          · omega
          · have := hdeeper k hlt (Nat.le_refl k)
            omega
        rw [hold hi]
        by_cases hjn : j < ds.length
        · rw [hold hjn]
          by_cases hjk : j ≤ k
          · exact hdeeper j hij hjk
          · have := hafter j (by omega) hjn
            omega
        · obtain rfl : j = ds.length := by omega
          rw [hnew, List.length_cons]
          omega
  · rintro ⟨hin, hdeeper⟩
    rcases Nat.eq_or_lt_of_le hin with rfl | hi
    · exact .inl rfl
    right
    have hlast := hdeeper ds.length hi (Nat.le_refl _)
    rw [hold hi, hnew] at hlast
    cases h with
    | nil =>
      -- there are no elements of depth zero
      have hzero := hpos (ds.getD i 0) (by simp [hi])
      simp only [List.length_nil] at hlast
      omega
    | @cons k tag opened hopened hk hdepth hafter haround =>
      rw [List.length_cons] at hlast
      rw [haround]
      have hik : i ≤ k := by
        by_contra hki
        have := hafter i (by omega) hi
        omega
      refine ⟨hik, fun j hij hjk => ?_⟩
      have := hdeeper j hij (by omega)
      rwa [hold hi, hold (by omega)] at this

theorem opening (h : Stacked ds opened) (hpos : ∀ d ∈ ds, 0 < d) (tag : String) :
    Stacked (ds ++ [opened.length + 1]) ((ds.length, tag) :: opened) := by
  refine .cons (h.concat (Nat.lt_succ_self _)) (by simp) (by simp) ?_ ?_
  · intro i hi hi'
    simp at hi'
    omega
  · intro i
    rw [← h.encloses_new hpos i]
    simp

end Stacked

/-- What is open fits the depths of the steps so far. -/
theorem stacked_after (steps : List Step) : Stacked (depthsOf steps) (Progress.after steps).opened := by
  induction steps using List.reverseRecOn with
  | nil => exact .nil
  | append_singleton steps step ih =>
    rw [Progress.after_concat, depthsOf_concat]
    cases step with
    | opening tag attributes =>
      rw [Progress.next, count_after]
      by_cases htag : tag ∈ voidTags
      · rw [if_pos htag]
        exact ih.concat (Nat.lt_succ_self _)
      · rw [if_neg htag]
        exact ih.opening pos_of_mem_depthsOf tag
    | alone tag attributes => exact ih.concat (Nat.lt_succ_self _)
    | closing tag =>
      rw [Step.isElement, if_neg Bool.false_ne_true, List.append_nil, Progress.next, Progress.around?_eq]
      split
      · exact ih.drop _
      · exact ih
    | data s =>
      rw [Step.isElement, if_neg Bool.false_ne_true, List.append_nil]
      exact ih

/-- A moment is that of some step, after the steps before it. -/
theorem exists_of_mem_moments {steps : List Step} {m : Progress × Step} (hm : m ∈ moments steps) :
    ∃ before rest, steps = before ++ rest ∧ m.1 = .after before := by
  induction steps using List.reverseRecOn with
  | nil => cases hm
  | append_singleton steps step ih =>
    rw [moments_concat, List.mem_append, List.mem_singleton] at hm
    rcases hm with hm | rfl
    · obtain ⟨before, rest, rfl, hbefore⟩ := ih hm
      exact ⟨before, rest ++ [step], List.append_assoc .., hbefore⟩
    · exact ⟨steps, [step], rfl, rfl⟩

/-- The elements that are open at a moment are those that enclose the innermost one. -/
theorem mem_opened_iff {steps : List Step} {m : Progress × Step} (hm : m ∈ moments steps) {j : Nat}
    (hj : m.1.innermost = some j) (k : Nat) :
    j < (depthsOf steps).length ∧ (k ∈ m.1.opened.map Prod.fst ↔ Encloses (depthsOf steps) k j) := by
  obtain ⟨before, rest, rfl, hbefore⟩ := exists_of_mem_moments hm
  have hdepths : ∃ more, depthsOf (before ++ rest) = depthsOf before ++ more := by
    unfold depthsOf moments
    rw [momentsFrom_append, List.filter_append, List.map_append]
    exact ⟨_, rfl⟩
  obtain ⟨more, hmore⟩ := hdepths
  have hstacked := stacked_after before
  rw [Progress.innermost, hbefore] at hj
  rw [hbefore, hmore]
  generalize (Progress.after before).opened = opened at hj hstacked ⊢
  cases hstacked with
  | nil => cases hj
  | cons _ hlt _ _ haround =>
    cases hj
    refine ⟨by simp; omega, ?_⟩
    rw [haround, encloses_append more hlt]

end Overlay.Markup
