/-
Entries of bags: where they come from when they are written one after another, and in which order they stand.
-/
import Overlay.Bag
import Mathlib.Data.List.Induction
import Mathlib.Data.List.Nodup

namespace Overlay

namespace Bag

variable {κ α β : Type} {b : Bag κ α}

/-! ## The order of entries -/

/-- Entries before an entry. -/
theorem pair_sublist_left {e e' : κ × α} {es fs : List (κ × α)} (h : b.entries = es ++ e :: fs) :
    [e', e].Sublist b.entries ↔ e' ∈ es := by
  have hnotin : e ∉ fs := by
    have hnd : (es ++ e :: fs).Nodup := h ▸ b.distinct.of_map Prod.fst
    rw [List.nodup_middle, List.nodup_cons, List.mem_append, not_or] at hnd
    exact hnd.1.2
  rw [h, List.cons_sublist_iff]
  constructor
  · rintro ⟨r₁, r₂, hsplit, he', hrest⟩
    rw [List.singleton_sublist] at hrest
    rcases List.append_eq_append_iff.1 hsplit with ⟨mid, rfl, hmid⟩ | ⟨mid, rfl, -⟩
    · rcases mid with _ | ⟨m, mid⟩
      · rwa [List.append_nil] at he'
      · cases hmid
        exact absurd (List.mem_append_right mid hrest) hnotin
    · exact List.mem_append_left mid he'
  · intro he'
    exact ⟨es, e :: fs, rfl, he', List.singleton_sublist.2 (List.mem_cons_self ..)⟩

/-- Entries after an entry. -/
theorem pair_sublist_right {e e' : κ × α} {es fs : List (κ × α)} (h : b.entries = es ++ e :: fs) :
    [e, e'].Sublist b.entries ↔ e' ∈ fs := by
  let reversed : Bag κ α := ⟨b.entries.reverse, by rw [List.map_reverse]; exact List.nodup_reverse.2 b.distinct⟩
  have hreversed : reversed.entries = fs.reverse ++ e :: es.reverse := by
    show b.entries.reverse = _
    rw [h]
    simp
  rw [← List.reverse_sublist, ← List.mem_reverse]
  exact pair_sublist_left hreversed

variable [DecidableEq κ]

/-! ## One entry -/

/-- An entry under a new key goes to the end. -/
theorem entries_put {k : κ} (h : k ∉ b.keys) (v : α) : (b.put k v).entries = b.entries ++ [(k, v)] := by
  have hentries : ∀ {es : List (κ × α)}, k ∉ es.map Prod.fst → putEntry k v es = es ++ [(k, v)] := by
    intro es h
    induction es with
    | nil => rfl
    | cons a es ih =>
      rw [List.map_cons, List.mem_cons, not_or] at h
      rw [putEntry, if_neg fun hk => h.1 hk.symm, ih h.2]
      rfl
  exact hentries h

/-- An entry is what is found under its key. -/
theorem get?_of_mem {e : κ × α} (he : e ∈ b.entries) : b.get? e.1 = some e.2 := by
  unfold get?
  rcases hf : b.entries.find? (·.1 = e.1) with _ | e'
  · have hnone := List.find?_eq_none.1 hf e he
    simp at hnone
  · have hkey : e'.1 = e.1 := by simpa using List.find?_some hf
    rw [hf, List.inj_on_of_nodup_map b.distinct (List.mem_of_find?_eq_some hf) he hkey]
    rfl

theorem mem_iff_get? {e : κ × α} : e ∈ b.entries ↔ b.get? e.1 = some e.2 := by
  refine ⟨get?_of_mem, fun h => ?_⟩
  obtain ⟨e', he', hvalue⟩ := Option.map_eq_some_iff.1 h
  have hkey : e'.1 = e.1 := by simpa using List.find?_some he'
  obtain rfl : e' = e := Prod.ext hkey hvalue
  exact List.mem_of_find?_eq_some he'

theorem entries_eq_filterMap (b : Bag κ α) : b.entries = b.keys.filterMap fun k => (b.get? k).map (k, ·) := by
  unfold keys
  rw [List.filterMap_map, List.filterMap_congr (g := some) fun e he => ?_, List.filterMap_some]
  show (b.get? e.1).map (e.1, ·) = some e
  rw [get?_of_mem he]
  rfl

/-- A bag is told by its keys in their order and by the values under them. -/
theorem eq_of_get? {b b' : Bag κ α} (hkeys : b.keys = b'.keys) (hget : ∀ k, b.get? k = b'.get? k) : b = b' := by
  have hentries : b.entries = b'.entries := by
    rw [entries_eq_filterMap, entries_eq_filterMap b', hkeys]
    exact List.filterMap_congr fun k _ => by rw [hget]
  cases b
  cases b'
  cases hentries
  rfl

/-- An erased entry is missing between those before and those after it. -/
theorem entries_erase {e : κ × α} {es fs : List (κ × α)} (h : b.entries = es ++ e :: fs) :
    (b.erase e.1).entries = es ++ fs := by
  have hdistinct := b.distinct
  rw [h, List.map_append, List.map_cons, List.nodup_middle, List.nodup_cons, List.mem_append, not_or] at hdistinct
  have hkeep : ∀ {l : List (κ × α)}, e.1 ∉ l.map Prod.fst → l.filter (·.1 ≠ e.1) = l := fun hl =>
    List.filter_eq_self.2 fun x hx => decide_eq_true fun hxe => hl (hxe ▸ List.mem_map_of_mem hx)
  show b.entries.filter (·.1 ≠ e.1) = es ++ fs
  rw [h, List.filter_append, List.filter_cons_of_neg (by simp), hkeep hdistinct.1.1, hkeep hdistinct.1.2]

/-! ## Several entries -/

/-- Entries under new and distinct keys go to the end. -/
theorem entries_putAll : ∀ {es : List (κ × α)} {b : Bag κ α}, (es.map Prod.fst).Nodup →
    (∀ e ∈ es, e.1 ∉ b.keys) → (b.putAll es).entries = b.entries ++ es
  | [], b, _, _ => (List.append_nil _).symm
  | e :: es, b, hnd, hnew => by
    obtain ⟨he, hnd⟩ := List.nodup_cons.1 hnd
    have hfirst := hnew e (List.mem_cons_self ..)
    show ((b.put e.1 e.2).putAll es).entries = _
    rw [entries_putAll hnd, entries_put hfirst, List.append_assoc]
    · rfl
    · intro a ha hmem
      rw [keys_put, if_neg hfirst, List.mem_append, List.mem_singleton] at hmem
      rcases hmem with hmem | hmem
      · exact hnew a (List.mem_cons_of_mem _ ha) hmem
      · exact he (hmem ▸ List.mem_map_of_mem ha)

theorem ofList_concat (es : List (κ × α)) (e : κ × α) : ofList (es ++ [e]) = (ofList es).put e.1 e.2 :=
  putAll_append empty es [e]

/-- Entries under distinct keys stand as they are. -/
theorem entries_ofList {es : List (κ × α)} (h : (es.map Prod.fst).Nodup) : (ofList es).entries = es := by
  rw [ofList, entries_putAll h fun _ _ => List.not_mem_nil]
  rfl

theorem ofList_entries (b : Bag κ α) : ofList b.entries = b := by
  have hentries := entries_ofList b.distinct
  rcases b with ⟨es, hes⟩
  rcases h : ofList es with ⟨es', hes'⟩
  rw [h] at hentries
  obtain rfl : es' = es := hentries
  rfl

/-- The keys that were there keep their order, and new ones follow in the order in which they first came. -/
theorem keys_putAll (b : Bag κ α) (es : List (κ × α)) :
    (b.putAll es).keys = b.keys ++ (es.map Prod.fst).eraseDups.filter (· ∉ b.keys) := by
  induction es using List.reverseRecOn with
  | nil => exact (List.append_nil _).symm
  | append_singleton es e ih =>
    have hmem := mem_keys_putAll (k := e.1) es b
    rw [putAll_append, List.map_append, List.map_singleton, List.eraseDups_append, List.filter_append,
      ← List.append_assoc, ← ih]
    show ((b.putAll es).put e.1 e.2).keys = _
    rw [keys_put]
    by_cases hes : e.1 ∈ es.map Prod.fst
    · rw [if_pos (hmem.2 (.inr hes))]
      simp [List.removeAll, hes]
    · by_cases hb : e.1 ∈ b.keys
      · rw [if_pos (hmem.2 (.inl hb))]
        simp [List.removeAll, hes, List.eraseDups_cons, hb]
      · rw [if_neg fun h => (hmem.1 h).elim hb hes]
        simp [List.removeAll, hes, List.eraseDups_cons, hb]

/-- Keys stand in the order in which they first came. -/
theorem keys_ofList (es : List (κ × α)) : (ofList es).keys = (es.map Prod.fst).eraseDups := by
  have hnew : ∀ k, k ∉ (empty : Bag κ α).keys := fun _ => List.not_mem_nil
  rw [ofList, keys_putAll, List.filter_eq_self.2 fun k _ => decide_eq_true (hnew k)]
  rfl

theorem get?_ofList (es : List (κ × α)) (k : κ) : (ofList es).get? k = (es.reverse.find? (·.1 = k)).map Prod.snd := by
  rw [ofList, get?_putAll]
  exact Option.or_none

/-- An entry is what was written last under its key. -/
theorem mem_ofList_iff {es : List (κ × α)} {e : κ × α} :
    e ∈ (ofList es).entries ↔ ∃ l₁ l₂, es = l₁ ++ e :: l₂ ∧ ∀ x ∈ l₂, x.1 ≠ e.1 := by
  rw [mem_iff_get?, get?_ofList]
  constructor
  · intro h
    obtain ⟨e', he', hvalue⟩ := Option.map_eq_some_iff.1 h
    obtain ⟨hkey, later, earlier, hsplit, hlater⟩ := List.find?_eq_some_iff_append.1 he'
    obtain rfl : e' = e := Prod.ext (by simpa using hkey) hvalue
    refine ⟨earlier.reverse, later.reverse, ?_, fun x hx => by simpa using hlater x (List.mem_reverse.1 hx)⟩
    rw [← List.reverse_reverse es, hsplit]
    simp
  · rintro ⟨l₁, l₂, rfl, hlater⟩
    have hfind : (l₁ ++ e :: l₂).reverse.find? (·.1 = e.1) = some e := by
      rw [List.find?_eq_some_iff_append]
      exact ⟨by simp, l₂.reverse, l₁.reverse, by simp, fun x hx => by simpa using hlater x (List.mem_reverse.1 hx)⟩
    rw [hfind]
    rfl

/-- What a bag holds was written. -/
theorem mem_of_mem_ofList {es : List (κ × α)} {e : κ × α} (h : e ∈ (ofList es).entries) : e ∈ es := by
  obtain ⟨l₁, l₂, rfl, -⟩ := mem_ofList_iff.1 h
  exact List.mem_append_right l₁ (List.mem_cons_self ..)

/-- The entries under some of the keys are those that were written under these keys. -/
theorem filter_ofList (p : κ → Bool) (es : List (κ × α)) :
    ((ofList es).entries.filter fun e => p e.1) = (ofList (es.filter fun e => p e.1)).entries := by
  have hput : ∀ (k : κ) (v : α) (es : List (κ × α)), ((putEntry k v es).filter fun e => p e.1) =
      if p k then putEntry k v (es.filter fun e => p e.1) else es.filter fun e => p e.1 := by
    intro k v es
    induction es with
    | nil => simp [putEntry, List.filter_cons]
    | cons a es ih =>
      by_cases ha : a.1 = k
      · subst ha
        by_cases hp : p a.1 <;> simp [putEntry, hp]
      · rw [putEntry, if_neg ha, List.filter_cons, List.filter_cons, ih]
        by_cases hp : p a.1 <;> by_cases hk : p k
        · simp [hp, hk, ha, putEntry]
        all_goals simp [hp, hk]
  induction es using List.reverseRecOn with
  | nil => rfl
  | append_singleton es e ih =>
    have hlast : ((ofList (es ++ [e])).entries.filter fun e => p e.1) =
        (putEntry e.1 e.2 (ofList es).entries).filter fun e => p e.1 := by
      rw [ofList_concat]
      rfl
    rw [hlast, hput, ih, List.filter_append, List.filter_singleton]
    rcases p e.1 with _ | _
    · exact congrArg (fun es => (ofList es).entries) (List.append_nil _).symm
    · exact congrArg entries (ofList_concat _ e).symm

/-- Of entries under one key the last is left. -/
theorem entries_ofList_of_key {k : κ} {es : List (κ × α)} (h : ∀ e ∈ es, e.1 = k) :
    (ofList es).entries = es.getLast?.toList := by
  induction es using List.reverseRecOn with
  | nil => rfl
  | append_singleton es e ih =>
    rw [ofList_concat, List.getLast?_concat]
    show putEntry e.1 e.2 (ofList es).entries = [e]
    rw [ih fun x hx => h x (List.mem_append_left _ hx)]
    rcases hl : es.getLast? with _ | x
    · rfl
    · have hx : x.1 = e.1 := (h x (List.mem_append_left _ (List.mem_of_getLast? hl))).trans (h e (by simp)).symm
      simp [putEntry, hx]

/-- Entries with other values stand in the same order. -/
theorem entries_ofList_map (g : α → β) (es : List (κ × α)) :
    (ofList (es.map fun e => (e.1, g e.2))).entries = (ofList es).entries.map fun e => (e.1, g e.2) := by
  have hput : ∀ (k : κ) (v : α) (es : List (κ × α)), putEntry k (g v) (es.map fun e => (e.1, g e.2)) =
      (putEntry k v es).map fun e => (e.1, g e.2) := by
    intro k v es
    induction es with
    | nil => rfl
    | cons a es ih =>
      simp only [putEntry, List.map_cons]
      by_cases ha : a.1 = k
      · simp [ha]
      · simp [ha, ih]
  induction es using List.reverseRecOn with
  | nil => rfl
  | append_singleton es e ih =>
    rw [List.map_append, List.map_singleton, ofList_concat, ofList_concat]
    show putEntry e.1 (g e.2) _ = (putEntry e.1 e.2 _).map _
    rw [ih, hput]

/-! ## Updates -/

/-- Entry by entry updated, a bag keeps its keys in their places, and the new ones follow. -/
theorem keys_update (b c : Bag κ α) : (b.putAll c.entries).keys = b.keys ++ c.keys.filter (· ∉ b.keys) := by
  have hkeys : (c.entries.map Prod.fst).eraseDups = c.keys := by rw [← keys_ofList, ofList_entries]
  rw [keys_putAll, hkeys]

theorem get?_update (b c : Bag κ α) (k : κ) : (b.putAll c.entries).get? k = (c.get? k).or (b.get? k) := by
  rw [get?_putAll, ← get?_ofList, ofList_entries]

/-- Writing entries one after another is an update with the bag of them. -/
theorem update_ofList (b : Bag κ α) (es : List (κ × α)) : b.putAll (ofList es).entries = b.putAll es :=
  eq_of_get? (by rw [keys_update, keys_ofList, keys_putAll]) fun k => by rw [get?_update, get?_ofList, get?_putAll]

theorem ofList_append (es fs : List (κ × α)) : ofList (es ++ fs) = (ofList es).putAll (ofList fs).entries := by
  rw [update_ofList]
  exact putAll_append empty es fs

end Bag

end Overlay
