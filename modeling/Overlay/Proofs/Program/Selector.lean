/-
Selectors. A node is put into the element of its parent, and its selector is that of the parent with its own
internal id at the end. Where internal ids are identifiers the last one can be read off a selector, however
the root selector looks and however blanks were trimmed, so no two nodes of prepared trees share a selector.
-/
import Overlay.Program.Emit
import Overlay.Proofs.Element.Identifier

namespace Overlay

open Overlay.Tree Text

/-! ## Selectors of trees -/

/-- The selector that a node with an internal id has inside a scope. -/
def Node.address (n : Node) (scope : String) : String := trim (scope ++ " #" ++ n.internalId.getD "")

theorem Node.selector_eq {n : Node} (h : n.internalId.isSome) (scope : String) :
    n.selector scope = .ok (n.address scope) := by
  obtain ⟨id, hid⟩ := Option.isSome_iff_exists.1 h
  simp only [selector, address, hid, Option.getD_some]

namespace Store

/-- The scope into which a node is put: the selector of its parent, or the root selector. -/
def scope (s : Store) (setup : Setup) (selector : NodeId → String) (i : NodeId) : String :=
  ((s.node i).parent.map selector).getD setup.rootSelector

/-- Selectors of the nodes below some roots as their scopes make them. -/
def Selects (s : Store) (setup : Setup) (roots : List NodeId) (selector : NodeId → String) : Prop :=
  ∀ n ∈ s.walk roots, n.2.selector (s.scope setup selector n.1) = .ok (selector n.1)

end Store

namespace Tree

mutual

/-- The nodes of a tree inside a scope, in document order, with their selectors. -/
def selectors (scope : String) : Tree → List (NodeId × String)
  | node i n ts => (i, n.address scope) :: selectorsAll (n.address scope) ts

def selectorsAll (scope : String) : List Tree → List (NodeId × String)
  | [] => []
  | t :: ts => t.selectors scope ++ selectorsAll scope ts

end

mutual

theorem selectors_keys : ∀ (t : Tree) (scope : String), (t.selectors scope).map Prod.fst = t.flatten.map Prod.fst
  | node i n ts, scope => by simp only [selectors, flatten, List.map_cons, selectorsAll_keys ts]

theorem selectorsAll_keys : ∀ (ts : List Tree) (scope : String),
    (selectorsAll scope ts).map Prod.fst = (flattenAll ts).map Prod.fst
  | [], _ => rfl
  | t :: ts, scope => by
    simp only [selectorsAll, flattenAll, List.map_append, selectors_keys t, selectorsAll_keys ts]

end

theorem mem_selectorsAll {e : NodeId × String} {scope : String} {ts : List Tree} :
    e ∈ selectorsAll scope ts ↔ ∃ t ∈ ts, e ∈ t.selectors scope := by
  induction ts with
  | nil => simp [selectorsAll]
  | cons t ts ih => simp [selectorsAll, ih]

/-- Selectors that agree with those of an owned tree are made by the scopes of its nodes. -/
theorem Owned.selects {s : Store} {setup : Setup} {selector : NodeId → String} {lister : Option NodeId} {t : Tree}
    (h : t.Owned s lister) (hid : ∀ n ∈ t.flatten, n.2.internalId.isSome)
    (htable : ∀ e ∈ t.selectors ((lister.map selector).getD setup.rootSelector), selector e.1 = e.2) :
    ∀ n ∈ t.flatten, n.2.selector (s.scope setup selector n.1) = .ok (selector n.1) := by
  induction h with
  | @node lister i ts parent _ _ ih =>
    rw [selectors] at htable
    have hi : selector i = (s.node i).address ((lister.map selector).getD setup.rootSelector) :=
      htable _ (List.mem_cons_self ..)
    intro m hm
    rcases mem_flatten_node.1 hm with rfl | ⟨t, ht, hm⟩
    · rw [Node.selector_eq (hid _ (mem_flatten_node.2 (.inl rfl))), hi, Store.scope, parent]
    · refine ih t ht (fun n hn => hid n (mem_flatten_node.2 (.inr ⟨t, ht, hn⟩))) (fun e he => ?_) m hm
      -- the subtrees are in the scope of the node's own selector
      refine htable e (List.mem_cons_of_mem _ (mem_selectorsAll.2 ⟨t, ht, ?_⟩))
      rw [← hi]
      exact he

end Tree

namespace Store.Prepared

variable {s : Store} {roots : List NodeId}

/-- No node of prepared trees is listed twice in their walk. -/
theorem nodup_walk (h : s.Prepared roots) : ((s.walk roots).map Prod.fst).Nodup := by
  refine List.Nodup.of_map (fun i => (s.node i).internalId) ?_
  have hsame : ((s.walk roots).map Prod.fst).map (fun i => (s.node i).internalId) =
      (s.walk roots).map (·.2.internalId) := by
    rw [List.map_map]
    exact List.map_congr_left fun n hn => congrArg Node.internalId (s.walk_content roots n hn).symm
  rw [hsame]
  exact h.internalIds

/-- The nodes of prepared trees have selectors, whatever the root selector. -/
theorem exists_selects (h : s.Prepared roots) (ho : ∀ t ∈ s.forest roots, t.Owned s none) (setup : Setup) :
    ∃ selector, s.Selects setup roots selector := by
  have hkeys : ((selectorsAll setup.rootSelector (s.forest roots)).map Prod.fst).Nodup := by
    rw [selectorsAll_keys]
    exact h.nodup_walk
  refine ⟨fun i => ((selectorsAll setup.rootSelector (s.forest roots)).lookup i).getD "", fun n hn => ?_⟩
  obtain ⟨t, ht, hnt⟩ := mem_flattenAll.1 hn
  refine (ho t ht).selects (fun m hm => h.identified m (mem_flattenAll.2 ⟨t, ht, hm⟩)) (fun e he => ?_) n hnt
  rw [lookup_of_mem hkeys (mem_selectorsAll.2 ⟨t, ht, he⟩)]
  rfl

end Store.Prepared

/-! ## Reading an id off a selector -/

theorem dropWhile_mark {p : Char → Bool} {mark : Char} (hmark : p mark = false) (cs : List Char) : ∀ front : List Char,
    ∃ front', (front ++ mark :: cs).dropWhile p = front' ++ mark :: cs
  | [] => ⟨[], by simp [hmark]⟩
  | c :: front => by
    by_cases hc : p c = true
    · obtain ⟨front', h⟩ := dropWhile_mark hmark cs front
      exact ⟨front', by rw [List.cons_append, List.dropWhile_cons_of_pos hc, h]⟩
    · exact ⟨c :: front, by rw [List.cons_append, List.dropWhile_cons_of_neg hc]⟩

/-- Trimming leaves a mark and an identifier after it as they are. -/
theorem trimChars_mark {cs : List Char} (h : isIdentifier cs) (front : List Char) :
    ∃ front', trimChars (front ++ '#' :: cs) = front' ++ '#' :: cs := by
  obtain ⟨front', hfront⟩ := dropWhile_mark (show isBlank '#' = false by decide) cs front
  refine ⟨front', ?_⟩
  unfold trimChars dropEndWhile
  rw [hfront]
  -- the last character is one of the identifier, so nothing is dropped at the end
  have hne : cs.reverse ≠ [] := by
    intro hnil
    rw [List.reverse_eq_nil_iff] at hnil
    rw [hnil] at h
    cases h
  obtain ⟨c, rest, hc⟩ := List.exists_cons_of_ne_nil hne
  have hplain : isBlank c = false :=
    (plain_of_mem_identifier h (List.mem_reverse.1 (hc ▸ List.mem_cons_self ..))).2
  have hkeep : (front' ++ '#' :: cs).reverse.dropWhile isBlank = (front' ++ '#' :: cs).reverse := by
    rw [List.reverse_append, List.reverse_cons, hc]
    simp [hplain]
  rw [hkeep, List.reverse_reverse]

/-- The identifier at the end of a selector. -/
theorem last_of_selector {n : Node} {scope selector id : String} (h : n.selector scope = .ok selector)
    (hid : n.internalId = some id) (hplain : isIdentifier id.toList) :
    selector.toList.reverse.takeWhile (· ≠ '#') = id.toList.reverse := by
  rw [Node.selector_eq (by rw [hid]; rfl)] at h
  cases h
  obtain ⟨front, hfront⟩ := trimChars_mark hplain (scope.toList ++ [' '])
  have hmarks : ∀ c ∈ id.toList.reverse, decide (c ≠ '#') = true := fun c hc =>
    decide_eq_true (plain_of_mem_identifier hplain (List.mem_reverse.1 hc)).1
  have hchars : (n.address scope).toList = front ++ '#' :: id.toList := by
    rw [← hfront]
    simp [Node.address, trim, hid]
  rw [hchars, List.reverse_append, List.reverse_cons, List.append_assoc, List.takeWhile_append_of_pos hmarks]
  simp

/-- Distinct nodes of prepared trees have distinct selectors where internal ids are identifiers. -/
theorem Store.Prepared.selector_inj {s : Store} {roots : List NodeId} (h : s.Prepared roots)
    (hplain : ∀ n ∈ s.walk roots, ∀ id, n.2.internalId = some id → isIdentifier id.toList) {setup : Setup}
    {selector : NodeId → String} (hs : s.Selects setup roots selector) {n m : NodeId × Node} (hn : n ∈ s.walk roots)
    (hm : m ∈ s.walk roots) (he : selector n.1 = selector m.1) : n = m := by
  obtain ⟨id, hid⟩ := Option.isSome_iff_exists.1 (h.identified n hn)
  obtain ⟨id', hid'⟩ := Option.isSome_iff_exists.1 (h.identified m hm)
  have hlast := last_of_selector (hs n hn) hid (hplain n hn id hid)
  have hlast' := last_of_selector (hs m hm) hid' (hplain m hm id' hid')
  rw [he, hlast', List.reverse_inj, String.toList_inj] at hlast
  subst hlast
  exact List.inj_on_of_nodup_map h.internalIds hn hm (hid.trans hid'.symm)

end Overlay
