/-
Isomorphic trees. Ids of nodes are only names: what lies below some roots may be renamed node by node, in
another store or within one, and a preparation accepts it or refuses it alike, gives corresponding nodes
the same internal ids, and leaves isomorphic trees.
-/
import Overlay.Proofs.Element.Ownership

namespace Overlay

/-! ## Nodes that match -/

/-- A node without the nodes that it names, the names of its lists, its seal and what client code put on it. -/
def Node.plain (n : Node) : Node :=
  { n with
    children := [], listeners := [], before := [], after := [], lists := {}, parent := none, isSealed := false }

/-- Nodes with the same fields, which listen for the same events and whose hooks add the same. -/
structure Node.Matches (n m : Node) : Prop where
  plain : m.plain = n.plain
  events : m.listeners.map (·.event) = n.listeners.map (·.event)
  before : m.before.map Hook.run = n.before.map Hook.run
  after : m.after.map Hook.run = n.after.map Hook.run

namespace Node.Matches

variable {n m n' m' : Node}

/-- What can be read off the plain fields is the same. -/
theorem of_plain (h : n.Matches m) {α : Type} {f : Node → α} (hf : ∀ n : Node, f n.plain = f n) : f m = f n := by
  rw [← hf m, h.plain, hf]

theorem kind (h : n.Matches m) : m.kind = n.kind := h.of_plain (f := Node.kind) fun _ => rfl

theorem userId (h : n.Matches m) : m.userId = n.userId := h.of_plain (f := Node.userId) fun _ => rfl

theorem internalId (h : n.Matches m) : m.internalId = n.internalId := h.of_plain (f := Node.internalId) fun _ => rfl

theorem label (h : n.Matches m) : m.label = n.label := h.of_plain (f := Node.label) fun _ => rfl

/-- Nodes that match still do when both are filled in with one internal id. -/
theorem filledIn (h : n.Matches m) (hn : n.FilledIn n') (hm : m.FilledIn m') (hid : m'.internalId = n'.internalId) :
    n'.Matches m' := by
  have hplain : ∀ {a b : Node}, a.FilledIn b → b.plain = { a.plain with internalId := b.internalId } := by
    intro a b hab
    rw [hab.rest]
    rfl
  constructor
  · rw [hplain hm, hplain hn, h.plain, hid]
  · rw [hm.rest, hn.rest]
    exact h.events
  · rw [hm.rest, hn.rest]
    exact h.before
  · rw [hm.rest, hn.rest]
    exact h.after

end Node.Matches

/-! ## Isomorphic trees -/

/-- A renaming of the nodes below some roots into those below others: one name for each node, the roots and
the children in the same order, the same parents as far as these are below the roots, and nodes that match. -/
structure Store.Isomorphic (s t : Store) (roots roots' : List NodeId) (σ : NodeId → NodeId) : Prop where
  top : roots' = roots.map σ
  injective : ∀ i j, s.Reached roots i → s.Reached roots j → σ i = σ j → i = j
  children : ∀ i, s.Reached roots i → (t.node (σ i)).children = (s.node i).children.map σ
  orphan : ∀ i, s.Reached roots i → ((t.node (σ i)).parent = none ↔ (s.node i).parent = none)
  parent : ∀ i j, s.Reached roots i → s.Reached roots j →
    ((t.node (σ i)).parent = some (σ j) ↔ (s.node i).parent = some j)
  alike : ∀ i, s.Reached roots i → (s.node i).Matches (t.node (σ i))

/-- A node under another name, with its lister. -/
def renamed (σ : NodeId → NodeId) (e : NodeId × Option NodeId) : NodeId × Option NodeId := (σ e.1, e.2.map σ)

namespace Store

variable {s t : Store} {roots roots' : List NodeId} {σ : NodeId → NodeId}

theorem At.reached_lister {place : List Nat} {p i : NodeId} (h : s.At roots place (some p) i) : s.Reached roots p := by
  cases h with
  | child above _ => exact ⟨_, _, above⟩

namespace Isomorphic

/-- What is at a place has its counterpart at the same place. -/
theorem at_renamed (h : s.Isomorphic t roots roots' σ) {place : List Nat} {lister : Option NodeId} {i : NodeId}
    (hp : s.At roots place lister i) : t.At roots' place (lister.map σ) (σ i) := by
  induction hp with
  | root hi =>
    refine .root ?_
    rw [h.top, List.getElem?_map, hi]
    rfl
  | @child place lister i c k above hc ih =>
    refine .child ih ?_
    rw [h.children i ⟨_, _, above⟩, List.getElem?_map, hc]
    rfl

/-- A node has a foreign parent exactly if its counterpart has. -/
theorem foreign_iff (h : s.Isomorphic t roots roots' σ) {place : List Nat} {lister : Option NodeId} {i : NodeId}
    (hp : s.At roots place lister i) :
    ((t.node (σ i)).parent.isSome ∧ (t.node (σ i)).parent ≠ lister.map σ) ↔
      ((s.node i).parent.isSome ∧ (s.node i).parent ≠ lister) := by
  have hi : s.Reached roots i := ⟨_, _, hp⟩
  have horphan := not_congr (h.orphan i hi)
  rw [Option.isSome_iff_ne_none, Option.isSome_iff_ne_none]
  cases lister with
  | none => exact and_congr horphan horphan
  | some p => exact and_congr horphan (not_congr (h.parent i p hi hp.reached_lister))

theorem not_mem_renamed (h : s.Isomorphic t roots roots' σ) {seen : List NodeId} (hseen : ∀ j ∈ seen, s.Reached roots j)
    {i : NodeId} (hi : s.Reached roots i) (hnot : i ∉ seen) : σ i ∉ seen.map σ := by
  intro hmem
  obtain ⟨j, hj, hij⟩ := List.mem_map.1 hmem
  rw [h.injective j i (hseen j hj) hi hij] at hj
  exact hnot hj

/-- The search visits counterparts in the same order, and gives up at the same node for the same reason. -/
theorem collect (h : s.Isomorphic t roots roots' σ) {todo : List (NodeId × Option NodeId)} {seen : List NodeId}
    (htodo : ∀ e ∈ todo, ∃ place, s.At roots place e.2 e.1) (hseen : ∀ i ∈ seen, s.Reached roots i) :
    collect t (todo.map (renamed σ)) (seen.map σ) = (collect s todo seen).map (List.map σ) := by
  induction todo, seen using Overlay.collect.induct s with
  | case1 seen =>
    rw [List.map_nil, Overlay.collect, Overlay.collect, ← List.map_reverse]
    rfl
  | case2 i lister todo seen hi =>
    obtain ⟨place, hp⟩ := htodo _ (List.mem_cons_self ..)
    rw [List.map_cons, renamed, Overlay.collect, if_pos (List.mem_map_of_mem hi), Overlay.collect, if_pos hi,
      (h.alike i ⟨_, _, hp⟩).label]
    rfl
  | case3 i lister todo seen hi hforeign =>
    obtain ⟨place, hp⟩ := htodo _ (List.mem_cons_self ..)
    have hnot := h.not_mem_renamed hseen ⟨_, _, hp⟩ hi
    rw [List.map_cons, renamed, Overlay.collect, if_neg hnot, if_pos ((h.foreign_iff hp).2 hforeign), Overlay.collect,
      if_neg hi, if_pos hforeign, (h.alike i ⟨_, _, hp⟩).label]
    rfl
  | case4 i lister todo seen hi howned ih =>
    obtain ⟨place, hp⟩ := htodo _ (List.mem_cons_self ..)
    have hnot := h.not_mem_renamed hseen ⟨_, _, hp⟩ hi
    have hlistings : (t.node (σ i)).children.map (·, some (σ i)) ++ todo.map (renamed σ) =
        ((s.node i).children.map (·, some i) ++ todo).map (renamed σ) := by
      rw [h.children i ⟨_, _, hp⟩, List.map_append, List.map_map, List.map_map]
      rfl
    rw [List.map_cons, renamed, Overlay.collect, if_neg hnot, if_neg fun hf => howned ((h.foreign_iff hp).1 hf),
      Overlay.collect, if_neg hi, if_neg howned, hlistings, ← List.map_cons]
    refine ih (fun e he => ?_) fun j hj => ?_
    · rcases List.mem_append.1 he with he | he
      · obtain ⟨c, hc, rfl⟩ := List.mem_map.1 he
        obtain ⟨k, hk⟩ := List.getElem?_of_mem hc
        exact ⟨_, .child hp hk⟩
      · exact htodo e (List.mem_cons_of_mem _ he)
    · rcases List.mem_cons.1 hj with rfl | hj
      · exact ⟨_, _, hp⟩
      · exact hseen j hj

end Isomorphic

end Store

/-! ## Ids of nodes under other names -/

section Renamed

variable {σ : NodeId → NodeId} {other : NodeId × Node → Node}

/-- The checks look at ids alone. -/
theorem checkIds_matches : ∀ {ns : List (NodeId × Node)} (users taken : List String),
    (∀ n ∈ ns, n.2.Matches (other n)) → checkIds (ns.map other) users taken = checkIds (ns.map Prod.snd) users taken
  | [], _, _, _ => rfl
  | n :: ns, users, taken, h => by
    have hn := h n (List.mem_cons_self ..)
    have hbelow : ∀ m ∈ ns, m.2.Matches (other m) := fun m hm => h m (List.mem_cons_of_mem _ hm)
    have hrest := fun users taken => checkIds_matches users taken hbelow
    rw [List.map_cons, List.map_cons, checkIds_cons, checkIds_cons, hn.userId, hn.internalId, hrest]

/-- Claims are made by corresponding nodes. -/
theorem claimIds_renamed : ∀ {ns : List (NodeId × Node)} (taken : List String), (∀ n ∈ ns, n.2.Matches (other n)) →
    claimIds (ns.map fun n => (σ n.1, other n)) taken =
      ((claimIds ns taken).1.map (Prod.map σ id), (claimIds ns taken).2)
  | [], _, _ => rfl
  | n :: ns, taken, h => by
    have hn := h n (List.mem_cons_self ..)
    have hbelow : ∀ m ∈ ns, m.2.Matches (other m) := fun m hm => h m (List.mem_cons_of_mem _ hm)
    have hrest := fun taken => claimIds_renamed taken hbelow
    obtain ⟨i, n⟩ := n
    dsimp only at hn
    rw [List.map_cons, claimIds, claimIds, hn.internalId, hn.userId]
    rcases n.internalId with _ | internal
    · rcases n.userId with _ | user
      · exact hrest taken
      · by_cases hfree : (isSafeId user && user ∉ taken) = true
        · simp only [if_pos hfree, hrest]
          rfl
        · simp only [if_neg hfree, hrest]
    · exact hrest taken

/-- Only nodes that are listed make claims. -/
theorem mem_of_claimIds : ∀ {ns : List (NodeId × Node)} {taken : List String},
    ∀ c ∈ (claimIds ns taken).1, c.1 ∈ ns.map Prod.fst
  | [], _, c, hc => by cases hc
  | (i, n) :: ns, taken, c, hc => by
    have hrest : ∀ {taken : List String}, c ∈ (claimIds ns taken).1 → c.1 ∈ i :: ns.map Prod.fst := fun h =>
      List.mem_cons_of_mem _ (mem_of_claimIds c h)
    rw [claimIds] at hc
    split at hc
    · split at hc
      · rcases List.mem_cons.1 hc with rfl | hc
        · exact List.mem_cons_self ..
        · exact hrest hc
      · exact hrest hc
    · exact hrest hc

/-- A renaming that tells the keys from a node finds under its new name what the old one has. -/
theorem lookup_renamed {α : Type} {i : NodeId} : ∀ {l : List (NodeId × α)}, (∀ c ∈ l, σ c.1 = σ i → c.1 = i) →
    (l.map (Prod.map σ id)).lookup (σ i) = l.lookup i
  | [], _ => rfl
  | (j, a) :: l, h => by
    have hrest := lookup_renamed (l := l) fun c hc => h c (List.mem_cons_of_mem _ hc)
    rw [List.map_cons, Prod.map_apply, List.lookup_cons, List.lookup_cons, hrest]
    by_cases hij : i = j
    · subst hij
      simp
    · have hold : (i == j) = false := by simpa using hij
      have hnew : (σ i == σ j) = false := by
        simpa using fun he : σ i = σ j => hij (h (j, a) (List.mem_cons_self ..) he.symm).symm
      simp only [hold, hnew]

/-- Corresponding nodes get the same ids. -/
theorem assignIds_renamed {claims : List (NodeId × String)} : ∀ {ns : List (NodeId × Node)} (last : Nat)
    (taken : List String), (∀ n ∈ ns, n.2.Matches (other n)) → (∀ c ∈ claims, ∀ n ∈ ns, σ c.1 = σ n.1 → c.1 = n.1) →
    assignIds (claims.map (Prod.map σ id)) (ns.map fun n => (σ n.1, other n)) last taken =
      (assignIds claims ns last taken).map (Prod.map σ id)
  | [], _, _, _, _ => rfl
  | n :: ns, last, taken, h, hσ => by
    have hn := h n (List.mem_cons_self ..)
    have hbelow : ∀ m ∈ ns, m.2.Matches (other m) := fun m hm => h m (List.mem_cons_of_mem _ hm)
    have hrest := fun last taken => assignIds_renamed last taken hbelow fun c hc m hm =>
      hσ c hc m (List.mem_cons_of_mem _ hm)
    have hlookup := lookup_renamed fun c hc => hσ c hc n (List.mem_cons_self ..)
    obtain ⟨i, n⟩ := n
    dsimp only at hn hlookup
    rw [List.map_cons, assignIds, assignIds, hn.internalId, hn.kind, hlookup]
    split
    · exact hrest last taken
    · rcases claims.lookup i with _ | id
      · simp only [hrest]
        rfl
      · simp only [hrest]
        rfl

theorem newIds_renamed {ns : List (NodeId × Node)} (preset : List String) (h : ∀ n ∈ ns, n.2.Matches (other n))
    (hσ : ∀ i ∈ ns.map Prod.fst, ∀ j ∈ ns.map Prod.fst, σ i = σ j → i = j) :
    newIds (ns.map fun n => (σ n.1, other n)) preset = (newIds ns preset).map (Prod.map σ id) := by
  unfold newIds
  rw [claimIds_renamed preset h]
  exact assignIds_renamed 0 _ h fun c hc n hn => hσ c.1 (mem_of_claimIds c hc) n.1 (List.mem_map_of_mem hn)

end Renamed

/-! ## Preparations -/

namespace Store.Isomorphic

variable {s t s' t' : Store} {roots roots' : List NodeId} {σ : NodeId → NodeId}

theorem listed_renamed (σ : NodeId → NodeId) (s t : Store) (ids : List NodeId) :
    t.listed (ids.map σ) = (s.listed ids).map fun n => (σ n.1, t.node (σ n.1)) := by
  simp [Store.listed, Function.comp_def]

/-- Isomorphic trees are still so once both are prepared, if corresponding nodes have the same ids. -/
theorem prepared (h : s.Isomorphic t roots roots' σ) (hs : s.Closed) (ht : t.Closed) (hr : ∀ i ∈ roots, i < s.size)
    (hr' : ∀ i ∈ roots', i < t.size) (hok : (prepare roots).run s = (.ok (), s'))
    (hok' : (prepare roots').run t = (.ok (), t'))
    (hid : ∀ i, s.Reached roots i → (t'.node (σ i)).internalId = (s'.node i).internalId) :
    s'.Isomorphic t' roots roots' σ := by
  have hfill := filledIn_prepare roots s
  have hfill' := filledIn_prepare roots' t
  rw [hok] at hfill
  rw [hok'] at hfill'
  obtain ⟨-, hparent⟩ := parent_of_prepare hs hr hok
  obtain ⟨-, hparent'⟩ := parent_of_prepare ht hr' hok'
  have hback : ∀ {place lister i}, s'.At roots place lister i → s.At roots place lister i := fun hp =>
    hp.of_children fun j => (hfill.children j).symm
  have hreached : ∀ {i}, s'.Reached roots i → s.Reached roots i := fun ⟨place, lister, hp⟩ => ⟨place, lister, hback hp⟩
  refine ⟨h.top, fun i j hi hj => h.injective i j (hreached hi) (hreached hj), fun i hi => ?_, fun i hi => ?_,
    fun i j hi hj => ?_, fun i hi => ?_⟩
  · rw [hfill'.children, hfill.children]
    exact h.children i (hreached hi)
  · obtain ⟨place, lister, hp⟩ := hi
    rw [hparent' _ _ _ (h.at_renamed (hback hp)), hparent _ _ _ (hback hp)]
    exact Option.map_eq_none_iff
  · obtain ⟨place, lister, hp⟩ := hi
    rw [hparent' _ _ _ (h.at_renamed (hback hp)), hparent _ _ _ (hback hp)]
    constructor
    · intro hmap
      obtain ⟨p, rfl, hpj⟩ := Option.map_eq_some_iff.1 hmap
      rw [h.injective p j (hback hp).reached_lister (hreached hj) hpj]
    · rintro rfl
      rfl
  · exact (h.alike i (hreached hi)).filledIn (hfill.node i) (hfill'.node (σ i)) (hid i (hreached hi))

/-- Both are refused for one reason, or both are prepared: then they are isomorphic again. -/
theorem prepare (h : s.Isomorphic t roots roots' σ) (hs : s.Closed) (ht : t.Closed) (hr : ∀ i ∈ roots, i < s.size)
    (hr' : ∀ i ∈ roots', i < t.size) :
    (∃ v, (prepare roots).run s = (.error v, s) ∧ (prepare roots').run t = (.error v, t)) ∨
    ∃ s' t', (prepare roots).run s = (.ok (), s') ∧ (prepare roots').run t = (.ok (), t') ∧
      s'.Isomorphic t' roots roots' σ := by
  have hcollect : Overlay.collect t (roots'.map (·, none)) [] =
      (Overlay.collect s (roots.map (·, none)) []).map (List.map σ) := by
    have hroots : roots'.map (·, none) = (roots.map (·, none)).map (renamed σ) := by
      rw [h.top, List.map_map, List.map_map]
      rfl
    rw [hroots]
    have hnone : ∀ i ∈ ([] : List NodeId), s.Reached roots i := by simp
    refine h.collect (fun e he => ?_) hnone
    obtain ⟨i, hi, rfl⟩ := List.mem_map.1 he
    obtain ⟨k, hk⟩ := List.getElem?_of_mem hi
    exact ⟨_, .root hk⟩
  have hrun := run_prepare roots s
  have hrun' := run_prepare roots' t
  rw [hcollect] at hrun'
  rcases hcol : Overlay.collect s (roots.map (·, none)) [] with v | ids <;> rw [hcol] at hrun hrun'
  · exact .inl ⟨v, hrun, hrun'⟩
  have hids : ∀ i ∈ ids, s.Reached roots i := fun i hi => (mem_collect_iff hcol i).1 hi
  have halike : ∀ n ∈ s.listed ids, n.2.Matches (t.node (σ n.1)) := by
    intro n hn
    obtain ⟨i, hi, rfl⟩ := List.mem_map.1 hn
    exact h.alike i (hids i hi)
  have hcheck : checkIds ((t.listed (ids.map σ)).map Prod.snd) [] [] =
      checkIds ((s.listed ids).map Prod.snd) [] [] := by
    rw [listed_renamed σ s t ids, List.map_map]
    exact checkIds_matches [] [] halike
  simp only [Except.map] at hrun'
  rw [hcheck] at hrun'
  dsimp only at hrun
  rcases hpreset : checkIds ((s.listed ids).map Prod.snd) [] [] with v | preset <;> rw [hpreset] at hrun hrun'
  · exact .inl ⟨v, hrun, hrun'⟩
  refine .inr ⟨_, _, hrun, hrun', h.prepared hs ht hr hr' hrun hrun' fun i hi => ?_⟩
  -- both ids are looked up among the new ones, which are the same but for the names of the nodes
  obtain ⟨-, -, hnd, hlt⟩ := collect_ok hs hr hcol
  obtain ⟨-, -, hnd', hlt'⟩ := collect_ok ht hr' (hcollect.trans (by rw [hcol]; rfl))
  have hmem : i ∈ ids := (mem_collect_iff hcol i).2 hi
  have hinj : ∀ i ∈ (s.listed ids).map Prod.fst, ∀ j ∈ (s.listed ids).map Prod.fst, σ i = σ j → i = j := by
    have hkeys : (s.listed ids).map Prod.fst = ids := by simp [Store.listed, Function.comp_def]
    rw [hkeys]
    exact fun i hi j hj => h.injective i j (hids i hi) (hids j hj)
  have hlookup : (newIds (t.listed (ids.map σ)) preset).lookup (σ i) = (newIds (s.listed ids) preset).lookup i := by
    rw [listed_renamed σ s t ids, newIds_renamed preset halike hinj]
    refine lookup_renamed fun c hc => h.injective c.1 i (hids _ ?_) hi
    exact (newIds_unidentified _ (List.mem_map_of_mem hc)).1
  rw [internalId_install hnd' (hlt' _ (List.mem_map_of_mem hmem)), internalId_install hnd (hlt i hmem), hlookup,
    (h.alike i hi).internalId]

end Store.Isomorphic

end Overlay
