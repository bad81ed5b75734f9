/-
Names of styles. The names travel through the emission in a table that tells, for every node emitted so far
whose style needs a name, the selector that has the name. A name that is told for another selector stops the
emission, so in a program no two nodes define or use one name, whatever the digests are.
-/
import Overlay.Proofs.Program.Layout

namespace Overlay

open Overlay.Tree

variable {setup : Setup} {selector : NodeId → String} {seen ns ns' : List (NodeId × Node)}

/-! ## The table of names -/

/-- The names of styles tell the selectors of some nodes that need one, and no others. -/
def StyleNames.Tell (names : StyleNames) (setup : Setup) (selector : NodeId → String) (ns : List (NodeId × Node)) :
    Prop :=
  ∀ name owner, names.get? name = some owner ↔
    ∃ n ∈ ns, n.2.namedStyle.isSome ∧ styleName setup.styleStem (selector n.1) = name ∧ selector n.1 = owner

/-- A failure that says which two selectors of some nodes share the name of a style. -/
def Failure.Clash (f : Failure) (setup : Setup) (selector : NodeId → String) (ns : List (NodeId × Node)) : Prop :=
  ∃ n ∈ ns, ∃ m ∈ ns, n.2.namedStyle.isSome ∧ m.2.namedStyle.isSome ∧ selector n.1 ≠ selector m.1 ∧
    styleName setup.styleStem (selector n.1) = styleName setup.styleStem (selector m.1) ∧
    f = .violation (.styleNameTaken (styleName setup.styleStem (selector m.1)) (selector n.1) (selector m.1))

theorem Failure.Clash.mono {f : Failure} (h : f.Clash setup selector ns) (hns : ns ⊆ ns') :
    f.Clash setup selector ns' := by
  obtain ⟨n, hn, m, hm, h⟩ := h
  exact ⟨n, hns hn, m, hns hm, h⟩

namespace StyleNames

variable {names names' : StyleNames} {n : NodeId × Node}

theorem tell_empty : Tell Bag.empty setup selector [] := by
  intro name owner
  simp [Bag.get?, Bag.empty]

/-- In a table the nodes of one name have one selector. -/
theorem Tell.selector_eq (h : names.Tell setup selector ns) {m : NodeId × Node} (hn : n ∈ ns) (hm : m ∈ ns)
    (hstyle : n.2.namedStyle.isSome) (hstyle' : m.2.namedStyle.isSome)
    (hname : styleName setup.styleStem (selector n.1) = styleName setup.styleStem (selector m.1)) :
    selector n.1 = selector m.1 :=
  Option.some.inj (((h _ _).2 ⟨n, hn, hstyle, rfl, rfl⟩).symm.trans ((h _ _).2 ⟨m, hm, hstyle', hname.symm, rfl⟩))

theorem get?_of_claim {name selector : String} (h : names.claim name selector = .ok names') (k owner : String) :
    names'.get? k = some owner ↔ names.get? k = some owner ∨ name = k ∧ selector = owner := by
  unfold claim at h
  split at h
  · rename_i hnone
    cases h
    rw [Bag.get?_put]
    split
    · rename_i hk
      simp [← hk, hnone]
    · rename_i hk
      simp [hk]
  · rename_i owner' howner
    split at h
    · -- the name already is the selector's own
      rename_i he
      cases h
      subst he
      refine ⟨.inl, ?_⟩
      rintro (hk | ⟨rfl, rfl⟩)
      · exact hk
      · exact howner
    · cases h

theorem Tell.hoist_ok (h : names.Tell setup selector seen) {scope : String} {define use : List Command}
    (hn : n.2.hoist setup scope (selector n.1) names = .ok (define, use, names')) :
    names'.Tell setup selector (seen ++ [n]) := by
  unfold Node.hoist at hn
  split at hn
  · rename_i hnone
    cases hn
    intro k owner
    rw [h k owner]
    simp [List.mem_append, or_and_right, exists_or, hnone]
  · rename_i literal hsome
    obtain ⟨inside, hclaim, hn⟩ := bind_eq_ok hn
    cases hn
    intro k owner
    rw [get?_of_claim hclaim, h k owner]
    simp [List.mem_append, or_and_right, exists_or, hsome]

/-- A style gets no name only if a node before has the name for another selector. -/
theorem Tell.hoist_error (h : names.Tell setup selector seen) {scope : String} {f : Failure}
    (hn : n.2.hoist setup scope (selector n.1) names = .error f) : f.Clash setup selector (seen ++ [n]) := by
  unfold Node.hoist at hn
  split at hn
  · cases hn
  · rename_i literal hsome
    rcases bind_eq_error hn with hclaim | ⟨inside, -, hn⟩
    · unfold claim at hclaim
      split at hclaim
      · cases hclaim
      · rename_i owner howner
        split at hclaim
        · cases hclaim
        · rename_i hne
          cases hclaim
          obtain ⟨m, hm, hstyle, hname, rfl⟩ := (h _ _).1 howner
          exact ⟨m, List.mem_append_left _ hm, n, List.mem_append_right _ (List.mem_singleton.2 rfl), hstyle,
            by rw [hsome]; rfl, hne, hname, rfl⟩
    · cases hn

end StyleNames

/-! ## The table through an emission -/

/-- The hooks of a node return for a selector. -/
def Node.HooksReturn (n : Node) (selector : String) : Prop :=
  ∀ hook ∈ n.before ++ n.after, ∃ added, Hook.run hook selector = .ok added

theorem runHooks_returns : ∀ {hooks : List Hook} {selector : String},
    (∀ hook ∈ hooks, ∃ added, Hook.run hook selector = .ok added) → ∃ p, runHooks hooks selector = .ok p
  | [], _, _ => ⟨.empty, rfl⟩
  | hook :: hooks, selector, h => by
    obtain ⟨first, hfirst⟩ := h hook (List.mem_cons_self ..)
    obtain ⟨rest, hrest⟩ := runHooks_returns fun hook hh => h hook (List.mem_cons_of_mem _ hh)
    exact ⟨first ++ rest, by rw [runHooks, hfirst, hrest]; rfl⟩

theorem runBlocks_returns : ∀ {blocks : List Block}, (∀ block ∈ blocks, ∃ added, block = .ok added) →
    ∃ p, runBlocks blocks = .ok p
  | [], _ => ⟨.empty, rfl⟩
  | block :: blocks, h => by
    obtain ⟨first, rfl⟩ := h block (List.mem_cons_self ..)
    obtain ⟨rest, hrest⟩ := runBlocks_returns fun block hb => h block (List.mem_cons_of_mem _ hb)
    exact ⟨first ++ rest, by rw [runBlocks, hrest]; rfl⟩

/-- Where a node has its selector and its hooks return, it is its style or a subtree that fails. -/
theorem Tree.emit_error {scope own : String} {names : StyleNames} {i : NodeId} {n : Node} {ts : List Tree} {f : Failure}
    (hs : n.selector scope = .ok own) (hhooks : n.HooksReturn own)
    (h : (node i n ts).emit setup scope names = .error f) :
    n.hoist setup scope own names = .error f ∨ ∃ define use inside,
      n.hoist setup scope own names = .ok (define, use, inside) ∧
      Tree.emitAll setup own inside ts = .error f := by
  obtain ⟨before, hbefore⟩ := runHooks_returns fun hook hh => hhooks hook (List.mem_append_left _ hh)
  obtain ⟨after, hafter⟩ := runHooks_returns fun hook hh => hhooks hook (List.mem_append_right _ hh)
  rw [Tree.emit] at h
  rcases bind_eq_error h with h | ⟨sel, hsel, h⟩
  · cases hs.symm.trans h
  obtain rfl : sel = own := Except.ok.inj (hsel.symm.trans hs)
  rcases bind_eq_error h with h | ⟨_, -, h⟩
  · cases hbefore.symm.trans h
  rcases bind_eq_error h with hhoist | ⟨⟨define, use, inside⟩, hhoist, h⟩
  · exact .inl hhoist
  rcases bind_eq_error h with hinner | ⟨_, -, h⟩
  · exact .inr ⟨define, use, inside, hhoist, hinner⟩
  rcases bind_eq_error h with h | ⟨_, -, h⟩
  · cases hafter.symm.trans h
  · cases h

/-- An emission of some nodes adds the names of their styles to the table, and if their hooks return it fails
only over a name. -/
structure Threads (run : StyleNames → Except Failure (Program × StyleNames)) (setup : Setup)
    (selector : NodeId → String) (ns : List (NodeId × Node)) : Prop where
  tell : ∀ {seen names p names'}, names.Tell setup selector seen → run names = .ok (p, names') →
    names'.Tell setup selector (seen ++ ns)
  clash : ∀ {seen names f}, names.Tell setup selector seen → (∀ n ∈ ns, n.2.HooksReturn (selector n.1)) →
    run names = .error f → f.Clash setup selector (seen ++ ns)

theorem Tree.threads_emitAll {scope : String} : ∀ {ts : List Tree},
    (∀ t ∈ ts, Threads (t.emit setup scope ·) setup selector t.flatten) →
      Threads (Tree.emitAll setup scope · ts) setup selector (flattenAll ts)
  | [], _ => {
      tell := fun {seen _ _ _} htell h => by
        rw [Tree.emitAll] at h
        cases h
        rw [flattenAll, List.append_nil]
        exact htell
      clash := fun _ _ h => by
        rw [Tree.emitAll] at h
        cases h }
  | t :: ts, hts => by
    have hfirst := hts t (List.mem_cons_self ..)
    have hrest := threads_emitAll fun u hu => hts u (List.mem_cons_of_mem _ hu)
    refine ⟨fun {seen names p names'} htell h => ?_, fun {seen names f} htell hhooks h => ?_⟩
    · rw [Tree.emitAll] at h
      obtain ⟨⟨first, between⟩, h₁, h⟩ := bind_eq_ok h
      obtain ⟨⟨rest, last⟩, h₂, h⟩ := bind_eq_ok h
      cases h
      rw [flattenAll, ← List.append_assoc]
      exact hrest.tell (hfirst.tell htell h₁) h₂
    · rw [Tree.emitAll] at h
      rw [flattenAll] at hhooks ⊢
      rcases bind_eq_error h with h₁ | ⟨⟨first, between⟩, h₁, h⟩
      · refine (hfirst.clash htell (fun n hn => hhooks n (List.mem_append_left _ hn)) h₁).mono ?_
        rw [← List.append_assoc]
        exact List.subset_append_left _ _
      rcases bind_eq_error h with h₂ | ⟨⟨rest, last⟩, -, h⟩
      · rw [← List.append_assoc]
        exact hrest.clash (hfirst.tell htell h₁) (fun n hn => hhooks n (List.mem_append_right _ hn)) h₂
      · cases h

/-- The emission of an owned tree in its scope threads the table through its nodes in document order. -/
theorem Tree.Owned.threads_emit {s : Store} {lister : Option NodeId} {t : Tree} (h : t.Owned s lister)
    (hs : ∀ n ∈ t.flatten, n.2.selector (s.scope setup selector n.1) = .ok (selector n.1)) :
    Threads (t.emit setup ((lister.map selector).getD setup.rootSelector) ·) setup selector t.flatten := by
  induction h with
  | @node lister i ts parent children _ ih =>
    have hsub : Threads (Tree.emitAll setup (selector i) · ts) setup selector (flattenAll ts) :=
      threads_emitAll fun t ht => ih t ht fun n hn => hs n (mem_flatten_node.2 (.inr ⟨t, ht, hn⟩))
    have hi : (s.node i).selector ((lister.map selector).getD setup.rootSelector) = .ok (selector i) := by
      have hi := hs (i, s.node i) (mem_flatten_node.2 (.inl rfl))
      rwa [Store.scope, parent] at hi
    have hflat (seen : List (NodeId × Node)) : seen ++ (Tree.node i (s.node i) ts).flatten =
        seen ++ [(i, s.node i)] ++ flattenAll ts := by
      rw [flatten, List.append_assoc, List.singleton_append]
    refine ⟨fun {seen names p names'} htell h => ?_, fun {seen names f} htell hhooks h => ?_⟩
    · obtain ⟨sel, _, _, _, inside, _, _, hsel, -, hhoist, hinner, -, -⟩ := emit_parts h
      obtain rfl : sel = selector i := Except.ok.inj (hsel.symm.trans hi)
      rw [hflat]
      exact hsub.tell (htell.hoist_ok (n := (i, s.node i)) hhoist) hinner
    · rw [hflat]
      rcases emit_error hi (hhooks _ (mem_flatten_node.2 (.inl rfl))) h with hhoist | ⟨_, _, inside, hhoist, hinner⟩
      · exact (htell.hoist_error (n := (i, s.node i)) hhoist).mono (List.subset_append_left _ _)
      · refine hsub.clash (htell.hoist_ok (n := (i, s.node i)) hhoist) (fun n hn => hhooks n ?_) hinner
        exact mem_flatten_node.2 (.inr (mem_flattenAll.1 hn))

/-! ## Styles in layouts -/

namespace Piece

/-- The node that a piece is for. -/
def node : Piece → NodeId
  | before i _ => i
  | style i _ _ _ => i
  | definition i _ _ _ => i
  | use i _ _ => i
  | after i _ => i

/-- The name that a piece defines or uses. -/
def styleName? : Piece → Option String
  | style _ _ name _ => some name
  | use _ _ name => some name
  | _ => none

theorem not_mem_map {α : Type} {f : α → Piece} (hf : ∀ a, (f a).styleName? = none) {x : Piece}
    (hx : x.styleName?.isSome) (as : List α) : x ∉ as.map f := by
  intro hmem
  obtain ⟨a, -, rfl⟩ := List.mem_map.1 hmem
  rw [hf a] at hx
  cases hx

end Piece

theorem mem_segments {x : Piece} {P : NodeId × Node → Prop} {ts : List Tree} {segments : List (List Piece)}
    (h : List.Forall₂ (fun t pieces => x ∈ pieces ↔ ∃ n ∈ t.flatten, P n) ts segments) :
    x ∈ segments.flatten ↔ ∃ n ∈ flattenAll ts, P n := by
  induction h with
  | nil => simp [flattenAll]
  | cons hfirst _ ih => simp only [List.flatten_cons, flattenAll, List.mem_append, hfirst, ih, or_and_right, exists_or]

/-- What defines or uses a style in the segment of an owned tree does so for a node of the tree. -/
theorem Tree.Owned.mem_segment {s : Store} {lister : Option NodeId} {t : Tree} (h : t.Owned s lister) {x : Piece}
    (hx : x.styleName?.isSome) : ∀ {pieces : List Piece}, s.Segment setup selector t.id pieces →
      (x ∈ pieces ↔ ∃ n ∈ t.flatten, x ∈ s.stylePieces setup selector n.1 ++ s.usePieces setup selector n.1) := by
  induction h with
  | @node lister i ts _ children _ ih =>
    rintro _ (⟨_, hinner, _⟩)
    rw [Tree.id, ← children, List.forall₂_map_left_iff] at hinner
    have hsub := mem_segments (((List.forall₂_and_left ..).2 ⟨ih, hinner⟩).imp fun _ _ h => h.1 h.2)
    -- of the node's own pieces only those for its style have a name
    have hdefinition (n : Node) (scope selector : String) : x ≠ .definition i n scope selector := by
      rintro rfl
      cases hx
    simp only [Tree.id, List.mem_append, Piece.not_mem_map (f := Piece.before i) (fun _ => rfl) hx,
      Piece.not_mem_map (f := Piece.after i) (fun _ => rfl) hx, hdefinition, hsub, flatten, List.mem_cons,
      List.not_mem_nil, exists_eq_or_imp, false_or, or_false]
    exact or_right_comm

/-- The pieces of some roots define and use a style under its name for every node that needs one, and no name is
for two nodes. -/
structure Store.NamesApart (s : Store) (setup : Setup) (selector : NodeId → String) (roots : List NodeId)
    (pieces : List Piece) : Prop where
  named : ∀ n ∈ s.walk roots, ∀ literal, n.2.namedStyle = some literal →
    .style n.1 (s.scope setup selector n.1) (styleName setup.styleStem (selector n.1)) literal ∈ pieces ∧
    .use n.1 (selector n.1) (styleName setup.styleStem (selector n.1)) ∈ pieces
  apart : ∀ x ∈ pieces, ∀ y ∈ pieces, ∀ name, x.styleName? = some name → y.styleName? = some name → x.node = y.node

theorem Store.mem_stylePieces_usePieces {s : Store} {i : NodeId} {x : Piece}
    (h : x ∈ s.stylePieces setup selector i ++ s.usePieces setup selector i) : (s.node i).namedStyle.isSome ∧
      x.node = i ∧ x.styleName? = some (styleName setup.styleStem (selector i)) := by
  have hsome {f : String → Piece} (hmem : x ∈ (s.node i).namedStyle.toList.map f) :
      (s.node i).namedStyle.isSome ∧ ∃ literal, f literal = x := by
    obtain ⟨literal, hliteral, hx⟩ := List.mem_map.1 hmem
    exact ⟨Option.isSome_of_mem (Option.mem_toList.1 hliteral), literal, hx⟩
  rcases List.mem_append.1 h with hmem | hmem
  · obtain ⟨hstyle, literal, rfl⟩ := hsome hmem
    exact ⟨hstyle, rfl, rfl⟩
  · obtain ⟨hstyle, literal, rfl⟩ := hsome hmem
    exact ⟨hstyle, rfl, rfl⟩

/-- Where the nodes of one name have one selector and selectors are distinct, names are. -/
theorem Store.namesApart_of_segments {s : Store} {roots : List NodeId} (ho : ∀ t ∈ s.forest roots, t.Owned s none)
    {segments : List (List Piece)} (h : List.Forall₂ (s.Segment setup selector) roots segments)
    (hnames : ∀ n ∈ s.walk roots, ∀ m ∈ s.walk roots, n.2.namedStyle.isSome → m.2.namedStyle.isSome →
      styleName setup.styleStem (selector n.1) = styleName setup.styleStem (selector m.1) → n = m) :
    s.NamesApart setup selector roots segments.flatten := by
  have hmem {x : Piece} (hx : x.styleName?.isSome) := mem_segments (forall_segments h fun t ht _ hs =>
    (ho t ht).mem_segment hx hs)
  refine ⟨fun n hn literal hliteral => ?_, fun x hx y hy name hname hname' => ?_⟩
  · rw [s.walk_content roots n hn] at hliteral
    refine ⟨(hmem rfl).2 ⟨n, hn, ?_⟩, (hmem rfl).2 ⟨n, hn, ?_⟩⟩
    · simp [stylePieces, hliteral]
    · simp [usePieces, hliteral]
  · obtain ⟨n, hn, hxn⟩ := (hmem (by rw [hname]; rfl)).1 hx
    obtain ⟨m, hm, hym⟩ := (hmem (by rw [hname']; rfl)).1 hy
    obtain ⟨hstyle, hnode, hxname⟩ := mem_stylePieces_usePieces hxn
    obtain ⟨hstyle', hnode', hyname⟩ := mem_stylePieces_usePieces hym
    rw [← s.walk_content roots n hn] at hstyle
    rw [← s.walk_content roots m hm] at hstyle'
    rw [hname] at hxname
    rw [hname'] at hyname
    rw [hnode, hnode', hnames n hn m hm hstyle hstyle' (Option.some.inj (hxname.symm.trans hyname))]

section Forest

variable {s : Store} {roots : List NodeId} {blocks : List Block} {baseFile : Option String}
  (ho : ∀ t ∈ s.forest roots, t.Owned s none) (hs : s.Selects setup roots selector)

include ho hs

theorem threads_forest :
    Threads (Tree.emitAll setup setup.rootSelector · (s.forest roots)) setup selector (s.walk roots) :=
  threads_emitAll fun t ht => (ho t ht).threads_emit fun n hn => hs n (mem_flattenAll.2 ⟨t, ht, hn⟩)

/-- An emission that succeeds tells all names in one table. -/
theorem selector_eq_of_emit {p : Program} (h : emit setup (s.forest roots) blocks baseFile = .ok p)
    {n m : NodeId × Node} (hn : n ∈ s.walk roots) (hm : m ∈ s.walk roots) (hstyle : n.2.namedStyle.isSome)
    (hstyle' : m.2.namedStyle.isSome)
    (hname : styleName setup.styleStem (selector n.1) = styleName setup.styleStem (selector m.1)) :
    selector n.1 = selector m.1 := by
  obtain ⟨_, -, h⟩ := bind_eq_ok h
  obtain ⟨⟨q, names⟩, hq, -⟩ := bind_eq_ok h
  exact ((threads_forest ho hs).tell StyleNames.tell_empty hq).selector_eq hn hm hstyle hstyle' hname

/-- Where blocks and hooks return, an emission fails only over a name. -/
theorem clash_of_emit {f : Failure} (hblocks : ∀ block ∈ blocks, ∃ added, block = .ok added)
    (hhooks : ∀ n ∈ s.walk roots, n.2.HooksReturn (selector n.1))
    (h : emit setup (s.forest roots) blocks baseFile = .error f) : f.Clash setup selector (s.walk roots) := by
  obtain ⟨edits, hedits⟩ := runBlocks_returns hblocks
  rcases bind_eq_error h with h | ⟨_, -, h⟩
  · cases hedits.symm.trans h
  rcases bind_eq_error h with h | ⟨_, -, h⟩
  · exact (threads_forest ho hs).clash StyleNames.tell_empty hhooks h
  · cases h

end Forest

/-- Where internal ids are identifiers, nodes have distinct selectors, and the styles of distinct nodes have
distinct names in every program. Two styles under one name stop the emission. -/
theorem names_never_collide {s s' : Store} {roots : List NodeId} (hc : s.Closed) (hr : ∀ i ∈ roots, i < s.size)
    (hp : (prepare roots).run s = (.ok (), s'))
    (hplain : ∀ n ∈ s'.walk roots, ∀ id, n.2.internalId = some id → isIdentifier id.toList) (setup : Setup) :
    ∃ selector, s'.Selects setup roots selector ∧
      (∀ n ∈ s'.walk roots, ∀ m ∈ s'.walk roots, selector n.1 = selector m.1 → n = m) ∧
      ∀ blocks baseFile,
        (∀ p, emit setup (s'.forest roots) blocks baseFile = .ok p → ∃ segments,
          p.LaidOut s' setup selector roots blocks baseFile segments ∧
          s'.NamesApart setup selector roots segments.flatten) ∧
        ∀ n ∈ s'.walk roots, ∀ m ∈ s'.walk roots, n ≠ m → n.2.namedStyle.isSome → m.2.namedStyle.isSome →
          styleName setup.styleStem (selector n.1) = styleName setup.styleStem (selector m.1) →
          (∀ block ∈ blocks, ∃ added, block = .ok added) →
          (∀ n ∈ s'.walk roots, n.2.HooksReturn (selector n.1)) →
            ∃ f, emit setup (s'.forest roots) blocks baseFile = .error f ∧
              f.Clash setup selector (s'.walk roots) := by
  have hprepared := prepared_of_ok hc hr hp
  have howned := owned_of_ok hc hr hp
  obtain ⟨selector, hselects⟩ := hprepared.exists_selects howned setup
  have hinj : ∀ n ∈ s'.walk roots, ∀ m ∈ s'.walk roots, selector n.1 = selector m.1 → n = m :=
    fun n hn m hm he => hprepared.selector_inj hplain hselects hn hm he
  refine ⟨selector, hselects, hinj, fun blocks baseFile => ⟨fun p h => ?_, ?_⟩⟩
  · obtain ⟨segments, hlaidOut⟩ := emit_laidOut howned hselects h
    refine ⟨segments, hlaidOut, Store.namesApart_of_segments howned hlaidOut.segment ?_⟩
    intro n hn m hm hstyle hstyle' hname
    exact hinj n hn m hm (selector_eq_of_emit howned hselects h hn hm hstyle hstyle' hname)
  · intro n hn m hm hne hstyle hstyle' hname hblocks hhooks
    -- an emission that succeeds would tell two selectors under one name
    cases h : emit setup (s'.forest roots) blocks baseFile with
    | ok p => exact absurd (hinj n hn m hm (selector_eq_of_emit howned hselects h hn hm hstyle hstyle' hname)) hne
    | error f => exact ⟨f, rfl, clash_of_emit howned hselects hblocks hhooks h⟩

/-- A group of two buttons in one style. -/
def twins (parent : Option NodeId) : Store := ⟨#[
  { kind := .group, internalId := some "Twins", children := [1, 2] },
  { kind := .button, internalId := some "Yes", parent,
    style := some (Bag.ofList [(.default, { background := some "#101010" })]) },
  { kind := .button, internalId := some "No", parent,
    style := some (Bag.ofList [(.default, { background := some "#101010" })]) }]⟩

/-- Both buttons need names for their styles, and in the program of the group their names are apart. -/
theorem names_never_collide_twins :
    (twins none).Closed ∧ (∀ i ∈ [0], i < (twins none).size) ∧
    (prepare [0]).run (twins none) = (.ok (), twins (some 0)) ∧
    (∀ n ∈ (twins (some 0)).walk [0], ∀ id, n.2.internalId = some id → isIdentifier id.toList) ∧
    (((twins (some 0)).walk [0]).filter (·.2.namedStyle.isSome)).map Prod.fst = [1, 2] ∧
    ∃ p, emit {} ((twins (some 0)).forest [0]) [] none = .ok p ∧
      ∃ selector segments, p.LaidOut (twins (some 0)) {} selector [0] [] none segments ∧
        (twins (some 0)).NamesApart {} selector [0] segments.flatten := by
  have hc : (twins none).Closed := Store.closed_of_nodes (by decide)
  have hr : ∀ i ∈ [0], i < (twins none).size := by decide
  have hp : (prepare [0]).run (twins none) = (.ok (), twins (some 0)) := by
    have hcollect : collect (twins none) [(0, none)] [] = .ok [0, 1, 2] := by simp [collect, twins, Store.node]
    have hcheck : checkIds (((twins none).listed [0, 1, 2]).map Prod.snd) [] [] = .ok ["No", "Yes", "Twins"] := by
      decide +kernel
    exact run_prepare_of_ok hcollect hcheck
  have hplain : ∀ n ∈ (twins (some 0)).walk [0], ∀ id, n.2.internalId = some id → isIdentifier id.toList := by
    have hall : ∀ n ∈ (twins (some 0)).walk [0], n.2.internalId.all (fun id => isIdentifier id.toList) = true := by
      decide +kernel
    intro n hn id hid
    simpa [hid] using hall n hn
  have he : (emit {} ((twins (some 0)).forest [0]) [] none).toBool = true := by decide +kernel
  refine ⟨hc, hr, hp, hplain, by decide +kernel, ?_⟩
  obtain ⟨selector, -, -, hemit⟩ := names_never_collide hc hr hp hplain {}
  cases h : emit {} ((twins (some 0)).forest [0]) [] none with
  | error f =>
    rw [h] at he
    cases he
  | ok p => exact ⟨p, rfl, selector, (hemit [] none).1 p h⟩

end Overlay
