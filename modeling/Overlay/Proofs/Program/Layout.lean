/-
Layouts. A program is its base file, what blocks add, and one segment for each root. The segment of a node is
made of pieces: what its hooks add, the definition of its style if that has a name, its own definition, the
segments of its children, the use of the style, and what its hooks add after it. So nodes are defined once
each and in document order, every node in the element of its parent, which is there by then, and no style is
used before it is defined.
-/
import Overlay.Proofs.Program.Segment
import Overlay.Proofs.Program.Selector

namespace Overlay

open Overlay.Tree

/-! ## Pieces -/

namespace Program

theorem append_assoc (p q r : Program) : p ++ q ++ r = p ++ (q ++ r) :=
  congrArg₂ Program.mk (List.append_assoc ..) (List.append_assoc ..)

/-- Programs one after another. -/
def concat (ps : List Program) : Program := ⟨ps.flatMap (·.commands), ps.flatMap (·.bindings)⟩

theorem concat_append (ps qs : List Program) : concat (ps ++ qs) = concat ps ++ concat qs :=
  congrArg₂ Program.mk List.flatMap_append List.flatMap_append

end Program

/-- A piece of a segment, with the node that it is for. -/
inductive Piece where
  /-- What a hook adds before the node. -/
  | before (i : NodeId) (added : Program)
  /-- The definition of a style under a name. -/
  | style (i : NodeId) (scope name literal : String)
  /-- The definition of the node inside a scope, and its bindings under its selector. -/
  | definition (i : NodeId) (n : Node) (scope selector : String)
  /-- The use of a named style. -/
  | use (i : NodeId) (selector name : String)
  /-- What a hook adds after the node and its subtree. -/
  | after (i : NodeId) (added : Program)

namespace Piece

/-- The commands and bindings of a piece. -/
def program : Piece → Program
  | before _ added => added
  | style _ scope name literal => .ofCommands [.insert scope ("@" ++ name ++ " = " ++ literal ++ ";")]
  | definition _ n scope selector => ⟨[.insert scope n.definition], n.bindings selector⟩
  | use _ selector name => .ofCommands [.assign (selector ++ ".Style") ("$." ++ name)]
  | after _ added => added

def isDefinition : Piece → Bool
  | definition .. => true
  | _ => false

/-- Whether a piece comes from a hook and not from the emission itself. -/
def isHook : Piece → Bool
  | before .. => true
  | after .. => true
  | _ => false

/-- What must stand before a piece: for the definition of a node with a parent the definition of the parent,
whose selector is the scope; for the use of a style its definition. -/
def Ready (s : Store) (seen : List Piece) : Piece → Prop
  | definition i _ scope _ => ∀ parent, (s.node i).parent = some parent →
    ∃ n outer, definition parent n outer scope ∈ seen
  | use i _ name => ∃ scope literal, style i scope name literal ∈ seen
  | _ => True

end Piece

/-- The program that pieces make. -/
def Program.ofPieces (ps : List Piece) : Program := concat (ps.map Piece.program)

theorem Program.ofPieces_append (ps qs : List Piece) : ofPieces (ps ++ qs) = ofPieces ps ++ ofPieces qs := by
  rw [ofPieces, List.map_append, concat_append]
  rfl

/-- Pieces that stand for programs as they are make these programs. -/
theorem Program.ofPieces_map {f : Program → Piece} (hf : ∀ added, (f added).program = added) (added : List Program) :
    ofPieces (added.map f) = concat added := by
  rw [ofPieces, List.map_map, Function.comp_def, funext hf]
  exact congrArg concat (List.map_id added)

theorem Program.ofPieces_singleton (x : Piece) : ofPieces [x] = x.program :=
  congrArg₂ Program.mk (List.append_nil _) (List.append_nil _)

/-! ## Segments -/

namespace Store

/-- The definition of a node's style, if it needs a name. -/
def stylePieces (s : Store) (setup : Setup) (selector : NodeId → String) (i : NodeId) : List Piece :=
  (s.node i).namedStyle.toList.map (.style i (s.scope setup selector i) (styleName setup.styleStem (selector i)))

/-- The use of a node's style, if it has a name. -/
def usePieces (s : Store) (setup : Setup) (selector : NodeId → String) (i : NodeId) : List Piece :=
  (s.node i).namedStyle.toList.map fun _ => .use i (selector i) (styleName setup.styleStem (selector i))

/-- The pieces of a node and of the nodes below it, in order. -/
inductive Segment (s : Store) (setup : Setup) (selector : NodeId → String) : NodeId → List Piece → Prop
  | node {i : NodeId} {before after : List Program} {inner : List (List Piece)}
    (runs : List.Forall₂ (fun hook added => Hook.run hook (selector i) = .ok added) (s.node i).before before)
    (children : List.Forall₂ (Segment s setup selector) (s.node i).children inner)
    (runs' : List.Forall₂ (fun hook added => Hook.run hook (selector i) = .ok added) (s.node i).after after) :
    Segment s setup selector i
      (before.map (.before i) ++ s.stylePieces setup selector i ++
        [.definition i (s.node i) (s.scope setup selector i) (selector i)] ++ inner.flatten ++
        s.usePieces setup selector i ++ after.map (.after i))

variable (s : Store) (setup : Setup) (selector : NodeId → String) (i : NodeId)

theorem ofPieces_stylePieces : Program.ofPieces (s.stylePieces setup selector i) =
    .ofCommands ((s.node i).namedStyle.toList.map fun literal => .insert (s.scope setup selector i)
      ("@" ++ styleName setup.styleStem (selector i) ++ " = " ++ literal ++ ";")) := by
  unfold stylePieces
  cases (s.node i).namedStyle <;> rfl

theorem ofPieces_usePieces : Program.ofPieces (s.usePieces setup selector i) =
    .ofCommands ((s.node i).namedStyle.toList.map fun _ =>
      .assign (selector i ++ ".Style") ("$." ++ styleName setup.styleStem (selector i))) := by
  unfold usePieces
  cases (s.node i).namedStyle <;> rfl

end Store

/-! ## Emission in segments -/

theorem runHooks_ok : ∀ {hooks : List Hook} {selector : String} {p : Program}, runHooks hooks selector = .ok p →
    ∃ added, List.Forall₂ (fun hook q => Hook.run hook selector = .ok q) hooks added ∧ p = .concat added
  | [], _, _, h => by
    cases h
    exact ⟨[], .nil, rfl⟩
  | hook :: hooks, selector, p, h => by
    obtain ⟨first, hfirst, h⟩ := bind_eq_ok h
    obtain ⟨rest, hrest, h⟩ := bind_eq_ok h
    cases h
    obtain ⟨added, hruns, rfl⟩ := runHooks_ok hrest
    exact ⟨first :: added, .cons hfirst hruns, rfl⟩

theorem runBlocks_ok : ∀ {blocks : List Block} {p : Program}, runBlocks blocks = .ok p →
    ∃ edits, List.Forall₂ (fun block q => block = .ok q) blocks edits ∧ p = .concat edits
  | [], _, h => by
    cases h
    exact ⟨[], .nil, rfl⟩
  | block :: blocks, p, h => by
    obtain ⟨first, hfirst, h⟩ := bind_eq_ok h
    obtain ⟨rest, hrest, h⟩ := bind_eq_ok h
    cases h
    obtain ⟨edits, hblocks, rfl⟩ := runBlocks_ok hrest
    exact ⟨first :: edits, .cons hfirst hblocks, rfl⟩

/-- A style that needs a name is defined before the node and used after its subtree, under the name. -/
theorem Node.hoist_ok {n : Node} {setup : Setup} {scope selector : String} {names names' : StyleNames}
    {define use : List Command} (h : n.hoist setup scope selector names = .ok (define, use, names')) :
    (define = n.namedStyle.toList.map fun literal =>
      .insert scope ("@" ++ styleName setup.styleStem selector ++ " = " ++ literal ++ ";")) ∧
    use = n.namedStyle.toList.map fun _ =>
      .assign (selector ++ ".Style") ("$." ++ styleName setup.styleStem selector) := by
  unfold hoist at h
  split at h
  · rename_i hnone
    cases h
    simp [hnone]
  · rename_i literal hsome
    obtain ⟨inside, -, h⟩ := bind_eq_ok h
    cases h
    rw [hsome]
    exact ⟨rfl, rfl⟩

/-- Trees that are emitted one after another make segments one after another. -/
theorem Tree.segments_of_emitAll {setup : Setup} {scope : String} {R : Tree → List Piece → Prop} :
    ∀ {ts : List Tree} {names names' : StyleNames} {p : Program},
      (∀ t ∈ ts, ∀ names p names', t.emit setup scope names = .ok (p, names') →
        ∃ pieces, R t pieces ∧ p = .ofPieces pieces) →
      Tree.emitAll setup scope names ts = .ok (p, names') →
        ∃ segments, List.Forall₂ R ts segments ∧ p = .ofPieces segments.flatten
  | [], _, _, _, _, h => by
    rw [Tree.emitAll] at h
    cases h
    exact ⟨[], .nil, rfl⟩
  | t :: ts, _, _, _, hts, h => by
    rw [Tree.emitAll] at h
    obtain ⟨⟨first, between⟩, hfirst, h⟩ := bind_eq_ok h
    obtain ⟨⟨rest, last⟩, hrest, h⟩ := bind_eq_ok h
    cases h
    obtain ⟨pieces, hpieces, rfl⟩ := hts t (List.mem_cons_self ..) _ _ _ hfirst
    obtain ⟨segments, hsegments, rfl⟩ := segments_of_emitAll (fun u hu => hts u (List.mem_cons_of_mem _ hu)) hrest
    exact ⟨pieces :: segments, .cons hpieces hsegments, by rw [List.flatten_cons, Program.ofPieces_append]⟩

namespace Tree.Owned

variable {s : Store} {setup : Setup} {selector : NodeId → String} {lister : Option NodeId} {t : Tree}

/-- The program of an owned tree in its scope is a segment. -/
theorem segment_of_emit (h : t.Owned s lister)
    (hs : ∀ n ∈ t.flatten, n.2.selector (s.scope setup selector n.1) = .ok (selector n.1)) :
    ∀ {names names' : StyleNames} {p : Program},
      t.emit setup ((lister.map selector).getD setup.rootSelector) names = .ok (p, names') →
        ∃ pieces, s.Segment setup selector t.id pieces ∧ p = .ofPieces pieces := by
  induction h with
  | @node lister i ts parent children _ ih =>
    intro names names' p h
    -- the scope that is passed down is the selector of the parent
    have hscope : s.scope setup selector i = (lister.map selector).getD setup.rootSelector := by
      rw [Store.scope, parent]
    rw [← hscope] at h
    obtain ⟨sel, before, define, use, inside, inner, after, hsel, hbefore, hhoist, hinner, hafter, rfl⟩ := emit_parts h
    have hi := hs (i, s.node i) (mem_flatten_node.2 (.inl rfl))
    obtain rfl : sel = selector i := Except.ok.inj (hsel.symm.trans hi)
    obtain ⟨added, hruns, rfl⟩ := runHooks_ok hbefore
    obtain ⟨added', hruns', rfl⟩ := runHooks_ok hafter
    obtain ⟨rfl, rfl⟩ := Node.hoist_ok hhoist
    obtain ⟨segments, hsegments, rfl⟩ := segments_of_emitAll (R := fun t => s.Segment setup selector t.id)
      (fun t ht names p names' he => ih t ht (fun n hn => hs n (mem_flatten_node.2 (.inr ⟨t, ht, hn⟩))) he) hinner
    have hchildren : List.Forall₂ (s.Segment setup selector) (s.node i).children segments := by
      rw [← children, List.forall₂_map_left_iff]
      exact hsegments
    show ∃ pieces, s.Segment setup selector i pieces ∧ _
    refine ⟨_, .node hruns hchildren hruns', ?_⟩
    have hown (define : List Command) :
        Program.mk (define ++ [.insert (s.scope setup selector i) (s.node i).definition])
          ((s.node i).bindings (selector i)) =
        .ofCommands define ++ (Piece.definition i (s.node i) (s.scope setup selector i) (selector i)).program := rfl
    simp only [Program.ofPieces_append, Program.ofPieces_map (f := Piece.before i) fun _ => rfl,
      Program.ofPieces_map (f := Piece.after i) fun _ => rfl, Program.ofPieces_singleton, Store.ofPieces_stylePieces,
      Store.ofPieces_usePieces]
    rw [hown, ← Program.append_assoc]

end Tree.Owned

/-! ## The definitions of a segment -/

namespace Store

/-- The definitions of some nodes in the elements of their parents. -/
def definitions (s : Store) (setup : Setup) (selector : NodeId → String) (ns : List (NodeId × Node)) : List Piece :=
  ns.map fun n => .definition n.1 n.2 (s.scope setup selector n.1) (selector n.1)

theorem definitions_of_segments {s : Store} {setup : Setup} {selector : NodeId → String} {ts : List Tree}
    {segments : List (List Piece)} (h : List.Forall₂
      (fun t pieces => pieces.filter Piece.isDefinition = s.definitions setup selector t.flatten) ts segments) :
    segments.flatten.filter Piece.isDefinition = s.definitions setup selector (flattenAll ts) := by
  induction h with
  | nil => rfl
  | @cons t pieces ts segments hfirst _ ih =>
    rw [List.flatten_cons, List.filter_append, hfirst, ih, flattenAll, definitions, definitions, definitions,
      List.map_append]

end Store

theorem Piece.filter_map_eq_nil {α : Type} {f : α → Piece} (h : ∀ a, (f a).isDefinition = false) (as : List α) :
    (as.map f).filter isDefinition = [] := by
  rw [List.filter_eq_nil_iff]
  intro x hx
  obtain ⟨a, -, rfl⟩ := List.mem_map.1 hx
  simp [h]

/-- The segment of an owned tree defines its nodes in document order. -/
theorem Tree.Owned.definitions_of_segment {s : Store} {setup : Setup} {selector : NodeId → String}
    {lister : Option NodeId} {t : Tree} (h : t.Owned s lister) :
    ∀ {pieces : List Piece}, s.Segment setup selector t.id pieces →
      pieces.filter Piece.isDefinition = s.definitions setup selector t.flatten := by
  induction h with
  | @node lister i ts _ children _ ih =>
    rintro _ (⟨_, hinner, _⟩)
    rw [Tree.id, ← children, List.forall₂_map_left_iff] at hinner
    have hsub := Store.definitions_of_segments
      (((List.forall₂_and_left ..).2 ⟨ih, hinner⟩).imp fun _ _ h => h.1 h.2)
    -- hooks, styles and their uses define no node
    simp only [List.filter_append, Store.stylePieces, Store.usePieces, hsub]
    rw [Piece.filter_map_eq_nil fun _ => rfl, Piece.filter_map_eq_nil fun _ => rfl,
      Piece.filter_map_eq_nil fun _ => rfl, Piece.filter_map_eq_nil fun _ => rfl]
    simp only [List.nil_append, List.append_nil]
    rfl

/-! ## The order of a segment -/

namespace Piece

variable {s : Store} {seen seen' : List Piece}

theorem Ready.mono {x : Piece} (h : x.Ready s seen) (hseen : seen ⊆ seen') : x.Ready s seen' := by
  cases x with
  | definition i n scope selector =>
    intro parent hp
    obtain ⟨m, outer, hm⟩ := h parent hp
    exact ⟨m, outer, hseen hm⟩
  | use i selector name =>
    obtain ⟨scope, literal, hstyle⟩ := h
    exact ⟨scope, literal, hseen hstyle⟩
  | _ => trivial

/-- Each of some pieces after others finds what must stand before it. -/
def InOrder (s : Store) : List Piece → List Piece → Prop
  | _, [] => True
  | seen, x :: xs => x.Ready s seen ∧ InOrder s (seen ++ [x]) xs

theorem inOrder_append : ∀ {xs ys : List Piece} {seen : List Piece},
    InOrder s seen (xs ++ ys) ↔ InOrder s seen xs ∧ InOrder s (seen ++ xs) ys
  | [], ys, seen => by simp [InOrder]
  | x :: xs, ys, seen => by
    rw [List.cons_append, InOrder, InOrder, inOrder_append, and_assoc, List.append_assoc, List.singleton_append]

theorem inOrder_of_ready : ∀ {xs seen : List Piece}, (∀ x ∈ xs, x.Ready s seen) → InOrder s seen xs
  | [], _, _ => trivial
  | x :: _, _, h => ⟨h x (List.mem_cons_self ..), inOrder_of_ready fun y hy =>
      (h y (List.mem_cons_of_mem _ hy)).mono (List.subset_append_left _ _)⟩

/-- Pieces that need nothing before them. -/
theorem inOrder_map {α : Type} {f : α → Piece} (hf : ∀ a seen, (f a).Ready s seen) (as : List α) (seen : List Piece) :
    InOrder s seen (as.map f) := by
  refine inOrder_of_ready fun x hx => ?_
  obtain ⟨a, -, rfl⟩ := List.mem_map.1 hx
  exact hf a seen

theorem InOrder.ready {x : Piece} {pre post : List Piece} (h : InOrder s [] (pre ++ x :: post)) : x.Ready s pre :=
  (inOrder_append.1 h).2.1

end Piece

namespace Store

/-- The node that lists a tree, if there is one, is defined among some pieces. -/
def Opened (selector : NodeId → String) (lister : Option NodeId) (seen : List Piece) : Prop :=
  ∀ parent, lister = some parent → ∃ n outer, Piece.definition parent n outer (selector parent) ∈ seen

theorem Opened.mono {selector : NodeId → String} {lister : Option NodeId} {seen seen' : List Piece}
    (h : Opened selector lister seen) (hseen : seen ⊆ seen') : Opened selector lister seen' := by
  intro parent hp
  obtain ⟨n, outer, hn⟩ := h parent hp
  exact ⟨n, outer, hseen hn⟩

theorem inOrder_of_segments {s : Store} {selector : NodeId → String} {lister : Option NodeId} {ts : List Tree}
    {segments : List (List Piece)} (h : List.Forall₂
      (fun _ pieces => ∀ seen, Opened selector lister seen → Piece.InOrder s seen pieces) ts segments) :
    ∀ seen, Opened selector lister seen → Piece.InOrder s seen segments.flatten := by
  induction h with
  | nil => exact fun _ _ => trivial
  | cons hfirst _ ih =>
    intro seen hseen
    rw [List.flatten_cons, Piece.inOrder_append]
    exact ⟨hfirst seen hseen, ih _ (hseen.mono (List.subset_append_left _ _))⟩

end Store

/-- In the segment of an owned tree every piece finds what must stand before it, once the lister is defined. -/
theorem Tree.Owned.inOrder_of_segment {s : Store} {setup : Setup} {selector : NodeId → String}
    {lister : Option NodeId} {t : Tree} (h : t.Owned s lister) :
    ∀ {pieces : List Piece}, s.Segment setup selector t.id pieces →
      ∀ seen, Store.Opened selector lister seen → Piece.InOrder s seen pieces := by
  induction h with
  | @node lister i ts parent children _ ih =>
    rintro _ (⟨_, hinner, _⟩) seen hseen
    rw [Tree.id, ← children, List.forall₂_map_left_iff] at hinner
    have hsub := Store.inOrder_of_segments (((List.forall₂_and_left ..).2 ⟨ih, hinner⟩).imp fun _ _ h => h.1 h.2)
    rw [Tree.id]
    simp only [Piece.inOrder_append]
    refine ⟨⟨⟨⟨⟨?before, ?style⟩, ?definition⟩, ?inner⟩, ?use⟩, ?after⟩
    case before => exact Piece.inOrder_map (by intros; trivial) _ _
    case style => exact Piece.inOrder_map (by intros; trivial) _ _
    case definition =>
      -- the parent is the lister, and its selector is the scope
      refine ⟨fun p hp => ?_, trivial⟩
      rw [Store.scope, hp]
      obtain ⟨n, outer, hn⟩ := hseen p (parent.symm.trans hp)
      exact ⟨n, outer, by simp [hn]⟩
    case inner =>
      -- the node itself has just been defined, which is all that its subtrees wait for
      refine hsub _ fun p hp => ?_
      cases hp
      exact ⟨s.node i, s.scope setup selector i, by simp⟩
    case use =>
      refine Piece.inOrder_of_ready fun x hx => ?_
      obtain ⟨literal, hliteral, rfl⟩ := List.mem_map.1 hx
      exact ⟨s.scope setup selector i, literal, by simp [Store.stylePieces, Option.mem_toList.1 hliteral]⟩
    case after => exact Piece.inOrder_map (by intros; trivial) _ _

/-! ## The bindings of a segment -/

/-- Apart from hooks only definitions bring bindings. -/
theorem Piece.bindings_of_definitions : ∀ pieces : List Piece,
    (pieces.filter fun x => !x.isHook).flatMap (·.program.bindings) =
      (pieces.filter isDefinition).flatMap (·.program.bindings)
  | [] => rfl
  | x :: xs => by
    have ih := bindings_of_definitions xs
    cases x with
    | definition i n scope selector => exact congrArg (n.bindings selector ++ ·) ih
    | style => exact ih
    | use => exact ih
    | before => exact ih
    | after => exact ih

/-! ## Programs -/

namespace Program

/-- A program is the base file if one is named, what the blocks add, and a segment for each root. -/
structure LaidOut (p : Program) (s : Store) (setup : Setup) (selector : NodeId → String) (roots : List NodeId)
    (blocks : List Block) (baseFile : Option String) (segments : List (List Piece)) : Prop where
  segment : List.Forall₂ (s.Segment setup selector) roots segments
  program : ∃ edits, List.Forall₂ (fun block added => block = .ok added) blocks edits ∧
    p = .ofCommands ((baseFile.filter (· ≠ "")).toList.map .load) ++ .concat edits ++ .ofPieces segments.flatten

end Program

/-- The pieces of some roots define every node below them once, in document order and in the element of its
parent, which is the node that lists it, with the bindings of its listeners. -/
structure Store.WellNested (s : Store) (setup : Setup) (selector : NodeId → String) (roots : List NodeId)
    (pieces : List Piece) : Prop where
  owned : ∀ t ∈ s.forest roots, t.Owned s none
  once : ((s.walk roots).map Prod.fst).Nodup
  definitions : pieces.filter Piece.isDefinition = s.definitions setup selector (s.walk roots)
  ready : ∀ pre x post, pieces = pre ++ x :: post → x.Ready s pre
  bindings : (pieces.filter fun x => !x.isHook).flatMap (·.program.bindings) =
    (s.walk roots).flatMap fun n => n.2.bindings (selector n.1)

theorem loadBase_eq (baseFile : Option String) :
    loadBase baseFile = .ofCommands ((baseFile.filter (· ≠ "")).toList.map .load) := by
  cases baseFile with
  | none => rfl
  | some path =>
    by_cases hpath : path = ""
    · subst hpath
      rfl
    · have hempty : path.isEmpty = false := by simpa [String.isEmpty_iff] using hpath
      simp [loadBase, hempty, hpath, Option.filter]

/-- What the segments of trees are like holds of the segments of their roots. -/
theorem Store.forall_segments {s : Store} {setup : Setup} {selector : NodeId → String} {roots : List NodeId}
    {segments : List (List Piece)} (h : List.Forall₂ (s.Segment setup selector) roots segments)
    {Q : Tree → List Piece → Prop} (hQ : ∀ t ∈ s.forest roots, ∀ pieces, s.Segment setup selector t.id pieces →
      Q t pieces) : List.Forall₂ Q (s.forest roots) segments := by
  have hforest : List.Forall₂ (fun t => s.Segment setup selector t.id) (s.forest roots) segments := by
    rw [forest, List.forall₂_map_left_iff]
    simpa only [id_tree] using h
  exact ((List.forall₂_and_left ..).2 ⟨hQ, hforest⟩).imp fun _ _ h => h.1 _ h.2

/-- Emission lays a program out. -/
theorem emit_laidOut {s : Store} {setup : Setup} {selector : NodeId → String} {roots : List NodeId}
    (ho : ∀ t ∈ s.forest roots, t.Owned s none) (hs : s.Selects setup roots selector) {blocks : List Block}
    {baseFile : Option String} {p : Program} (h : emit setup (s.forest roots) blocks baseFile = .ok p) :
    ∃ segments, p.LaidOut s setup selector roots blocks baseFile segments := by
  obtain ⟨q, hq, h⟩ := bind_eq_ok h
  obtain ⟨⟨q', names⟩, hq', h⟩ := bind_eq_ok h
  cases h
  obtain ⟨edits, hedits, rfl⟩ := runBlocks_ok hq
  obtain ⟨segments, hsegments, rfl⟩ := segments_of_emitAll (R := fun t => s.Segment setup selector t.id)
    (fun t ht names p names' he => (ho t ht).segment_of_emit
      (fun n hn => hs n (mem_flattenAll.2 ⟨t, ht, hn⟩)) he) hq'
  refine ⟨segments, ?_, edits, hedits, by rw [loadBase_eq]⟩
  rw [Store.forest, List.forall₂_map_left_iff] at hsegments
  simpa only [Store.id_tree] using hsegments

/-- Segments of prepared trees are well nested. -/
theorem Store.Prepared.wellNested {s : Store} {setup : Setup} {selector : NodeId → String} {roots : List NodeId}
    (hp : s.Prepared roots) (ho : ∀ t ∈ s.forest roots, t.Owned s none) {segments : List (List Piece)}
    (h : List.Forall₂ (s.Segment setup selector) roots segments) :
    s.WellNested setup selector roots segments.flatten := by
  have hdefinitions : segments.flatten.filter Piece.isDefinition = s.definitions setup selector (s.walk roots) :=
    definitions_of_segments (forall_segments h fun t ht _ hs => (ho t ht).definitions_of_segment hs)
  refine ⟨ho, hp.nodup_walk, hdefinitions, ?_, ?_⟩
  · rintro pre x post hpieces
    have horder := inOrder_of_segments (forall_segments h fun t ht _ hs => (ho t ht).inOrder_of_segment hs) []
      (by rintro _ ⟨⟩)
    rw [hpieces] at horder
    exact horder.ready
  · rw [Piece.bindings_of_definitions, hdefinitions, Store.definitions, List.flatMap_map]
    rfl

/-- A program of prepared trees is laid out in segments that are well nested. -/
theorem emit_wellNested {s s' : Store} {roots : List NodeId} (hc : s.Closed) (hr : ∀ i ∈ roots, i < s.size)
    (hp : (prepare roots).run s = (.ok (), s')) {setup : Setup} {blocks : List Block} {baseFile : Option String}
    {p : Program} (h : emit setup (s'.forest roots) blocks baseFile = .ok p) :
    ∃ selector segments, s'.Selects setup roots selector ∧
      p.LaidOut s' setup selector roots blocks baseFile segments ∧
      s'.WellNested setup selector roots segments.flatten := by
  have hprepared := prepared_of_ok hc hr hp
  have howned := owned_of_ok hc hr hp
  obtain ⟨selector, hselects⟩ := hprepared.exists_selects howned setup
  obtain ⟨segments, hlaidOut⟩ := emit_laidOut howned hselects h
  exact ⟨selector, segments, hselects, hlaidOut, hprepared.wellNested howned hlaidOut.segment⟩

/-- A panel with a styled button, which has a listener and hooks on both sides, and a label after it. -/
def panel (parent : Option NodeId) : Store := ⟨#[
  { kind := .group, internalId := some "Panel", children := [1, 2] },
  { kind := .button, internalId := some "Go", parent,
    style := some (Bag.ofList [(.default, { background := some "#000000" })]),
    listeners := [⟨.activating, ⟨0, fun _ _ => .done⟩⟩],
    before := [.custom fun selector => .ok (.ofCommands [.load selector])], after := [.assign "Focus" "true"] },
  { kind := .label, internalId := some "Word", parent }]⟩

/-- The panel after a base file and a block. -/
theorem emit_wellNested_panel :
    (panel none).Closed ∧ (∀ i ∈ [0], i < (panel none).size) ∧
    (prepare [0]).run (panel none) = (.ok (), panel (some 0)) ∧
    ∃ p, emit {} ((panel (some 0)).forest [0]) [.ok (.ofCommands [.assign "@Rows" "3"])] (some "Hud.ui") = .ok p ∧
      ∃ selector segments, (panel (some 0)).Selects {} [0] selector ∧
        p.LaidOut (panel (some 0)) {} selector [0] [.ok (.ofCommands [.assign "@Rows" "3"])] (some "Hud.ui") segments ∧
        (panel (some 0)).WellNested {} selector [0] segments.flatten := by
  have hc : (panel none).Closed := Store.closed_of_nodes (by decide)
  have hr : ∀ i ∈ [0], i < (panel none).size := by decide
  have hp : (prepare [0]).run (panel none) = (.ok (), panel (some 0)) := by
    have hcollect : collect (panel none) [(0, none)] [] = .ok [0, 1, 2] := by simp [collect, panel, Store.node]
    have hcheck : checkIds (((panel none).listed [0, 1, 2]).map Prod.snd) [] [] = .ok ["Word", "Go", "Panel"] := by
      decide +kernel
    exact run_prepare_of_ok hcollect hcheck
  have he : (emit {} ((panel (some 0)).forest [0]) [.ok (.ofCommands [.assign "@Rows" "3"])] (some "Hud.ui")).toBool =
      true := by decide +kernel
  cases h : emit {} ((panel (some 0)).forest [0]) [.ok (.ofCommands [.assign "@Rows" "3"])] (some "Hud.ui") with
  | error f =>
    rw [h] at he
    cases he
  | ok p => exact ⟨hc, hr, hp, p, rfl, emit_wellNested hc hr hp h⟩

end Overlay
