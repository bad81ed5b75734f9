/-
Deeds: what client code does with nodes, with an interface, and with other interfaces of the host, one step after
another, each going through or failing. A step keeps the store; what it appends to lists comes to all nodes that hold
them, and besides that no list changes.
-/
import Overlay.Proofs.Element.Coherent
import Overlay.Proofs.Style.Sealed

namespace Overlay

/-! ## Deeds -/

/-- A value for a field that a seal leaves open. -/
inductive OpenField where
  | visible (b : Bool)
  | text (s : String)
  | tooltip (s : String)
  | flexWeight (n : Int)
  | layoutMode (mode : String)
  | style (s : Style)
  | anchor (a : Anchor)
  | value (v : Option Value)

/-- Sets the field of a node. -/
def OpenField.assign (i : NodeId) : OpenField → Edit Unit
  | visible b => Edit.setVisible i b
  | text s => Edit.setText i s
  | tooltip s => Edit.setTooltip i s
  | flexWeight n => Edit.setFlexWeight i n
  | layoutMode mode => Edit.setLayoutMode i mode
  | style s => Edit.setStyle i s
  | anchor a => Edit.setAnchor i a
  | value v => Edit.setValue i v

/-- What client code does with nodes. -/
inductive Handling where
  | create (n : Node)
  | assign (i : NodeId) (field : OpenField)
  | setUserId (i : NodeId) (id : String)
  | addChild (parent child : NodeId)
  | listen (i : NodeId) (event : EventKind) (callback : Callback)
  | hookBefore (i : NodeId) (h : Hook)
  | hookAfter (i : NodeId) (h : Hook)
  | sealTree (i : NodeId)
  | prepare (roots : List NodeId)
  | applyStyles (i : NodeId) (properties : Properties)
  /-- A new interface. -/
  | start (settings : Settings) (pushes : Bool) (elements : Option (List NodeId)) (blocks : List Block)
    (baseFile : Option String)

namespace Handling

/-- Children to be are nodes of the store, and so are the nodes whose lists a new node takes over. -/
def Names (s : Store) : Handling → Prop
  | create n => s.Offers n
  | addChild _ child => child < s.size
  | _ => True

/-- The world after a handling, whether it went through or failed. -/
def after (w : World) : Handling → World
  | create n => ((Act.ofEdit (Edit.create n)).run w).2
  | assign i field => ((Act.ofEdit (field.assign i)).run w).2
  | setUserId i id => ((Act.ofEdit (Edit.setUserId i id)).run w).2
  | addChild parent child => ((Act.ofEdit (Edit.addChild parent child)).run w).2
  | listen i event callback => ((Act.ofEdit (Edit.listen i event callback)).run w).2
  | hookBefore i h => ((Act.ofEdit (Edit.hookBefore i h)).run w).2
  | hookAfter i h => ((Act.ofEdit (Edit.hookAfter i h)).run w).2
  | sealTree i => ((Act.ofEdit (Edit.sealTree i)).run w).2
  | prepare roots => ((Act.ofEdit (Overlay.prepare roots)).run w).2
  | applyStyles i properties => ((Act.applyStyles i properties).run w).2
  | start settings pushes elements blocks baseFile =>
    ((Interface.start settings pushes elements blocks baseFile).run w).2

end Handling

/-- What an interface gives back. -/
inductive Answer where
  | program (p : Program)
  | dispatches (made : List Dispatch)

/-- What can be asked of an interface that keeps its trees; showing and hiding set the visibility. -/
inductive Request where
  | build
  | handleEvent (depth : Nat) (p : Payload)
  | setVisibility (visible : Bool)

def Request.run : Request → Operation Answer
  | build => return .program (← Operation.build)
  | handleEvent depth p => return .dispatches (← Operation.handleEvent depth p)
  | setVisibility visible => return .program (← Operation.setVisibility visible)

/-- One thing that client code does. -/
inductive Deed where
  | handling (h : Handling)
  | request (r : Request)
  | update (elements : Option (List NodeId)) (blocks : List Block) (baseFile : Option String)

namespace Deed

/-- The nodes that a deed takes for children, for elements or for their lists are in the store. -/
def Names (s : Store) : Deed → Prop
  | handling h => h.Names s
  | request _ => True
  | update elements _ _ => ∀ roots, elements = some roots → ∀ i ∈ roots, i < s.size

/-- The state after a deed, whether it went through or failed. -/
def after (l : Live) : Deed → Live
  | handling h => { l with world := h.after l.world }
  | request r => (r.run.run l).2
  | update elements blocks baseFile => ((Operation.update elements blocks baseFile).run l).2

/-- Whether a deed puts new trees into the interface. -/
def Replaces (l : Live) : Deed → Prop
  | update elements blocks baseFile => ∃ p, ((Operation.update elements blocks baseFile).run l).1 = .ok p
  | _ => False

end Deed

/-- The state after a deed with another interface of the host. -/
def Live.afterElsewhere (l : Live) (other : Interface) (d : Deed) : Live :=
  { l with world := (d.after ⟨l.world, other⟩).world }

/-! ## Steps -/

namespace Live

/-- One thing that happens: a deed with the interface, or with another one of the host. -/
inductive Step where
  | own (d : Deed)
  | elsewhere (other : Interface) (d : Deed)

namespace Step

/-- The nodes that a step takes for children, for elements or for their lists are in the store. -/
def Names (s : Store) : Step → Prop
  | own d => d.Names s
  | elsewhere _ d => d.Names s

/-- The state after a step, whether its deed went through or failed. -/
def after (l : Live) : Step → Live
  | own d => d.after l
  | elsewhere other d => l.afterElsewhere other d

/-- Whether a step puts new trees into the interface. -/
def Replaces (l : Live) : Step → Prop
  | own d => d.Replaces l
  | elsewhere _ _ => False

end Step

/-- The state after some steps. -/
def afterSteps (l : Live) (ss : List Step) : Live := ss.foldl Step.after l

/-- Steps over nodes that are there, one after another. -/
def AllNamed : Live → List Step → Prop
  | _, [] => True
  | l, st :: ss => st.Names l.world.store ∧ AllNamed (st.after l) ss

theorem afterSteps_concat (l : Live) (ss : List Step) (st : Step) :
    l.afterSteps (ss ++ [st]) = st.after (l.afterSteps ss) := by
  simp [afterSteps]

theorem allNamed_append : ∀ {l : Live} {ss ts : List Step},
    l.AllNamed (ss ++ ts) ↔ l.AllNamed ss ∧ (l.afterSteps ss).AllNamed ts
  | _, [], _ => by simp [AllNamed, afterSteps]
  | l, st :: ss, ts => by
    simp only [List.cons_append, AllNamed, afterSteps, List.foldl_cons, and_assoc]
    rw [allNamed_append]
    rfl

end Live

/-! ## What deeds keep -/

/-- A world whose store is kept. -/
def World.Keeps (w w' : World) : Prop := w.store.Keeps w'.store

instance : IsPreorder World World.Keeps where
  refl w := refl w.store
  trans _ _ _ h h' := IsTrans.trans (r := Store.Keeps) _ _ _ h h'

namespace Act

theorem ofEdit_store {α : Type} (e : Edit α) (w : World) : ((ofEdit e).run w).2.store = (e.run w.store).2 := by
  rw [run_ofEdit]
  rcases e.run w.store with ⟨v | a, s⟩ <;> rfl

theorem ofEdit_keeps {α : Type} {e : Edit α} (h : Moves Store.Keeps e) : Moves World.Keeps (ofEdit e) := by
  intro w
  unfold World.Keeps
  rw [ofEdit_store]
  exact h w.store

theorem report_keeps (r : Report) : Moves World.Keeps (report r) := fun w => refl w.store

/-- Applying styles keeps what its reports and its restyling keep. -/
theorem applyStyles_moves {R : World → World → Prop} [IsPreorder World R] (hreport : ∀ r, Moves R (report r))
    (i : NodeId) (properties : Properties) (hrestyle : ∀ r, Moves R (ofEdit (Edit.restyle i r))) :
    Moves R (applyStyles i properties) := by
  have hdrops : ∀ (kind : Kind) (drops : List Drop), Moves R (reportDrops kind drops) :=
    fun _ drops => .forM drops fun _ _ => hreport _
  refine .bind (fun w => refl w) fun s => ?_
  dsimp only
  rcases resolve (s.node i).kind properties with stop | r
  · exact .bind (hdrops _ _) fun _ => .of_throw _
  · refine .bind (hdrops _ _) fun _ => ?_
    exact .bind (hrestyle r) fun _ => .of_pure _

theorem applyStyles_keeps (i : NodeId) (properties : Properties) : Moves World.Keeps (applyStyles i properties) :=
  applyStyles_moves report_keeps i properties fun r => ofEdit_keeps (Edit.restyle_keeps i r)

end Act

theorem OpenField.assign_keeps (i : NodeId) (field : OpenField) : Moves Store.Keeps (field.assign i) := by
  cases field <;> exact Edit.change_keeps (fun _ => rfl) fun _ => rfl

/-- Starting an interface is an installation and then a look at the store. -/
theorem Interface.run_start (settings : Settings) (pushes : Bool) (elements : Option (List NodeId))
    (blocks : List Block) (baseFile : Option String) (w : World) :
    (start settings pushes elements blocks baseFile).run w = match (installTree elements).run w.store with
      | (.error v, s) => (.error (.violation v), { w with store := s })
      | (.ok roots, s) => (.ok {
          settings, elements := roots, blocks, pushes
          baseFile := baseFile <|> settings.baseFile
          hidden := markerHidden s roots settings.markerId }, { w with store := s }) := by
  unfold start
  rw [run_bind, Act.run_ofEdit]
  rcases (installTree elements).run w.store with ⟨v | roots, s⟩ <;> rfl

theorem Interface.start_keeps (settings : Settings) (pushes : Bool) (elements : Option (List NodeId))
    (blocks : List Block) (baseFile : Option String) :
    Moves World.Keeps (start settings pushes elements blocks baseFile) := by
  intro w
  have hf := (filledIn_installTree elements w.store).keeps
  rw [run_start]
  rcases hi : (installTree elements).run w.store with ⟨v | roots, s⟩ <;> rw [hi] at hf <;> exact hf

theorem Handling.keeps {h : Handling} {w : World} (hn : h.Names w.store) : w.Keeps (h.after w) := by
  -- creating and attaching keep a store only where the children are there; all else keeps any store
  cases h with
  | create n =>
    show w.store.Keeps _
    rw [after, Act.ofEdit_store]
    exact Edit.create_keeps hn.children
  | assign i field => exact Act.ofEdit_keeps (OpenField.assign_keeps i field) w
  | setUserId i id => exact Act.ofEdit_keeps (Edit.setUserId_keeps i id) w
  | addChild parent child =>
    show w.store.Keeps _
    rw [after, Act.ofEdit_store]
    exact Edit.addChild_keeps parent hn
  | listen i event callback => exact Act.ofEdit_keeps (Edit.listen_keeps i event callback) w
  | hookBefore i hook => exact Act.ofEdit_keeps (Edit.hookBefore_keeps i hook) w
  | hookAfter i hook => exact Act.ofEdit_keeps (Edit.hookAfter_keeps i hook) w
  | sealTree i => exact Act.ofEdit_keeps (Edit.sealTree_keeps i) w
  | prepare roots => exact Act.ofEdit_keeps (filledIn_prepare roots).keeps w
  | applyStyles i properties => exact Act.applyStyles_keeps i properties w
  | start settings pushes elements blocks baseFile =>
    exact Interface.start_keeps settings pushes elements blocks baseFile w

/-- A request runs its operation and wraps what that gives. -/
theorem Request.run_eq (r : Request) (l : Live) :
    r.run.run l = match r with
      | build => ((Operation.build.run l).1.map .program, (Operation.build.run l).2)
      | handleEvent depth p =>
        (((Operation.handleEvent depth p).run l).1.map .dispatches, ((Operation.handleEvent depth p).run l).2)
      | setVisibility visible =>
        (((Operation.setVisibility visible).run l).1.map .program, ((Operation.setVisibility visible).run l).2) := by
  cases r with
  | build =>
    simp only [run, run_bind]
    rcases Operation.build.run l with ⟨f | p, l'⟩ <;> rfl
  | handleEvent depth p =>
    simp only [run, run_bind]
    rcases (Operation.handleEvent depth p).run l with ⟨f | made, l'⟩ <;> rfl
  | setVisibility visible =>
    simp only [run, run_bind]
    rcases (Operation.setVisibility visible).run l with ⟨f | p, l'⟩ <;> rfl

theorem Request.keeps (r : Request) (l : Live) : l.world.store.Keeps (r.run.run l).2.world.store := by
  rw [run_eq]
  cases r with
  | build => exact Operation.build_store l ▸ refl _
  | handleEvent depth p => exact Operation.handleEvent_store depth p l ▸ refl _
  | setVisibility visible =>
    dsimp only
    rw [Operation.setVisibility_store]
    rcases l.marker? with _ | i
    · exact refl _
    · exact OpenField.assign_keeps i (.visible visible) l.world.store

theorem Deed.keeps {d : Deed} {l : Live} (hn : d.Names l.world.store) :
    l.world.store.Keeps (d.after l).world.store := by
  cases d with
  | handling h => exact Handling.keeps hn
  | request r => exact r.keeps l
  | update elements blocks baseFile => exact (Operation.update_filledIn elements blocks baseFile l).keeps

theorem Live.Step.keeps {st : Step} {l : Live} (hn : st.Names l.world.store) :
    l.world.store.Keeps (st.after l).world.store := by
  cases st with
  | own d => exact Deed.keeps hn
  | elsewhere other d => exact Deed.keeps (l := ⟨l.world, other⟩) hn

/-! ## What deeds append -/

/-- Additions to a node, unless it is sealed. -/
def Store.unlessSealed (s : Store) (i : NodeId) (xs : List (NodeId × Item)) : List (NodeId × Item) :=
  if (s.node i).isSealed then [] else xs

namespace Handling

/-- What a handling appends, and to a list of which node. -/
def appended (w : World) : Handling → List (NodeId × Item)
  | addChild parent child =>
    if ((Edit.addChild parent child).run w.store).1.isOk then [(parent, .child child)] else []
  | listen i event callback => w.store.unlessSealed i [(i, .listener ⟨event, callback⟩)]
  | hookBefore i h => w.store.unlessSealed i [(i, .hook .before h)]
  | hookAfter i h => w.store.unlessSealed i [(i, .hook .after h)]
  | applyStyles i properties => match resolve (w.store.node i).kind properties with
    | .ok r => w.store.unlessSealed i (r.items i)
    | .error _ => []
  | _ => []

theorem receives (h : Handling) (w : World) : w.store.Receives (h.after w).store (h.appended w) := by
  have hedit : ∀ {α : Type} {e : Edit α} {xs : List (NodeId × Item)}, w.store.Receives (e.run w.store).2 xs →
      w.store.Receives ((Act.ofEdit e).run w).2.store xs := by
    intro α e xs he
    rw [Act.ofEdit_store]
    exact he
  cases h with
  | create n => exact hedit (Edit.create_receives n w.store)
  | assign i field => exact hedit (by cases field <;> exact .update fun _ => rfl)
  | setUserId i id => exact hedit (Edit.setUserId_receives i id w.store)
  | addChild parent child => exact hedit (Edit.addChild_receives parent child w.store)
  | listen i event callback => exact hedit (Edit.append_receives i _ w.store)
  | hookBefore i hook => exact hedit (Edit.append_receives i _ w.store)
  | hookAfter i hook => exact hedit (Edit.append_receives i _ w.store)
  | sealTree i => exact hedit (Edit.sealTree_receives i w.store)
  | prepare roots => exact hedit (filledIn_prepare roots w.store).receives
  | applyStyles i properties =>
    dsimp only [after, appended]
    rcases hr : resolve (w.store.node i).kind properties with stop | r
    · rw [(Act.applyStyles_of_interrupted hr).2]
      exact .refl w.store
    · rw [(Act.applyStyles_of_resolved hr).2]
      exact Edit.restyle_receives i r w.store
  | start settings pushes elements blocks baseFile =>
    have hinstall := filledIn_installTree elements w.store
    rw [after, Interface.run_start]
    rcases hi : (installTree elements).run w.store with ⟨v | roots, s⟩ <;> rw [hi] at hinstall <;>
      exact hinstall.receives

/-- Only an attachment appends a child. -/
theorem eq_addChild_of_appended {w : World} {p c : NodeId} : ∀ {h : Handling}, (p, .child c) ∈ h.appended w →
    ∃ parent child, h = addChild parent child
  | addChild parent child, _ => ⟨parent, child, rfl⟩
  | listen i event callback, h => by
    have hmem : (p, Item.child c) ∈ w.store.unlessSealed i [(i, .listener ⟨event, callback⟩)] := h
    unfold Store.unlessSealed at hmem
    split at hmem <;> simp at hmem
  | hookBefore i hook, h => by
    have hmem : (p, Item.child c) ∈ w.store.unlessSealed i [(i, .hook .before hook)] := h
    unfold Store.unlessSealed at hmem
    split at hmem <;> simp at hmem
  | hookAfter i hook, h => by
    have hmem : (p, Item.child c) ∈ w.store.unlessSealed i [(i, .hook .after hook)] := h
    unfold Store.unlessSealed at hmem
    split at hmem <;> simp at hmem
  | applyStyles i properties, h => by
    dsimp only [appended] at h
    split at h
    · unfold Store.unlessSealed Resolution.items at h
      split at h <;> simp at h
    · cases h
  | create _, h => by cases h
  | assign _ _, h => by cases h
  | setUserId _ _, h => by cases h
  | sealTree _, h => by cases h
  | prepare _, h => by cases h
  | start .., h => by cases h

end Handling

namespace Deed

/-- What a deed appends; operations on the interface append nothing. -/
def appended (l : Live) : Deed → List (NodeId × Item)
  | handling h => h.appended l.world
  | _ => []

theorem receives (d : Deed) (l : Live) : l.world.store.Receives (d.after l).world.store (d.appended l) := by
  cases d with
  | handling h => exact h.receives l.world
  | request r =>
    show l.world.store.Receives (r.run.run l).2.world.store []
    rw [Request.run_eq]
    cases r with
    | build => exact Operation.build_store l ▸ .refl _
    | handleEvent depth p => exact Operation.handleEvent_store depth p l ▸ .refl _
    | setVisibility visible =>
      dsimp only
      rw [Operation.setVisibility_store]
      rcases l.marker? with _ | i
      · exact .refl _
      · exact .update fun _ => rfl
  | update elements blocks baseFile => exact (Operation.update_filledIn elements blocks baseFile l).receives

end Deed

namespace Live.Step

/-- What a step appends, and to a list of which node. -/
def appended (l : Live) : Step → List (NodeId × Item)
  | own d => d.appended l
  | elsewhere other d => d.appended ⟨l.world, other⟩

variable {l : Live} {st : Step}

theorem receives (st : Step) (l : Live) : l.world.store.Receives (st.after l).world.store (st.appended l) := by
  cases st with
  | own d => exact d.receives l
  | elsewhere other d => exact d.receives ⟨l.world, other⟩

/-- A step that appends a child is an attachment that goes through. -/
theorem attach_of_appended {p c : NodeId} (h : (p, .child c) ∈ st.appended l) :
    (st.after l).world.store = l.world.store.attach p c ∧ ¬ (l.world.store.node p).isSealed ∧
      (st.Names l.world.store → c < l.world.store.size) := by
  have hdeed : ∀ {l : Live} {d : Deed}, (p, .child c) ∈ d.appended l →
      (d.after l).world.store = l.world.store.attach p c ∧ ¬ (l.world.store.node p).isSealed ∧
        (d.Names l.world.store → c < l.world.store.size) := by
    intro l d h
    match d with
    | .request _ => cases h
    | .update .. => cases h
    | .handling handling =>
      obtain ⟨parent, child, rfl⟩ := Handling.eq_addChild_of_appended h
      have hrun := Edit.run_addChild parent child l.world.store
      have hok : (p, Item.child c) ∈ if ((Edit.addChild parent child).run l.world.store).1.isOk then
        [(parent, Item.child child)] else [] := h
      show ((Act.ofEdit (Edit.addChild parent child)).run l.world).2.store = _ ∧ _
      rw [Act.ofEdit_store]
      split at hrun
      · rw [hrun] at hok
        cases hok
      rename_i hopen
      split at hrun
      · rw [hrun] at hok
        cases hok
      split at hrun
      · rw [hrun] at hok
        cases hok
      rw [hrun] at hok ⊢
      cases List.mem_singleton.1 hok
      exact ⟨rfl, hopen, id⟩
  cases st with
  | own d => exact hdeed h
  | elsewhere other d => exact hdeed h

end Live.Step

/-- A world in which the lists are coherent if they were. -/
def World.KeepsCoherent (w w' : World) : Prop := w.store.KeepsCoherent w'.store

instance : IsPreorder World World.KeepsCoherent where
  refl w := refl w.store
  trans _ _ _ h h' := IsTrans.trans (r := Store.KeepsCoherent) _ _ _ h h'

theorem Handling.keepsCoherent {h : Handling} {w : World} (hn : h.Names w.store) : w.KeepsCoherent (h.after w) := by
  have hedit : ∀ {α : Type} {e : Edit α}, w.store.KeepsCoherent (e.run w.store).2 →
      w.KeepsCoherent ((Act.ofEdit e).run w).2 := by
    intro α e he
    unfold World.KeepsCoherent
    rw [Act.ofEdit_store]
    exact he
  cases h with
  | create n => exact hedit (.create hn)
  | assign i field => exact hedit (by cases field <;> exact .update (fun _ => rfl) fun _ => rfl)
  | setUserId i id => exact hedit (Edit.setUserId_keepsCoherent i id w.store)
  | addChild parent child => exact hedit (Edit.addChild_keepsCoherent parent child w.store)
  | listen i event callback => exact hedit (Edit.append_keepsCoherent i _ w.store)
  | hookBefore i hook => exact hedit (Edit.append_keepsCoherent i _ w.store)
  | hookAfter i hook => exact hedit (Edit.append_keepsCoherent i _ w.store)
  | sealTree i => exact hedit (Edit.sealTree_keepsCoherent i w.store)
  | prepare roots => exact hedit (filledIn_prepare roots w.store).keepsCoherent
  | applyStyles i properties =>
    dsimp only [World.KeepsCoherent, after]
    rcases hr : resolve (w.store.node i).kind properties with stop | r
    · rw [(Act.applyStyles_of_interrupted hr).2]
      exact refl w.store
    · rw [(Act.applyStyles_of_resolved hr).2]
      exact Edit.restyle_keepsCoherent i r w.store
  | start settings pushes elements blocks baseFile =>
    have hinstall := filledIn_installTree elements w.store
    rw [after, Interface.run_start]
    rcases hi : (installTree elements).run w.store with ⟨v | roots, s⟩ <;> rw [hi] at hinstall <;>
      exact hinstall.keepsCoherent

theorem Deed.keepsCoherent {d : Deed} {l : Live} (hn : d.Names l.world.store) :
    l.world.store.KeepsCoherent (d.after l).world.store := by
  cases d with
  | handling h => exact Handling.keepsCoherent hn
  | request r =>
    show l.world.store.KeepsCoherent (r.run.run l).2.world.store
    rw [Request.run_eq]
    cases r with
    | build => exact Operation.build_store l ▸ refl _
    | handleEvent depth p => exact Operation.handleEvent_store depth p l ▸ refl _
    | setVisibility visible =>
      dsimp only
      rw [Operation.setVisibility_store]
      rcases l.marker? with _ | i
      · exact refl _
      · exact .update (fun _ => rfl) fun _ => rfl
  | update elements blocks baseFile => exact (Operation.update_filledIn elements blocks baseFile l).keepsCoherent

theorem Live.Step.keepsCoherent {st : Step} {l : Live} (hn : st.Names l.world.store) :
    l.world.store.KeepsCoherent (st.after l).world.store := by
  cases st with
  | own d => exact Deed.keepsCoherent hn
  | elsewhere other d => exact Deed.keepsCoherent (l := ⟨l.world, other⟩) hn

/-- Over any steps, nodes that hold one list find the same in it. -/
theorem Live.AllNamed.coherent {l : Live} {ss : List Step} (hn : l.AllNamed ss) (h : l.world.store.Coherent) :
    (l.afterSteps ss).world.store.Coherent := by
  induction ss generalizing l with
  | nil => exact h
  | cons st ss ih => exact ih hn.2 (Step.keepsCoherent hn.1 h)

/-- From elements that came with lists of their own, however lists are passed on by the steps. -/
theorem Live.AllNamed.coherent_of_own {l : Live} {ss : List Step} (hn : l.AllNamed ss)
    (h : ∀ i < l.world.store.size, (l.world.store.node i).lists = {}) : (l.afterSteps ss).world.store.Coherent :=
  hn.coherent (.of_own h)

end Overlay
