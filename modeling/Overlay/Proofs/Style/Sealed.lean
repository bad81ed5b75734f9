/-
Restyling nodes of built interfaces. The fields of a resolution come before its edits, and a seal refuses only the
edits. So a restyling that fails leaves the node as it was exactly if the node has had these fields before.
-/
import Overlay.Proofs.Program.Styled
import Overlay.Proofs.Style.Reported

namespace Overlay

/-! ## Fields that are there already -/

/-- A node on which the fields of a resolution are already. -/
structure Node.Wears (n : Node) (r : Resolution) : Prop where
  style : ∀ style, r.style = some style → n.style = some style
  anchor : ∀ anchor, r.anchor = some anchor → n.anchor = some anchor
  visible : ∀ visible, r.visible = some visible → n.visible = visible
  flexWeight : ∀ weight, r.flexWeight = some weight → n.flexWeight = some weight
  layoutMode : ∀ mode, r.layoutMode = some mode → n.layoutMode = some mode

theorem or_eq_right_iff {α : Type} {v w : Option α} : v.or w = w ↔ ∀ a, v = some a → w = some a := by
  rcases v with _ | a
  · exact iff_of_true rfl nofun
  · constructor
    · rintro h _ ⟨⟩
      exact h.symm
    · intro h
      exact (h a rfl).symm

theorem Node.styled_fields_eq_iff {n : Node} {r : Resolution} : n.styled r.fields = n ↔ n.Wears r := by
  have hvisible : r.visible.getD n.visible = n.visible ↔ ∀ visible, r.visible = some visible → n.visible = visible := by
    rcases r.visible with _ | b
    · exact iff_of_true rfl nofun
    · constructor
      · rintro h _ ⟨⟩
        exact h.symm
      · intro h
        exact (h b rfl).symm
  constructor
  · intro h
    constructor
    · exact or_eq_right_iff.1 (congrArg Node.style h)
    · exact or_eq_right_iff.1 (congrArg Node.anchor h)
    · exact hvisible.1 (congrArg Node.visible h)
    · exact or_eq_right_iff.1 (congrArg Node.flexWeight h)
    · exact or_eq_right_iff.1 (congrArg Node.layoutMode h)
  · rintro ⟨hstyle, hanchor, hvis, hweight, hmode⟩
    have hafter : n.after ++ editHooks r.fields.edits = n.after := List.append_nil _
    unfold styled
    rw [hafter, show r.fields.style.or n.style = n.style from or_eq_right_iff.2 hstyle,
      show r.fields.anchor.or n.anchor = n.anchor from or_eq_right_iff.2 hanchor,
      show r.fields.visible.getD n.visible = n.visible from hvisible.2 hvis,
      show r.fields.flexWeight.or n.flexWeight = n.flexWeight from or_eq_right_iff.2 hweight,
      show r.fields.layoutMode.or n.layoutMode = n.layoutMode from or_eq_right_iff.2 hmode]

/-! ## Restyling a sealed node -/

namespace Edit

variable {s : Store} {i : NodeId}

/-- An edit that leaves a node as it was if it fails. -/
def AtomicOn {α : Type} (e : Edit α) (i : NodeId) (s : Store) : Prop :=
  ∀ v, (e.run s).1 = .error v → (e.run s).2.node i = s.node i

theorem restyle_error_iff {r : Resolution} {v : Violation} : ((restyle i r).run s).1 = .error v ↔
    (s.node i).isSealed ∧ r.edits ≠ [] ∧ v = .sealedNode (s.node i).label := by
  by_cases hsealed : (s.node i).isSealed
  · by_cases hnil : r.edits = []
    · rw [run_restyle_no_edits hnil]
      exact iff_of_false nofun fun h => h.2.1 hnil
    · rw [run_restyle_sealed hsealed hnil]
      constructor
      · rintro ⟨⟩
        exact ⟨hsealed, hnil, rfl⟩
      · rintro ⟨-, -, rfl⟩
        rfl
  · rw [run_restyle r hsealed]
    exact iff_of_false nofun fun h => hsealed h.1

/-- What a restyling that fails has done: the fields of the resolution are on the node. -/
theorem restyle_of_error {r : Resolution} {v : Violation} (h : ((restyle i r).run s).1 = .error v) :
    ((restyle i r).run s).2 = s.update i (·.styled r.fields) ∧
      (((restyle i r).run s).2.node i = s.node i ↔ (s.node i).Wears r) := by
  obtain ⟨hsealed, hne, -⟩ := restyle_error_iff.1 h
  rw [run_restyle_sealed hsealed hne]
  refine ⟨rfl, ?_⟩
  rw [Store.node_update, if_pos ⟨rfl, Store.lt_size_of_isSealed hsealed⟩]
  exact Node.styled_fields_eq_iff

theorem atomicOn_restyle_iff {r : Resolution} :
    (restyle i r).AtomicOn i s ↔ ((s.node i).isSealed → r.edits ≠ [] → (s.node i).Wears r) := by
  constructor
  · intro h hsealed hne
    have herror := restyle_error_iff.2 ⟨hsealed, hne, rfl⟩
    exact (restyle_of_error herror).2.1 (h _ herror)
  · intro h v herror
    obtain ⟨hsealed, hne, -⟩ := restyle_error_iff.1 herror
    exact (restyle_of_error herror).2.2 (h hsealed hne)

end Edit

/-! ## Resolving and restyling -/

namespace Act

/-- An action that leaves a node as it was if it fails. -/
def AtomicOn {α : Type} (a : Act α) (i : NodeId) (w : World) : Prop :=
  ∀ f, (a.run w).1 = .error f → (a.run w).2.store.node i = w.store.node i

theorem applyStyles_of_interrupted {w : World} {i : NodeId} {B : Properties} {stop : Interrupted}
    (h : resolve (w.store.node i).kind B = .error stop) :
    ((applyStyles i B).run w).1 = .error (.numeral stop.cause) ∧ ((applyStyles i B).run w).2.store = w.store := by
  unfold applyStyles
  rw [run_bind_ok (run_store w)]
  dsimp only
  rw [h, run_bind_ok (run_reportDrops ..)]
  exact ⟨rfl, rfl⟩

theorem applyStyles_of_resolved {w : World} {i : NodeId} {B : Properties} {r : Resolution}
    (h : resolve (w.store.node i).kind B = .ok r) :
    (∀ f, ((applyStyles i B).run w).1 = .error f ↔
      ∃ v, ((Edit.restyle i r).run w.store).1 = .error v ∧ f = .violation v) ∧
    ((applyStyles i B).run w).2.store = ((Edit.restyle i r).run w.store).2 := by
  unfold applyStyles
  rw [run_bind_ok (run_store w)]
  dsimp only
  rw [h, run_bind_ok (run_reportDrops ..), run_bind, run_ofEdit]
  dsimp only
  rcases (Edit.restyle i r).run w.store with ⟨v | a, s⟩
  · refine ⟨fun f => ?_, rfl⟩
    constructor
    · rintro ⟨⟩
      exact ⟨v, rfl, rfl⟩
    · rintro ⟨_, ⟨⟩, rfl⟩
      rfl
  · refine ⟨fun f => iff_of_false nofun ?_, rfl⟩
    rintro ⟨_, ⟨⟩, -⟩

theorem applyStyles_error_iff {w : World} {i : NodeId} {B : Properties} {f : Failure} :
    ((applyStyles i B).run w).1 = .error f ↔
      (∃ stop, resolve (w.store.node i).kind B = .error stop ∧ f = .numeral stop.cause) ∨
      ∃ r, resolve (w.store.node i).kind B = .ok r ∧ (w.store.node i).isSealed ∧ r.edits ≠ [] ∧
        f = .violation (.sealedNode (w.store.node i).label) := by
  rcases h : resolve (w.store.node i).kind B with stop | r
  · rw [(applyStyles_of_interrupted h).1]
    constructor
    · rintro ⟨⟩
      exact .inl ⟨stop, rfl, rfl⟩
    · rintro (⟨_, ⟨⟩, rfl⟩ | ⟨_, ⟨⟩, -⟩)
      rfl
  · rw [(applyStyles_of_resolved h).1]
    simp only [Edit.restyle_error_iff]
    constructor
    · rintro ⟨v, ⟨hsealed, hne, rfl⟩, rfl⟩
      exact .inr ⟨r, rfl, hsealed, hne, rfl⟩
    · rintro (⟨_, ⟨⟩, -⟩ | ⟨_, ⟨⟩, hsealed, hne, rfl⟩)
      exact ⟨_, ⟨hsealed, hne, rfl⟩, rfl⟩

/-- Resolving and restyling is as atomic as restyling with what the properties are resolved to. -/
theorem atomicOn_applyStyles_iff {w : World} {i : NodeId} {B : Properties} :
    (applyStyles i B).AtomicOn i w ↔
      ∀ r, resolve (w.store.node i).kind B = .ok r → (Edit.restyle i r).AtomicOn i w.store := by
  constructor
  · intro h r hr v herror
    obtain ⟨hfails, hstore⟩ := applyStyles_of_resolved hr
    rw [← hstore]
    exact h _ ((hfails _).2 ⟨v, herror, rfl⟩)
  · intro h f herror
    rcases hr : resolve (w.store.node i).kind B with stop | r
    · rw [(applyStyles_of_interrupted hr).2]
    · obtain ⟨hfails, hstore⟩ := applyStyles_of_resolved hr
      obtain ⟨v, hv, -⟩ := (hfails f).1 herror
      rw [hstore]
      exact h r hr v hv

end Act

/-- Restyling a node fails if a seal refuses an edit, and resolving for it also if a numeral is too long to read. By the
first failure the fields of the resolution are on the node and nothing else has changed; by the second nothing has. So
restyling is atomic exactly on nodes that are open or get no edits or have had the fields before. -/
theorem restyle_atomic_iff (w : World) (i : NodeId) :
    (∀ r : Resolution,
      (∀ v, ((Edit.restyle i r).run w.store).1 = .error v ↔
        (w.store.node i).isSealed ∧ r.edits ≠ [] ∧ v = .sealedNode (w.store.node i).label) ∧
      (∀ v, ((Edit.restyle i r).run w.store).1 = .error v →
        ((Edit.restyle i r).run w.store).2 = w.store.update i (·.styled r.fields)) ∧
      ((Edit.restyle i r).AtomicOn i w.store ↔
        ((w.store.node i).isSealed → r.edits ≠ [] → (w.store.node i).Wears r))) ∧
    ∀ B : Properties,
      (∀ f, ((Act.applyStyles i B).run w).1 = .error f ↔
        (∃ stop, resolve (w.store.node i).kind B = .error stop ∧ f = .numeral stop.cause) ∨
        ∃ r, resolve (w.store.node i).kind B = .ok r ∧ (w.store.node i).isSealed ∧ r.edits ≠ [] ∧
          f = .violation (.sealedNode (w.store.node i).label)) ∧
      ((Act.applyStyles i B).AtomicOn i w ↔ ∀ r, resolve (w.store.node i).kind B = .ok r →
        (w.store.node i).isSealed → r.edits ≠ [] → (w.store.node i).Wears r) := by
  constructor
  · intro r
    exact ⟨fun v => Edit.restyle_error_iff, fun v h => (Edit.restyle_of_error h).1, Edit.atomicOn_restyle_iff⟩
  · intro B
    refine ⟨fun f => Act.applyStyles_error_iff, Act.atomicOn_applyStyles_iff.trans ?_⟩
    simp only [Edit.atomicOn_restyle_iff]

/-- A sealed label takes a text colour and refuses a background. -/
theorem not_atomic_coloured :
    let w : World := { store := ⟨#[{ kind := .label, isSealed := true }]⟩ }
    let B : Properties := Bag.ofList [("color", "red"), ("background", "blue")]
    ¬ (Act.applyStyles 0 B).AtomicOn 0 w ∧
      ∃ r, resolve .label B = .ok r ∧ ¬ (Edit.restyle 0 r).AtomicOn 0 w.store := by
  intro w B
  have hresolved : (resolve .label B).toOption.map (fun r => (r.style.isSome, r.edits.isEmpty)) =
      some (true, false) := by decide +kernel
  obtain ⟨r, hr, hparts⟩ := exists_resolution hresolved
  obtain ⟨hstyle, hedits⟩ := Prod.mk.inj hparts
  obtain ⟨style, hstyle⟩ := Option.isSome_iff_exists.1 hstyle
  have hne : r.edits ≠ [] := List.isEmpty_eq_false_iff.1 hedits
  have hnot : ¬ (Edit.restyle 0 r).AtomicOn 0 w.store := by
    rw [Edit.atomicOn_restyle_iff]
    intro h
    have hworn := (h rfl hne).style style hstyle
    cases hworn
  refine ⟨fun h => hnot ?_, r, hr, hnot⟩
  exact Act.atomicOn_applyStyles_iff.1 h r hr

end Overlay
