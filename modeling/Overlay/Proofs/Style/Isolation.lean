/-
States apart from each other. What a state comes to is settled by the properties with its marks alone, and a mark
makes of properties for its state what they are without it for the default state.
-/
import Overlay.Proofs.Style.Parts

namespace Overlay

/-! ## Properties of a state -/

/-- Whether a name belongs to a state: without any mark to the default state, and with one to the state of the mark. -/
def StyleState.owns (state : StyleState) (name : String) : Bool :=
  if state = .default then stateMarks.all fun m => !m.1.toList.isPrefixOf name.toList
  else stateMarks.any fun m => m.2 = state && m.1.toList.isPrefixOf name.toList

/-- The properties that belong to a state, in their order. -/
def Properties.ownedBy (properties : Properties) (state : StyleState) : List (String × String) :=
  properties.entries.filter fun p => state.owns p.1

theorem owns_of_mark {key name : String} {state : StyleState} (h : splitState key = (some state, name)) :
    state.owns key := by
  obtain ⟨m, hm, rfl, rfl⟩ := splitState_eq_some_iff.1 h
  unfold StyleState.owns
  rw [if_neg (splitState_ne_default h), List.any_eq_true]
  exact ⟨m, hm, by simp⟩

theorem owns_default_iff {key : String} : StyleState.default.owns key ↔ splitState key = (none, key) := by
  unfold StyleState.owns
  rw [if_pos rfl, List.all_eq_true]
  rcases splitState_cases key with ⟨m, hm, name, rfl⟩ | ⟨hmarks, hnone⟩
  · rw [splitState_of_mark hm]
    simp only [reduceCtorEq, Prod.mk.injEq, false_and, iff_false, not_forall]
    exact ⟨m, hm, by simp⟩
  · exact iff_of_true (fun m hm => by simpa [← List.isPrefixOf_iff_prefix] using hmarks m hm) hnone

variable {kind : Kind}

/-- A property adds to the pool of the state that it belongs to. -/
theorem owns_of_pooled {state : StyleState} {p e : String × String} (h : pooled? kind state p = some e) :
    state.owns p.1 := by
  rcases effect_eq_style (pooled?_eq_some_iff.1 h).1 with ⟨-, hmark⟩ | ⟨hnone, rfl, -⟩
  · exact owns_of_mark hmark
  · exact owns_default_iff.2 hnone

theorem owns_of_direct {p : String × String} {e : Effect} (h : direct? kind p = some e) :
    StyleState.default.owns p.1 := by
  rcases hsplit : splitState p.1 with ⟨_ | state, name⟩
  · obtain rfl := splitState_of_none hsplit
    exact owns_default_iff.2 hsplit
  · unfold direct? at h
    rw [effect_of_mark hsplit] at h
    split_ifs at h

theorem poolEntries_owned (state : StyleState) (ps : List (String × String)) :
    poolEntries kind state (ps.filter fun p => state.owns p.1) = poolEntries kind state ps := by
  unfold poolEntries
  rw [filterMap_filter_of_none]
  intro p _ hp
  rcases he : pooled? kind state p with _ | e
  · rfl
  · rw [owns_of_pooled he] at hp
    cases hp

theorem direct_owned (ps : List (String × String)) :
    (Draft.ofProperties kind (ps.filter fun p => StyleState.default.owns p.1)).direct =
      (Draft.ofProperties kind ps).direct := by
  rw [Draft.direct_ofProperties, Draft.direct_ofProperties, filterMap_filter_of_none]
  intro p _ hp
  rcases he : direct? kind p with _ | e
  · rfl
  · rw [owns_of_direct he] at hp
    cases hp

/-! ## Properties under a mark -/

/-- The same properties, each with a mark in front of its name. -/
def Properties.marked (properties : Properties) (mark : String) : Properties :=
  Bag.ofList (properties.entries.map fun p => (mark ++ p.1, p.2))

theorem entries_marked (properties : Properties) (mark : String) :
    (properties.marked mark).entries = properties.entries.map fun p => (mark ++ p.1, p.2) := by
  refine Bag.entries_ofList ?_
  have hnames : (properties.entries.map fun p => (mark ++ p.1, p.2)).map Prod.fst =
      (properties.entries.map Prod.fst).map (mark ++ ·) := by
    rw [List.map_map, List.map_map]
    rfl
  rw [hnames]
  refine properties.distinct.map fun a b hab => ?_
  rw [← String.toList_inj, String.toList_append, String.toList_append] at hab
  exact String.toList_inj.1 (List.append_cancel_left hab)

section Marked

variable {properties : Properties} {m : String × StyleState}

theorem poolEntries_marked (hk : kind.isInteractive) (hm : m ∈ stateMarks) (state : StyleState) :
    poolEntries kind state (properties.marked m.1).entries = if state = m.2 then properties.entries else [] := by
  have heffect : ∀ p : String × String, effect kind (m.1 ++ p.1) p.2 = .ok (.style m.2 p.1) := fun p => by
    rw [effect_of_mark (splitState_of_mark hm p.1), if_pos hk]
  unfold poolEntries
  rw [entries_marked, List.filterMap_map]
  by_cases hs : state = m.2
  · subst hs
    have hpooled : (pooled? kind m.2 ∘ fun p : String × String => (m.1 ++ p.1, p.2)) = some := by
      funext p
      exact pooled?_eq_some_iff.2 ⟨heffect p, rfl⟩
    rw [if_pos rfl, hpooled, List.filterMap_some]
    exact Bag.entries_ofList properties.distinct
  · have hpooled : (pooled? kind state ∘ fun p : String × String => (m.1 ++ p.1, p.2)) = fun _ => none := by
      funext p
      refine Option.eq_none_iff_forall_ne_some.2 fun e he => hs ?_
      have hstyle := Except.ok.inj ((heffect p).symm.trans (pooled?_eq_some_iff.1 he).1)
      exact (Effect.style.inj hstyle).1.symm
    rw [if_neg hs, hpooled, List.filterMap_none]
    rfl

theorem direct_marked (hm : m ∈ stateMarks) :
    (Draft.ofProperties kind (properties.marked m.1).entries).direct = Draft.empty := by
  have hnone : (properties.marked m.1).entries.filterMap (direct? kind) = [] := by
    rw [entries_marked, List.filterMap_map]
    refine List.filterMap_eq_nil_iff.2 fun p _ => ?_
    show direct? kind (m.1 ++ p.1, p.2) = none
    unfold direct?
    dsimp only
    rw [effect_of_mark (splitState_of_mark hm p.1)]
    split_ifs <;> rfl
  rw [Draft.direct_ofProperties, hnone]
  rfl

theorem resolveStop?_marked (hk : kind.isInteractive) (hm : m ∈ stateMarks)
    (h : resolveStop? kind properties.entries = none) : resolveStop? kind (properties.marked m.1).entries = none := by
  refine resolveStop?_eq_none_iff.2 ⟨fun p hp => ?_, fun state => ?_⟩
  · rw [entries_marked] at hp
    obtain ⟨q, -, rfl⟩ := List.mem_map.1 hp
    rw [effect_of_mark (splitState_of_mark hm q.1)]
    rfl
  · rw [poolEntries_marked hk hm]
    split_ifs
    · rw [← (saySame_default hk properties).stop_eq]
      exact (resolveStop?_eq_none_iff.1 h).2 .default
    · rfl

end Marked

/-- What a state comes to is settled by its own properties, and the rest by those of the default state. Under a mark
properties come to the same for the state of the mark as without it for the default state, and to nothing else. -/
theorem states_isolated (kind : Kind) (hk : kind.isInteractive) :
    (∀ B B' : Properties, ∀ r r', resolve kind B = .ok r → resolve kind B' = .ok r' →
      (∀ state, B.ownedBy state = B'.ownedBy state → r.bucket state = r'.bucket state) ∧
      (B.ownedBy .default = B'.ownedBy .default →
        r.anchor = r'.anchor ∧ r.edits = r'.edits ∧ r.visible = r'.visible ∧ r.flexWeight = r'.flexWeight ∧
          r.layoutMode = r'.layoutMode)) ∧
    ∀ m ∈ stateMarks, ∀ P : Properties, ∀ r, resolve kind P = .ok r →
      ∃ r', resolve kind (P.marked m.1) = .ok r' ∧ r'.bucket m.2 = r.bucket .default ∧
        (∀ state, state ≠ m.2 → r'.bucket state = none) ∧ r'.anchor = none ∧ r'.edits = [] ∧ r'.visible = none ∧
        r'.flexWeight = none ∧ r'.layoutMode = none := by
  constructor
  · intro B B' r r' hr hr'
    obtain ⟨-, rfl⟩ := resolve_ok_iff.1 hr
    obtain ⟨-, rfl⟩ := resolve_ok_iff.1 hr'
    refine ⟨fun state hsame => ?_, fun hsame => ?_⟩
    · rw [Resolution.bucket_ofProperties, Resolution.bucket_ofProperties, ← poolEntries_owned state B.entries,
        ← poolEntries_owned state B'.entries]
      exact congrArg (fun ps => poolBucket kind (poolEntries kind state ps)) hsame
    · have hdirect : (Draft.ofProperties kind B.entries).direct = (Draft.ofProperties kind B'.entries).direct := by
        rw [← direct_owned B.entries, ← direct_owned B'.entries]
        exact congrArg (fun ps => (Draft.ofProperties kind ps).direct) hsame
      simp only [Resolution.ofProperties, hdirect, and_self]
  · intro m hm P r hr
    obtain ⟨hstop, rfl⟩ := resolve_ok_iff.1 hr
    refine ⟨_, resolve_of_none (resolveStop?_marked hk hm hstop), ?_, fun state hne => ?_, ?_⟩
    · rw [Resolution.bucket_ofProperties, Resolution.bucket_ofProperties, poolEntries_marked hk hm, if_pos rfl]
      exact (saySame_default hk P).bucket_eq.symm
    · rw [Resolution.bucket_ofProperties, poolEntries_marked hk hm, if_neg hne]
      cases kind <;> rfl
    · simp only [Resolution.ofProperties, direct_marked hm]
      exact ⟨if_pos rfl, rfl, rfl, rfl, rfl⟩

theorem states_isolated_colors :
    let B : Properties := Bag.ofList [("color", "red"), ("--hover-color", "blue")]
    let B' : Properties := Bag.ofList [("--hover-color", "green"), ("color", "red"), ("--active-anchor", "1")]
    ∃ r r' marked, resolve .button B = .ok r ∧ resolve .button B' = .ok r' ∧
      resolve .button (B.marked "--active-") = .ok marked ∧ B.ownedBy .default = B'.ownedBy .default ∧
      r.bucket .default = r'.bucket .default ∧ r.bucket .hovered ≠ r'.bucket .hovered ∧ r'.anchor = r.anchor ∧
      marked.bucket .pressed = r.bucket .default ∧ r.bucket .default ≠ none := by
  intro B B'
  have hsame : B.ownedBy .default = B'.ownedBy .default := by decide
  obtain ⟨hcommon, hmarked⟩ := states_isolated .button rfl
  obtain ⟨hbucket, hdirect⟩ := hcommon B B' _ _ rfl rfl
  obtain ⟨marked, hresolve, hpressed, -⟩ := hmarked ("--active-", .pressed) (by decide) B _ rfl
  exact ⟨_, _, marked, rfl, rfl, hresolve, hsame, hbucket .default hsame, by decide, (hdirect hsame).1.symm, hpressed,
    by decide⟩

end Overlay
