/-
When a resolution returns. It is stopped only by a numeral that is too long, in a value that is read as a number: an
edge or a size of the anchor, a weight, the padding of a container, or a font size that keeps its place in its pool.
-/
import Overlay.Proofs.Number.Overlong
import Overlay.Proofs.Style.Reported

namespace Overlay

open Text

theorem stop?_eq_none_iff {ε α : Type} {x : Except ε α} : stop? x = none ↔ ¬ Fails x := by
  rcases x with e | a
  · exact iff_of_false nofun fun h => h (fails_error e)
  · exact iff_of_true rfl (not_fails_ok a)

/-! ## What is read as a number -/

/-- The names under which an integer is read. -/
def namesInteger (name : String) : Bool := (AnchorPart.ofName? name).isSome || name = "flex-weight"

/-- The names under which a font size is read. -/
def NamesSize (kind : Kind) (name : String) : Prop :=
  name = "font-size" ∨ kind.isInteractive ∧ ∃ state, splitState name = (some state, "font-size")

theorem splitState_of_namesInteger {key : String} (h : namesInteger key) : splitState key = (none, key) := by
  unfold namesInteger at h
  rcases Bool.or_eq_true_iff.1 h with hpart | hweight
  · unfold AnchorPart.ofName? at hpart
    split at hpart <;> first | decide | cases hpart
  · obtain rfl := of_decide_eq_true hweight
    decide

theorem fails_integerEffect {value : String} {make : Int → Effect} :
    Fails (integerEffect value make) ↔ Overlong (unitless value) := by
  unfold integerEffect
  rw [fails_map, fails_readPixels]

theorem fails_paddingEffect {kind : Kind} {value : String} : Fails (paddingEffect kind value) ↔
    kind.isContainer ∧ FirstOverlong ((words value.toList).map String.ofList) := by
  unfold paddingEffect
  split_ifs with hk
  · rw [fails_map, fails_readPadding]
    exact (and_iff_right hk).symm
  · exact iff_of_false (not_fails_ok _) fun h => hk h.1

theorem fails_plainEffect {kind : Kind} {key value : String} : Fails (plainEffect kind key value) ↔
    namesInteger key ∧ Overlong (unitless value) ∨
      key = "padding" ∧ kind.isContainer ∧ FirstOverlong ((words value.toList).map String.ofList) := by
  unfold plainEffect
  split
  · rename_i part hpart
    have hname : namesInteger key := by simp [namesInteger, hpart]
    have hpadding : key ≠ "padding" := by
      rintro rfl
      cases hpart
    simp [fails_integerEffect, hname, hpadding]
  · rename_i hpart
    have hinteger : namesInteger key ↔ key = "flex-weight" := by simp [namesInteger, hpart]
    rw [hinteger]
    split_ifs with hflex hvisibility hdisplay hlayout hcontainer hpadding hbackground
    · simp [fails_integerEffect, hflex]
    · simp [hvisibility]
    · simp [hdisplay]
    · have hne : key ≠ "padding" := by
        rintro rfl
        cases hlayout
      simp [hflex, hne]
    · simp [hflex, hcontainer]
    · simp [fails_paddingEffect, hpadding]
    · simp [hflex, hpadding]
    · simp [hflex, hpadding]

theorem fails_effect {kind : Kind} {key value : String} : Fails (effect kind key value) ↔
    namesInteger key ∧ Overlong (unitless value) ∨
      key = "padding" ∧ kind.isContainer ∧ FirstOverlong ((words value.toList).map String.ofList) := by
  rcases hsplit : splitState key with ⟨_ | state, name⟩
  · obtain rfl := splitState_of_none hsplit
    rw [effect_eq_plain hsplit, fails_plainEffect]
  · rw [effect_of_mark hsplit]
    refine iff_of_false (not_fails_ok _) ?_
    rintro (⟨hname, -⟩ | ⟨rfl, -⟩)
    · rw [splitState_of_namesInteger hname] at hsplit
      cases hsplit
    · rw [show splitState "padding" = (none, "padding") by decide] at hsplit
      cases hsplit

theorem fails_setting {kind : Kind} {name value : String} :
    Fails (setting kind name value) ↔ name = "font-size" ∧ Overlong (unitless value) := by
  unfold setting
  split_ifs with hcolor hbackground hsize hweight hbold htransform huppercase
  · simp [hcolor]
  · have hne : name ≠ "font-size" := by
      rintro rfl
      cases hbackground
    simp [hne]
  · simp [fails_readSize, hsize]
  · simp [hweight]
  · simp [hweight]
  · simp [htransform]
  · simp [htransform]
  · simp [hsize]
  · split <;> simp [hsize]

/-! ## Resolutions that are stopped -/

/-- A property that stops a resolution: its value is read as a number and is a numeral that is too long. -/
inductive Stops (kind : Kind) (properties : Properties) (p : String × String) : Prop
  | integer (hname : namesInteger p.1) (hlong : Overlong (unitless p.2))
  | padding (hk : kind.isContainer) (hname : p.1 = "padding")
    (hlong : FirstOverlong ((words p.2.toList).map String.ofList))
  | size (hname : NamesSize kind p.1) (hlong : Overlong (unitless p.2)) (hkept : ¬ Replaced kind properties p)

theorem namesSize_of_pooled {kind : Kind} {state : StyleState} {p : String × String} {value : String}
    (h : pooled? kind state p = some ("font-size", value)) : NamesSize kind p.1 := by
  rcases effect_eq_style (pooled?_eq_some_iff.1 h).1 with ⟨hk, hmark⟩ | ⟨-, -, hname⟩
  · exact .inr ⟨hk, state, hmark⟩
  · exact .inl hname.symm

theorem exists_pooled_of_namesSize {kind : Kind} {p : String × String} (h : NamesSize kind p.1) :
    ∃ state, pooled? kind state p = some ("font-size", p.2) := by
  rcases h with hname | ⟨hk, state, hmark⟩
  · refine ⟨.default, pooled?_eq_some_iff.2 ⟨?_, rfl⟩⟩
    rw [hname, effect_eq_plain (by decide)]
    rfl
  · refine ⟨state, pooled?_eq_some_iff.2 ⟨?_, rfl⟩⟩
    rw [effect_of_mark hmark, if_pos hk]

section Resolve

variable {kind : Kind} {properties : Properties}

/-- A resolution is stopped by a property, or by an entry of a pool. -/
theorem fails_resolve_parts : Fails (resolve kind properties) ↔
    (∃ p ∈ properties.entries, Fails (effect kind p.1 p.2)) ∨
      ∃ state, ∃ e ∈ poolEntries kind state properties.entries, Fails (setting kind e.1 e.2) := by
  have hreturns : ¬ Fails (resolve kind properties) ↔ resolveStop? kind properties.entries = none := by
    rcases resolve_cases kind properties with ⟨hnone, hok⟩ | ⟨n, ds, hsome, herror, -⟩
    · rw [hok]
      exact iff_of_true (not_fails_ok _) hnone
    · rw [herror, hsome]
      exact iff_of_false (not_not_intro (fails_error _)) nofun
  rw [← not_iff_not, hreturns, resolveStop?_eq_none_iff]
  simp only [poolStop?, List.findSome?_eq_none_iff, stop?_eq_none_iff, not_or, not_exists, not_and]

/-- The font sizes that are read are those that keep their places. -/
theorem fails_pool : (∃ state, ∃ e ∈ poolEntries kind state properties.entries, Fails (setting kind e.1 e.2)) ↔
    ∃ p ∈ properties.entries, NamesSize kind p.1 ∧ Overlong (unitless p.2) ∧ ¬ Replaced kind properties p := by
  constructor
  · rintro ⟨state, e, he, hfails⟩
    rw [poolEntries_eq_origins] at he
    obtain ⟨o, ho, rfl⟩ := List.mem_map.1 he
    obtain ⟨hname, hlong⟩ := fails_setting.1 hfails
    have hpooled := pooled_of_origin ho
    have horigin : o.2 ∈ (origins kind state properties.entries).map (·.2) := List.mem_map_of_mem ho
    obtain ⟨l₁, l₂, -, hsplit, -⟩ := mem_origins_iff.1 horigin
    have hmem : o.2 ∈ properties.entries := hsplit ▸ List.mem_append_right l₁ (List.mem_cons_self ..)
    refine ⟨o.2, hmem, namesSize_of_pooled (by rw [hpooled, hname]), hlong, ?_⟩
    exact (mem_origins_iff_not_replaced hmem hpooled).1 horigin
  · rintro ⟨p, hp, hname, hlong, hkept⟩
    obtain ⟨state, hpooled⟩ := exists_pooled_of_namesSize hname
    obtain ⟨o, ho, rfl⟩ := List.mem_map.1 ((mem_origins_iff_not_replaced hp hpooled).2 hkept)
    have hsame := hpooled.symm.trans (pooled_of_origin ho)
    have hfont : o.1 = "font-size" := (congrArg Prod.fst (Option.some.inj hsame)).symm
    refine ⟨state, (o.1, o.2.2), ?_, fails_setting.2 ⟨hfont, hlong⟩⟩
    rw [poolEntries_eq_origins]
    exact List.mem_map_of_mem ho

/-- A resolution returns unless one of the properties stops it. -/
theorem fails_resolve : Fails (resolve kind properties) ↔ ∃ p ∈ properties.entries, Stops kind properties p := by
  rw [fails_resolve_parts, fails_pool]
  constructor
  · rintro (⟨p, hp, hfails⟩ | ⟨p, hp, hname, hlong, hkept⟩)
    · rcases fails_effect.1 hfails with ⟨hname, hlong⟩ | ⟨hname, hk, hlong⟩
      · exact ⟨p, hp, .integer hname hlong⟩
      · exact ⟨p, hp, .padding hk hname hlong⟩
    · exact ⟨p, hp, .size hname hlong hkept⟩
  · rintro ⟨p, hp, hstops⟩
    cases hstops with
    | integer hname hlong => exact .inl ⟨p, hp, fails_effect.2 (.inl ⟨hname, hlong⟩)⟩
    | padding hk hname hlong => exact .inl ⟨p, hp, fails_effect.2 (.inr ⟨hname, hk, hlong⟩)⟩
    | size hname hlong hkept => exact .inr ⟨p, hp, hname, hlong, hkept⟩

end Resolve

end Overlay
