/-
Dropped properties. Whether a property is dropped is settled by its name and value alone, and what others come to
stays as it is when it is left out, with one exception. Two marks belong to the pressed state; a property under
one of them takes the place of an earlier one that has the same name under the other, and when it is dropped then,
the earlier one is lost with it.
-/
import Overlay.Proofs.Style.Parts

namespace Overlay

/-! ## Properties that stand alone -/

/-- A property is dropped when it stands alone. -/
def Drops (kind : Kind) (p : String × String) : Prop := ∃ r, resolve kind (Bag.ofList [p]) = .ok r ∧ r.drops ≠ []

/-- The report of a property that is dropped when it stands alone. -/
def report? (kind : Kind) (p : String × String) : Option Drop :=
  match effect kind p.1 p.2 with
  | .ok (.drop reason) => some ⟨p.1, p.2, reason⟩
  | .ok (.style _ name) => unset? kind (name, p.2)
  | _ => none

theorem report?_of_pooled {kind : Kind} {state : StyleState} {p e : String × String}
    (h : pooled? kind state p = some e) : report? kind p = unset? kind e := by
  obtain ⟨heffect, hvalue⟩ := pooled?_eq_some_iff.1 h
  unfold report?
  rw [heffect, ← hvalue]

/-- A report is of a property that goes to no pool, or of one that is not taken over from its pool. -/
theorem report?_eq_some_iff {kind : Kind} {p : String × String} {d : Drop} : report? kind p = some d ↔
    refused? kind p = some d ∨ ∃ state e, pooled? kind state p = some e ∧ unset? kind e = some d := by
  constructor
  · intro h
    rcases heffect : effect kind p.1 p.2 with n | x
    · simp [report?, heffect] at h
    · cases x with
      | drop reason => exact .inl (by simpa [report?, refused?, heffect] using h)
      | style state name =>
        exact .inr ⟨state, (name, p.2), pooled?_eq_some_iff.2 ⟨heffect, rfl⟩, by simpa [report?, heffect] using h⟩
      | _ => simp [report?, heffect] at h
  · rintro (h | ⟨state, e, hpooled, h⟩)
    · unfold refused? at h
      split at h
      · rename_i reason heffect
        simpa [report?, heffect] using h
      · cases h
    · rw [report?_of_pooled hpooled, h]

theorem said?_eq_none_iff {kind : Kind} {e : String × String} : said? kind e = none ↔ (unset? kind e).isSome := by
  rcases said?_cases kind e with ⟨_, -, hsaid, hunset⟩ | ⟨hsaid, hunset⟩ <;> simp [hsaid, hunset]

theorem stop?_of_unset? {kind : Kind} {e : String × String} (h : (unset? kind e).isSome) :
    stop? (setting kind e.1 e.2) = none := by
  rcases said?_cases kind e with ⟨_, hdrop, -, -⟩ | ⟨-, hnone⟩
  · rw [hdrop]
    rfl
  · rw [hnone] at h
    cases h

theorem stop?_of_report? {kind : Kind} {p : String × String} (h : (report? kind p).isSome) :
    stop? (effect kind p.1 p.2) = none := by
  rcases heffect : effect kind p.1 p.2 with n | x
  · simp [report?, heffect] at h
  · rfl

theorem poolEntries_singleton (kind : Kind) (state : StyleState) (p : String × String) :
    poolEntries kind state [p] = (pooled? kind state p).toList := by
  unfold poolEntries
  rcases hp : pooled? kind state p with _ | e
  · rw [List.filterMap_cons_none hp]
    rfl
  · rw [List.filterMap_cons_some hp]
    rfl

theorem drops_iff {kind : Kind} {p : String × String} : Drops kind p ↔ (report? kind p).isSome := by
  have hentries : (Bag.ofList [p]).entries = [p] := rfl
  constructor
  · rintro ⟨r, hr, hdrops⟩
    rw [resolve_ok_iff, hentries] at hr
    obtain ⟨-, rfl⟩ := hr
    obtain ⟨d, hd⟩ := List.exists_mem_of_ne_nil _ hdrops
    rw [Resolution.drops_ofProperties, List.mem_append, List.mem_filterMap, List.mem_flatMap] at hd
    refine Option.isSome_iff_exists.2 ⟨d, report?_eq_some_iff.2 ?_⟩
    rcases hd with ⟨q, hq, hd⟩ | ⟨state, -, hd⟩
    · obtain rfl := List.mem_singleton.1 hq
      exact .inl hd
    · obtain ⟨e, he, hd⟩ := List.mem_filterMap.1 hd
      rw [poolEntries_singleton, Option.mem_toList] at he
      exact .inr ⟨state, e, he, hd⟩
  · intro h
    have hstop : resolveStop? kind [p] = none := by
      refine resolveStop?_eq_none_iff.2 ⟨fun q hq => ?_, fun state => ?_⟩
      · obtain rfl := List.mem_singleton.1 hq
        exact stop?_of_report? h
      · rw [poolEntries_singleton, poolStop?, List.findSome?_eq_none_iff]
        intro e he
        rw [Option.mem_toList] at he
        exact stop?_of_unset? (report?_of_pooled he ▸ h)
    refine ⟨_, resolve_ok_iff.2 ⟨hstop, rfl⟩, List.ne_nil_of_mem (a := (report? kind p).get h) ?_⟩
    rw [hentries, Resolution.drops_ofProperties, List.mem_append, List.mem_filterMap, List.mem_flatMap]
    rcases report?_eq_some_iff.1 (Option.some_get h).symm with hd | ⟨state, e, he, hd⟩
    · exact .inl ⟨p, List.mem_singleton_self p, hd⟩
    · refine .inr ⟨state, state.mem_all, List.mem_filterMap.2 ⟨e, ?_, hd⟩⟩
      rw [poolEntries_singleton, he]
      exact List.mem_singleton_self e

/-! ## Properties that are read alike -/

/-- Two properties are read alike: as one name of one state. -/
def Alike (kind : Kind) (p q : String × String) : Prop := kind.isInteractive ∧ splitState p.1 = splitState q.1

namespace Alike

variable {kind : Kind} {p q : String × String}

/-- Properties with different names are read alike by their marks alone. -/
theorem marked (h : Alike kind p q) (hne : p.1 ≠ q.1) :
    ∃ state name, splitState p.1 = (some state, name) ∧ splitState q.1 = (some state, name) := by
  rcases hq : splitState q.1 with ⟨_ | state, name⟩
  · have hp : splitState p.1 = (none, name) := h.2.trans hq
    exact absurd ((splitState_of_none hp).symm.trans (splitState_of_none hq)) hne
  · exact ⟨state, name, h.2.trans hq, rfl⟩

theorem of_pooled {state : StyleState} {e e' : String × String} (hp : pooled? kind state p = some e)
    (hq : pooled? kind state q = some e') (he : e.1 = e'.1) (hne : p.1 ≠ q.1) : Alike kind p q := by
  have heffect := (pooled?_eq_some_iff.1 hp).1
  have heffect' := (pooled?_eq_some_iff.1 hq).1
  rw [he] at heffect
  rcases effect_eq_style heffect with ⟨hk, hmark⟩ | ⟨-, hstate, hname⟩ <;>
    rcases effect_eq_style heffect' with ⟨hk', hmark'⟩ | ⟨-, hstate', hname'⟩
  · exact ⟨hk, hmark.trans hmark'.symm⟩
  · exact absurd hstate' (splitState_ne_default hmark)
  · exact absurd hstate (splitState_ne_default hmark')
  · exact absurd (hname.symm.trans hname') hne

/-- Properties that are read alike go to one pool under one name. -/
theorem pooled (h : Alike kind p q) (hne : p.1 ≠ q.1) : ∃ state name,
    pooled? kind state p = some (name, p.2) ∧ pooled? kind state q = some (name, q.2) := by
  obtain ⟨state, name, hp, hq⟩ := h.marked hne
  refine ⟨state, name, pooled?_eq_some_iff.2 ⟨?_, rfl⟩, pooled?_eq_some_iff.2 ⟨?_, rfl⟩⟩
  · rw [effect_of_mark hp, if_pos h.1]
  · rw [effect_of_mark hq, if_pos h.1]

/-- A state has two marks at most, so no third property is read alike. -/
theorem eq_of_three {x : String × String} (h : Alike kind p q) (hx : Alike kind x q) (hne : p.1 ≠ q.1) :
    x.1 = p.1 ∨ x.1 = q.1 := by
  obtain ⟨state, name, hp, hq⟩ := h.marked hne
  rcases splitState_eq_of_three (hx.2.trans hq) hp hq with h | h | h
  · exact .inl h
  · exact absurd h hne
  · exact .inr h

end Alike

/-! ## Without a property -/

/-- What a resolution comes to, apart from the drops. -/
def resolved (kind : Kind) (properties : Properties) : Except NumeralTooLong Resolution :=
  match resolve kind properties with
  | .ok r => .ok { r with drops := [] }
  | .error i => .error i.cause

theorem resolved_of_none {kind : Kind} {properties : Properties} (h : resolveStop? kind properties.entries = none) :
    resolved kind properties = .ok { Resolution.ofProperties kind properties.entries with drops := [] } := by
  unfold resolved
  rw [resolve_of_none h]

theorem resolved_of_some {kind : Kind} {properties : Properties} {n : NumeralTooLong}
    (h : resolveStop? kind properties.entries = some n) : resolved kind properties = .error n := by
  obtain ⟨ds, -, hresolve⟩ := resolve_of_some h
  unfold resolved
  rw [hresolve]

/-- Properties that set the same directly, and whose pools say the same, come to the same. -/
theorem resolved_congr {kind : Kind} {ps qs : Properties}
    (hstop : (ps.entries.findSome? fun p => stop? (effect kind p.1 p.2)) =
      qs.entries.findSome? fun p => stop? (effect kind p.1 p.2))
    (hdirect : ps.entries.filterMap (direct? kind) = qs.entries.filterMap (direct? kind))
    (hpools : ∀ state, SaySame kind (poolEntries kind state ps.entries) (poolEntries kind state qs.entries)) :
    resolved kind ps = resolved kind qs := by
  have hstops : resolveStop? kind ps.entries = resolveStop? kind qs.entries := by
    unfold resolveStop?
    rw [hstop]
    simp only [Draft.entries_pools, (hpools _).stop_eq]
  have hstyle := Style.ofPools_congr fun state => (hpools state).bucket_eq
  rcases h : resolveStop? kind qs.entries with _ | n
  · rw [resolved_of_none h, resolved_of_none (hstops.trans h)]
    simp only [Resolution.ofProperties, hstyle, Draft.direct_ofProperties, hdirect]
  · rw [resolved_of_some h, resolved_of_some (hstops.trans h)]

/-- Only backgrounds are set under two names, and a background is never dropped. -/
theorem eq_of_isNamed {kind : Kind} {e : String × String} (h : (unset? kind e).isSome) {field : BucketField}
    (hfield : field.isNamed e.1) {name : String} (hname : field.isNamed name) : name = e.1 := by
  cases field with
  | background => simp [unset?, setting_of_isBackground hfield] at h
  | _ => exact (of_decide_eq_true hname).trans (of_decide_eq_true hfield).symm

/-- A field with one name is set by the last of the properties that come under that name. -/
theorem filter_poolEntries {kind : Kind} {state : StyleState} {ps : List (String × String)} {field : BucketField}
    {name : String} (h : ∀ name', field.isNamed name' → name' = name) :
    ((poolEntries kind state ps).filter fun e => field.isNamed e.1) =
      ((ps.filterMap (pooled? kind state)).filter fun e => field.isNamed e.1).getLast?.toList := by
  unfold poolEntries
  rw [Bag.filter_ofList]
  exact Bag.entries_ofList_of_key fun e he => h e.1 (List.mem_filter.1 he).2

/-- Where the last entry counts, a dropped one can be left out if those before it are dropped. -/
theorem sayings_last_without {kind : Kind} {l₁ l₂ : List (String × String)} {e : String × String}
    (he : said? kind e = none) (h : ∀ x ∈ l₁, said? kind x = none) :
    sayings kind (l₁ ++ l₂).getLast?.toList = sayings kind (l₁ ++ e :: l₂).getLast?.toList := by
  rw [List.getLast?_append, List.getLast?_append, List.getLast?_cons]
  rcases l₂.getLast? with _ | later
  · rcases hlast : l₁.getLast? with _ | x
    · simp [sayings, he]
    · simp [sayings, he, h x (List.mem_of_getLast? hlast)]
  · rfl

section Without

variable {kind : Kind} {m₁ m₂ : List (String × String)} {p : String × String}

/-- A pool says the same without a dropped property, unless one before it that is not dropped is read alike. -/
theorem saySame_without (hdistinct : ((m₁ ++ p :: m₂).map Prod.fst).Nodup) (hp : (report? kind p).isSome)
    (h : ∀ q ∈ m₁, Alike kind q p → (report? kind q).isSome) (state : StyleState) :
    SaySame kind (poolEntries kind state (m₁ ++ m₂)) (poolEntries kind state (m₁ ++ p :: m₂)) := by
  intro field
  rcases hpooled : pooled? kind state p with _ | e
  · unfold poolEntries
    rw [List.filterMap_append, List.filterMap_append, List.filterMap_cons_none hpooled]
  have hdropped : (unset? kind e).isSome := report?_of_pooled hpooled ▸ hp
  by_cases hnamed : field.isNamed e.1
  · have hnames : ∀ name, field.isNamed name → name = e.1 := fun name => eq_of_isNamed hdropped hnamed
    rw [filter_poolEntries hnames, filter_poolEntries hnames, List.filterMap_append, List.filterMap_append,
      List.filterMap_cons_some hpooled, List.filter_append, List.filter_append,
      List.filter_cons_of_pos (by simpa using hnamed)]
    refine sayings_last_without (said?_eq_none_iff.2 hdropped) fun x hx => ?_
    obtain ⟨hx, hxnamed⟩ := List.mem_filter.1 hx
    obtain ⟨q, hq, hqx⟩ := List.mem_filterMap.1 hx
    have hne : q.1 ≠ p.1 := by
      rw [List.map_append, List.map_cons, List.nodup_append] at hdistinct
      exact hdistinct.2.2 q.1 (List.mem_map_of_mem hq) p.1 (List.mem_cons_self ..)
    exact said?_eq_none_iff.2 (report?_of_pooled hqx ▸ h q hq (.of_pooled hqx hpooled (hnames _ hxnamed) hne))
  · unfold poolEntries
    rw [Bag.filter_ofList, Bag.filter_ofList, List.filterMap_append, List.filterMap_append,
      List.filterMap_cons_some hpooled, List.filter_append, List.filter_append,
      List.filter_cons_of_neg (by simpa using hnamed)]

theorem resolved_without {B : Properties} (hB : B.entries = m₁ ++ p :: m₂) (hp : (report? kind p).isSome)
    (h : ∀ q ∈ m₁, Alike kind q p → (report? kind q).isSome) : resolved kind (B.erase p.1) = resolved kind B := by
  have hdirect : direct? kind p = none := by
    rcases heffect : effect kind p.1 p.2 with n | x
    · simp [direct?, heffect]
    · cases x with
      | style => simp [direct?, heffect]
      | drop => simp [direct?, heffect]
      | _ => simp [report?, heffect] at hp
  have hdistinct := B.distinct
  rw [hB] at hdistinct
  refine resolved_congr ?_ ?_ fun state => ?_ <;> rw [Bag.entries_erase hB, hB]
  · rw [List.findSome?_append, List.findSome?_append, List.findSome?_cons, stop?_of_report? hp]
  · rw [List.filterMap_append, List.filterMap_append, List.filterMap_cons_none hdirect]
  · exact saySame_without hdistinct hp h state

/-- What is set in a bucket, is set in a field of it. -/
theorem Setting.exists_value? {x : Setting} (h : ∀ reason, x ≠ .drop reason) : ∃ field, x.value? field ≠ none := by
  cases x with
  | color => exact ⟨.color, nofun⟩
  | background => exact ⟨.background, nofun⟩
  | fontSize => exact ⟨.size, nofun⟩
  | bold => exact ⟨.bold, nofun⟩
  | uppercase => exact ⟨.uppercase, nofun⟩
  | vertical => exact ⟨.vertical, nofun⟩
  | horizontal => exact ⟨.horizontal, nofun⟩
  | alignment => exact ⟨.alignment, nofun⟩
  | drop reason => exact absurd rfl (h reason)

/-- A field with one name is set by a property after which none comes under that name. -/
theorem filter_poolEntries_of_last {state : StyleState} {e : String × String} {field : BucketField}
    (hp : pooled? kind state p = some e) (hfield : field.isNamed e.1)
    (hnames : ∀ name, field.isNamed name → name = e.1)
    (hlast : ∀ q ∈ m₂, ∀ e', pooled? kind state q = some e' → e'.1 ≠ e.1) :
    ((poolEntries kind state (m₁ ++ p :: m₂)).filter fun e => field.isNamed e.1) = [e] := by
  have hnone : ((m₂.filterMap (pooled? kind state)).filter fun e => field.isNamed e.1) = [] := by
    refine List.filter_eq_nil_iff.2 fun e' he' hnamed => ?_
    obtain ⟨q, hq, hpooled⟩ := List.mem_filterMap.1 he'
    exact hlast q hq e' hpooled (hnames _ hnamed)
  rw [filter_poolEntries hnames, List.filterMap_append, List.filterMap_cons_some hp, List.filter_append,
    List.filter_cons_of_pos (by simpa using hfield), hnone, List.getLast?_concat]
  rfl

/-- Where one entry of a pool is dropped in the place of another one, the resolutions differ. -/
theorem resolved_ne_of_entry {B B' : Properties} (state : StyleState) {name value value' : String} {r : Resolution}
    (hB : ∀ field : BucketField, field.isNamed name →
      ((poolEntries kind state B.entries).filter fun e => field.isNamed e.1) = [(name, value)])
    (hB' : ∀ field : BucketField, field.isNamed name →
      ((poolEntries kind state B'.entries).filter fun e => field.isNamed e.1) = [(name, value')])
    (hdropped : (unset? kind (name, value)).isSome) (hset : unset? kind (name, value') = none)
    (hr : resolve kind B = .ok r) : resolved kind B' ≠ resolved kind B := by
  intro heq
  rw [resolved_of_none (resolve_ok_iff.1 hr).1] at heq
  have hstop : resolveStop? kind B'.entries = none := by
    rcases hstop : resolveStop? kind B'.entries with _ | n
    · rfl
    · rw [resolved_of_some hstop] at heq
      cases heq
  rw [resolved_of_none hstop] at heq
  have hbucket : poolBucket kind (poolEntries kind state B'.entries) =
      poolBucket kind (poolEntries kind state B.entries) := by
    have hsame := congrArg (Resolution.bucket · state) (Except.ok.inj heq)
    rw [← Resolution.bucket_ofProperties, ← Resolution.bucket_ofProperties]
    exact hsame
  have hsilent : said? kind (name, value) = none := said?_eq_none_iff.2 hdropped
  have hsaid : said? kind (name, value') = some (setting kind name value') := by
    rcases said?_cases kind (name, value') with ⟨_, -, -, hunset⟩ | ⟨hsaid, -⟩
    · rw [hset] at hunset
      cases hunset
    · exact hsaid
  rcases hsetting : setting kind name value' with n | x
  · -- a number that is too long stops the one resolution alone
    have hsize : name = "font-size" := by
      have hread := setting_read kind name value'
      rw [hsetting] at hread
      cases hread with
      | tooLong h => exact h
    have hpool := (resolveStop?_eq_none_iff.1 hstop).2 state
    rw [poolStop?_eq, hB' .size (decide_eq_true hsize)] at hpool
    simp [sayings, hsaid, hsetting, stop?] at hpool
  · have hkept : ∀ reason, x ≠ .drop reason := by
      rintro reason rfl
      simp [said?, hsetting] at hsaid
    obtain ⟨field, hfield⟩ := Setting.exists_value? hkept
    have hnamed := isNamed_of_value? hsetting hfield
    have hvalue := field_poolBucket kind (poolEntries kind state B'.entries) field
    rw [hbucket, field_poolBucket, hB field hnamed, hB' field hnamed] at hvalue
    simp [sayings, hsilent, hsaid, hsetting, Except.toOption] at hvalue
    exact hfield hvalue.symm

/-- A dropped property that has taken the place of another one is missed. -/
theorem resolved_ne_without {B : Properties} (hB : B.entries = m₁ ++ p :: m₂) (hp : (report? kind p).isSome)
    {q : String × String} (hq : q ∈ m₁) (halike : Alike kind q p) (hqset : report? kind q = none) {r : Resolution}
    (hr : resolve kind B = .ok r) : resolved kind (B.erase p.1) ≠ resolved kind B := by
  obtain ⟨l₁, l₂, rfl⟩ := List.append_of_mem hq
  have hdistinct : (p.1 :: q.1 :: (l₁ ++ (l₂ ++ m₂)).map Prod.fst).Nodup := by
    have hperm : (l₁ ++ q :: l₂ ++ p :: m₂).Perm (p :: q :: (l₁ ++ (l₂ ++ m₂))) := by
      rw [← List.append_assoc]
      exact List.perm_middle.trans ((List.perm_middle.append_right m₂).cons p)
    exact ((hperm.map Prod.fst).nodup_iff).1 (hB ▸ B.distinct)
  rw [List.nodup_cons, List.nodup_cons, List.mem_cons, not_or] at hdistinct
  obtain ⟨⟨hpq, hpother⟩, hqother, -⟩ := hdistinct
  have hne : q.1 ≠ p.1 := Ne.symm hpq
  obtain ⟨state, name, hqpooled, hpooled⟩ := halike.pooled hne
  have hother : ∀ x ∈ l₁ ++ (l₂ ++ m₂), ∀ e, pooled? kind state x = some e → e.1 ≠ name := by
    intro x hx e he hname
    have hx : x.1 ∈ (l₁ ++ (l₂ ++ m₂)).map Prod.fst := List.mem_map_of_mem hx
    have hxalike : Alike kind x p := .of_pooled he hpooled hname fun h => hpother (h ▸ hx)
    rcases halike.eq_of_three hxalike hne with h | h
    · exact hqother (h ▸ hx)
    · exact hpother (h ▸ hx)
  rw [report?_of_pooled hpooled] at hp
  rw [report?_of_pooled hqpooled] at hqset
  refine resolved_ne_of_entry state (fun field hfield => ?_) (fun field hfield => ?_) hp hqset hr
  · rw [hB]
    exact filter_poolEntries_of_last hpooled hfield (fun _ => eq_of_isNamed hp hfield) fun x hx =>
      hother x (List.mem_append_right _ (List.mem_append_right _ hx))
  · rw [Bag.entries_erase hB, List.append_assoc, List.cons_append]
    exact filter_poolEntries_of_last hqpooled hfield (fun _ => eq_of_isNamed hp hfield) fun x hx =>
      hother x (List.mem_append_right _ hx)

end Without

/-- A property that is read alike stands before this one, and is not dropped when it stands alone. -/
def Costs (kind : Kind) (properties : Properties) (p : String × String) : Prop :=
  ∃ q, [q, p].Sublist properties.entries ∧ Alike kind q p ∧ ¬ Drops kind q

/-- A dropped property affects nothing else, unless it has cost another one its place; then it does wherever the
resolution goes through. -/
theorem resolved_erase_dropped (kind : Kind) (B : Properties) (p : String × String) (hp : p ∈ B.entries)
    (hdrops : Drops kind p) :
    (¬ Costs kind B p → resolved kind (B.erase p.1) = resolved kind B) ∧
      (Costs kind B p → ∀ r, resolve kind B = .ok r → resolved kind (B.erase p.1) ≠ resolved kind B) := by
  obtain ⟨m₁, m₂, hB⟩ := List.append_of_mem hp
  rw [drops_iff] at hdrops
  refine ⟨fun hfree => resolved_without hB hdrops fun q hq halike => ?_, ?_⟩
  · by_contra hset
    exact hfree ⟨q, (Bag.pair_sublist_left hB).2 hq, halike, fun h => hset (drops_iff.1 h)⟩
  · rintro ⟨q, hbefore, halike, hset⟩ r hr
    rw [drops_iff, Option.not_isSome_iff_eq_none] at hset
    exact resolved_ne_without hB hdrops ((Bag.pair_sublist_left hB).1 hbefore) halike hset hr

/-- A size that is no number is taken over by a later one, and costs nothing. -/
theorem resolved_erase_dropped_first :
    let B : Properties := Bag.ofList [("--active-font-size", "big"), ("--pressed-font-size", "12")]
    ¬ Costs .button B ("--active-font-size", "big") ∧
      resolved .button (B.erase "--active-font-size") = resolved .button B := by
  intro B
  have hfree : ¬ Costs .button B ("--active-font-size", "big") := by
    rintro ⟨q, hbefore, -⟩
    exact List.not_mem_nil ((Bag.pair_sublist_left (show B.entries = [] ++ _ :: _ from rfl)).1 hbefore)
  exact ⟨hfree, (resolved_erase_dropped .button B _ (by decide) ⟨_, rfl, by decide⟩).1 hfree⟩

/-- The size for the pressed state is lost with one that is no number. -/
theorem pressed_lost_with_active :
    let B : Properties := Bag.ofList [("--pressed-font-size", "12"), ("--active-font-size", "big")]
    ("--active-font-size", "big") ∈ B.entries ∧ Drops .button ("--active-font-size", "big") ∧
      resolved .button (B.erase "--active-font-size") ≠ resolved .button B := by
  intro B
  refine ⟨by decide, ⟨_, rfl, by decide⟩, fun h => ?_⟩
  have hstyle := congrArg (fun x => x.toOption.map (·.style.isSome)) h
  exact absurd hstyle (by decide)

end Overlay
