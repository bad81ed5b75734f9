/-
Reports of dropped properties. Each property that is dropped among others is reported once, under the name by which
it was looked at last, which in a pool is the name without its mark. So a report names an entry of the properties
only where they have the shortened name too, with the same value, and two properties may be reported under one name.
-/
import Overlay.Proofs.Live.Operation
import Overlay.Proofs.Style.Dropped
import Overlay.Style.Restyle

namespace Overlay

/-! ## Properties that are dropped among others -/

/-- A later property that is read alike takes the place of this one. -/
def Replaced (kind : Kind) (properties : Properties) (p : String × String) : Prop :=
  ∃ q, [p, q].Sublist properties.entries ∧ Alike kind p q

/-- A property that would be dropped alone, and has kept its place until then. -/
structure Dropped (kind : Kind) (properties : Properties) (p : String × String) : Prop where
  mem : p ∈ properties.entries
  drops : Drops kind p
  notReplaced : ¬ Replaced kind properties p

/-- The entries of a pool, each with the property that it comes of. -/
def origins (kind : Kind) (state : StyleState) (ps : List (String × String)) : List (String × String × String) :=
  (Bag.ofList (ps.filterMap fun p => (pooled? kind state p).map fun e => (e.1, p))).entries

/-- The properties that drops may come of, in the order in which they are looked at last. -/
def lookedAt (kind : Kind) (ps : List (String × String)) : List (String × String) :=
  (ps.filter fun p => (refused? kind p).isSome) ++ StyleState.all.flatMap fun state => (origins kind state ps).map (·.2)

section Origins

variable {kind : Kind} {state : StyleState} {ps : List (String × String)} {p : String × String}

theorem pooled_of_origin {o : String × String × String} (h : o ∈ origins kind state ps) :
    pooled? kind state o.2 = some (o.1, o.2.2) := by
  obtain ⟨p, -, hp⟩ := List.mem_filterMap.1 (Bag.mem_of_mem_ofList h)
  obtain ⟨e, he, rfl⟩ := Option.map_eq_some_iff.1 hp
  rw [he, ← (pooled?_eq_some_iff.1 he).2]

theorem poolEntries_eq_origins (kind : Kind) (state : StyleState) (ps : List (String × String)) :
    poolEntries kind state ps = (origins kind state ps).map fun o => (o.1, o.2.2) := by
  unfold origins poolEntries
  rw [← Bag.entries_ofList_map (fun p : String × String => p.2), List.map_filterMap]
  congr 2
  refine List.filterMap_congr fun p _ => ?_
  rcases hp : pooled? kind state p with _ | e
  · rfl
  · exact congrArg some (Prod.ext rfl (pooled?_eq_some_iff.1 hp).2)

theorem poolDrops_eq_origins (kind : Kind) (state : StyleState) (ps : List (String × String)) :
    poolDrops kind (poolEntries kind state ps) = ((origins kind state ps).map (·.2)).filterMap (report? kind) := by
  unfold poolDrops
  rw [poolEntries_eq_origins, List.filterMap_map, List.filterMap_map]
  exact List.filterMap_congr fun o ho => (report?_of_pooled (pooled_of_origin ho)).symm

/-- The drops of a resolution come one by one of the properties that are looked at. -/
theorem drops_eq_lookedAt (kind : Kind) (ps : List (String × String)) :
    (Resolution.ofProperties kind ps).drops = (lookedAt kind ps).filterMap (report? kind) := by
  unfold lookedAt
  rw [Resolution.drops_ofProperties, List.filterMap_append, List.filterMap_flatMap]
  simp only [poolDrops_eq_origins]
  congr 1
  rw [List.filterMap_filter]
  refine List.filterMap_congr fun p _ => ?_
  rcases hp : refused? kind p with _ | d
  · rfl
  · exact (report?_eq_some_iff.2 (.inl hp)).symm

/-- A property has an entry in a pool unless a later one has come there under the same name. -/
theorem mem_origins_iff : p ∈ (origins kind state ps).map (·.2) ↔ ∃ l₁ l₂ name, ps = l₁ ++ p :: l₂ ∧
    pooled? kind state p = some (name, p.2) ∧ ∀ q ∈ l₂, ∀ value, pooled? kind state q ≠ some (name, value) := by
  unfold origins
  simp only [List.mem_map, Bag.mem_ofList_iff]
  constructor
  · rintro ⟨⟨name, p⟩, ⟨k₁, k₂, hsplit, hlater⟩, rfl⟩
    obtain ⟨l₁, l, rfl, -, hrest⟩ := List.filterMap_eq_append_iff.1 hsplit
    obtain ⟨l₂, q, l₃, rfl, -, hq, hk₂⟩ := List.filterMap_eq_cons_iff.1 hrest
    obtain ⟨e, he, heq⟩ := Option.map_eq_some_iff.1 hq
    cases heq
    refine ⟨l₁ ++ l₂, l₃, e.1, (List.append_assoc ..).symm, he.trans ?_, fun x hx value hpooled => ?_⟩
    · exact congrArg some (Prod.ext rfl (pooled?_eq_some_iff.1 he).2)
    · refine hlater (e.1, x) ?_ rfl
      rw [← hk₂, List.mem_filterMap]
      exact ⟨x, hx, by rw [hpooled]; rfl⟩
  · rintro ⟨l₁, l₂, name, rfl, hp, hlater⟩
    refine ⟨(name, p), ⟨l₁.filterMap fun p => (pooled? kind state p).map fun e => (e.1, p),
      l₂.filterMap fun p => (pooled? kind state p).map fun e => (e.1, p), ?_, fun o ho hname => ?_⟩, rfl⟩
    · rw [List.filterMap_append, List.filterMap_cons_some (by rw [hp]; rfl)]
    · obtain ⟨q, hq, hqo⟩ := List.mem_filterMap.1 ho
      obtain ⟨e, he, rfl⟩ := Option.map_eq_some_iff.1 hqo
      exact hlater q hq e.2 (he.trans (congrArg some (Prod.ext hname rfl)))

theorem nodup_origins (kind : Kind) (state : StyleState) (ps : List (String × String)) :
    ((origins kind state ps).map (·.2)).Nodup := by
  have hnd : (origins kind state ps).Nodup := (Bag.ofList _).distinct.of_map Prod.fst
  refine hnd.map_on fun o ho o' ho' heq => Prod.ext ?_ heq
  have hpooled := pooled_of_origin ho
  rw [heq, pooled_of_origin ho'] at hpooled
  exact (congrArg Prod.fst (Option.some.inj hpooled)).symm

theorem not_pooled_of_refused (h : (refused? kind p).isSome) (state : StyleState) : pooled? kind state p = none := by
  rcases hp : pooled? kind state p with _ | e
  · rfl
  · obtain ⟨heffect, -⟩ := pooled?_eq_some_iff.1 hp
    simp [refused?, heffect] at h

end Origins

theorem nodup_lookedAt {kind : Kind} {ps : List (String × String)} (h : ps.Nodup) : (lookedAt kind ps).Nodup := by
  refine List.nodup_append.2 ⟨h.filter _, List.nodup_flatMap.2 ⟨fun state _ => nodup_origins kind state ps, ?_⟩, ?_⟩
  · refine List.Pairwise.imp (fun {state state'} hne => ?_) (show StyleState.all.Pairwise (· ≠ ·) by decide)
    -- an effect adds to one pool alone
    intro p hp hp'
    obtain ⟨-, -, name, -, hpooled, -⟩ := mem_origins_iff.1 hp
    obtain ⟨-, -, name', -, hpooled', -⟩ := mem_origins_iff.1 hp'
    have heffect := (pooled?_eq_some_iff.1 hpooled).1.symm.trans (pooled?_eq_some_iff.1 hpooled').1
    cases heffect
    exact hne rfl
  · rintro p hp q hq rfl
    obtain ⟨state, -, hq⟩ := List.mem_flatMap.1 hq
    obtain ⟨-, -, name, -, hpooled, -⟩ := mem_origins_iff.1 hq
    rw [not_pooled_of_refused (List.mem_filter.1 hp).2] at hpooled
    cases hpooled

theorem ne_of_after {properties : Properties} {l₁ l₂ : List (String × String)} {p q : String × String}
    (h : properties.entries = l₁ ++ p :: l₂) (hq : q ∈ l₂) : p.1 ≠ q.1 := by
  have hdistinct := properties.distinct
  rw [h, List.map_append, List.map_cons, List.nodup_append, List.nodup_cons] at hdistinct
  exact fun heq => hdistinct.2.1.1 (heq ▸ List.mem_map_of_mem hq)

/-- A property keeps its place in a pool unless it is replaced. -/
theorem mem_origins_iff_not_replaced {kind : Kind} {state : StyleState} {properties : Properties}
    {p e : String × String} (hp : p ∈ properties.entries) (hpooled : pooled? kind state p = some e) :
    p ∈ (origins kind state properties.entries).map (·.2) ↔ ¬ Replaced kind properties p := by
  constructor
  · rintro horigin ⟨q, hbefore, halike⟩
    obtain ⟨k₁, k₂, name', hsplit', hpooled', hlater⟩ := mem_origins_iff.1 horigin
    have hq : q ∈ k₂ := (Bag.pair_sublist_right hsplit').1 hbefore
    obtain ⟨state', name, hpooled₁, hqpooled⟩ := halike.pooled (ne_of_after hsplit' hq)
    have heffect := (pooled?_eq_some_iff.1 hpooled₁).1.symm.trans (pooled?_eq_some_iff.1 hpooled').1
    cases heffect
    exact hlater q hq _ hqpooled
  · intro hfree
    obtain ⟨l₁, l₂, hsplit⟩ := List.append_of_mem hp
    refine mem_origins_iff.2 ⟨l₁, l₂, e.1, hsplit, ?_, fun q hq value hqpooled => hfree ⟨q, ?_, ?_⟩⟩
    · exact hpooled.trans (congrArg some (Prod.ext rfl (pooled?_eq_some_iff.1 hpooled).2))
    · exact (Bag.pair_sublist_right hsplit).2 hq
    · exact .of_pooled hpooled hqpooled rfl (ne_of_after hsplit hq)

/-- Of the properties that would be dropped alone those are looked at that are not replaced. -/
theorem mem_lookedAt_iff {kind : Kind} {properties : Properties} {p : String × String} (hp : p ∈ properties.entries)
    (hdrop : (report? kind p).isSome) : p ∈ lookedAt kind properties.entries ↔ ¬ Replaced kind properties p := by
  unfold lookedAt
  rw [List.mem_append, List.mem_filter, List.mem_flatMap]
  obtain ⟨d, hd⟩ := Option.isSome_iff_exists.1 hdrop
  rcases report?_eq_some_iff.1 hd with hrefused | ⟨state, e, hpooled, -⟩
  · have hrefused : (refused? kind p).isSome := by
      rw [hrefused]
      rfl
    refine iff_of_true (.inl ⟨hp, hrefused⟩) ?_
    rintro ⟨q, hbefore, halike⟩
    obtain ⟨l₁, l₂, hsplit⟩ := List.append_of_mem hp
    obtain ⟨state, name, hpooled, -⟩ := halike.pooled (ne_of_after hsplit ((Bag.pair_sublist_right hsplit).1 hbefore))
    rw [not_pooled_of_refused hrefused] at hpooled
    cases hpooled
  · rw [← mem_origins_iff_not_replaced hp hpooled]
    constructor
    · rintro (⟨-, hrefused⟩ | ⟨state', -, horigin⟩)
      · rw [not_pooled_of_refused hrefused] at hpooled
        cases hpooled
      · obtain ⟨-, -, name, -, hpooled', -⟩ := mem_origins_iff.1 horigin
        have heffect := (pooled?_eq_some_iff.1 hpooled).1.symm.trans (pooled?_eq_some_iff.1 hpooled').1
        cases heffect
        exact horigin
    · exact fun horigin => .inr ⟨state, state.mem_all, horigin⟩

/-! ## Names in reports -/

/-- The name under which a property is reported when it is dropped. -/
def reportedName (kind : Kind) (name : String) : String := if kind.isInteractive then (splitState name).2 else name

theorem report?_name {kind : Kind} {p : String × String} {d : Drop} (h : report? kind p = some d) :
    d.property = reportedName kind p.1 ∧ d.value = p.2 := by
  unfold reportedName
  rcases report?_eq_some_iff.1 h with hrefused | ⟨state, e, hpooled, hunset⟩
  · unfold refused? at hrefused
    split at hrefused <;> cases hrefused
    rename_i reason heffect
    refine ⟨?_, rfl⟩
    split_ifs with hk
    · rcases hsplit : splitState p.1 with ⟨_ | state, name⟩
      · exact (splitState_of_none hsplit).symm
      · rw [effect_of_mark hsplit, if_pos hk] at heffect
        cases heffect
    · rfl
  · obtain ⟨heffect, hvalue⟩ := pooled?_eq_some_iff.1 hpooled
    unfold unset? at hunset
    split at hunset <;> cases hunset
    refine ⟨?_, hvalue⟩
    rcases effect_eq_style heffect with ⟨hk, hmark⟩ | ⟨hmark, -, hname⟩
    · rw [if_pos hk, hmark]
    · rw [hmark, ite_self, hname]

/-- Reports that name entries of the properties, and none of them twice. -/
structure NamesEntries (properties : Properties) (ds : List Drop) : Prop where
  nodup : (ds.map (·.property)).Nodup
  mem : ∀ d ∈ ds, (d.property, d.value) ∈ properties.entries

/-- A dropped property that is reported under a shortened name shares this name and the value with an entry, and the
name with no other dropped property. -/
def Traceable (kind : Kind) (properties : Properties) : Prop :=
  ∀ p, Dropped kind properties p → reportedName kind p.1 ≠ p.1 →
    (reportedName kind p.1, p.2) ∈ properties.entries ∧
      ∀ q, Dropped kind properties q → reportedName kind q.1 = reportedName kind p.1 → q = p

theorem NamesEntries.of_beginning {properties : Properties} {ds ds' : List Drop} (h : NamesEntries properties ds)
    (hds : ds' <+: ds) : NamesEntries properties ds' :=
  ⟨h.nodup.sublist (hds.sublist.map _), fun d hd => h.mem d (hds.subset hd)⟩

theorem mem_filter_lookedAt_iff {kind : Kind} {properties : Properties} {p : String × String} :
    p ∈ (lookedAt kind properties.entries).filter (fun p => (report? kind p).isSome) ↔ Dropped kind properties p := by
  rw [List.mem_filter]
  constructor
  · rintro ⟨hlooked, hdrop⟩
    have hp : p ∈ properties.entries := by
      rcases List.mem_append.1 hlooked with hrefused | horigin
      · exact (List.mem_filter.1 hrefused).1
      · obtain ⟨state, -, horigin⟩ := List.mem_flatMap.1 horigin
        obtain ⟨l₁, l₂, -, hsplit, -⟩ := mem_origins_iff.1 horigin
        exact hsplit ▸ List.mem_append_right l₁ (List.mem_cons_self ..)
    exact ⟨hp, drops_iff.2 hdrop, (mem_lookedAt_iff hp hdrop).1 hlooked⟩
  · rintro ⟨hp, hdrops, hfree⟩
    exact ⟨(mem_lookedAt_iff hp (drops_iff.1 hdrops)).2 hfree, drops_iff.1 hdrops⟩

/-- The drops of a resolution are those of the dropped properties, one of each. -/
theorem drops_of_dropped (kind : Kind) (properties : Properties) : ∃ ps : List (String × String),
    ps.Nodup ∧ (∀ p, p ∈ ps ↔ Dropped kind properties p) ∧
      (Resolution.ofProperties kind properties.entries).drops.map (fun d => (d.property, d.value)) =
        ps.map fun p => (reportedName kind p.1, p.2) := by
  refine ⟨(lookedAt kind properties.entries).filter fun p => (report? kind p).isSome,
    (nodup_lookedAt (properties.distinct.of_map Prod.fst)).filter _, fun p => mem_filter_lookedAt_iff, ?_⟩
  rw [drops_eq_lookedAt, List.map_filterMap, ← List.filterMap_eq_map, List.filterMap_filter]
  refine List.filterMap_congr fun p _ => ?_
  rcases hp : report? kind p with _ | d
  · rfl
  · obtain ⟨hname, hvalue⟩ := report?_name hp
    exact congrArg some (Prod.ext hname hvalue)

theorem namesEntries_iff {kind : Kind} {properties : Properties} {ds : List Drop} {ps : List (String × String)}
    (hnd : ps.Nodup) (hps : ∀ p, p ∈ ps ↔ Dropped kind properties p)
    (hds : ds.map (fun d => (d.property, d.value)) = ps.map fun p => (reportedName kind p.1, p.2)) :
    NamesEntries properties ds ↔ Traceable kind properties := by
  have hnames : ds.map (·.property) = ps.map fun p => reportedName kind p.1 := by
    have hfirst := congrArg (List.map Prod.fst) hds
    rw [List.map_map, List.map_map] at hfirst
    exact hfirst
  have hdistinct : (ds.map (·.property)).Nodup ↔ ∀ p, Dropped kind properties p → ∀ q, Dropped kind properties q →
      reportedName kind p.1 = reportedName kind q.1 → p = q := by
    rw [hnames, List.nodup_map_iff_inj_on hnd]
    simp only [hps]
  have hmem : (∀ d ∈ ds, (d.property, d.value) ∈ properties.entries) ↔
      ∀ p, Dropped kind properties p → (reportedName kind p.1, p.2) ∈ properties.entries := by
    rw [← List.forall_mem_map (P := (· ∈ properties.entries)), hds, List.forall_mem_map]
    simp only [hps]
  constructor
  · rintro ⟨hnodup, hentry⟩ p hp -
    exact ⟨hmem.1 hentry p hp, fun q hq hname => hdistinct.1 hnodup q hq p hp hname⟩
  · intro h
    refine ⟨hdistinct.2 fun p hp q hq hname => ?_, hmem.2 fun p hp => ?_⟩
    · by_cases hpname : reportedName kind p.1 = p.1
      · by_cases hqname : reportedName kind q.1 = q.1
        · rw [hpname, hqname] at hname
          exact List.inj_on_of_nodup_map properties.distinct hp.mem hq.mem hname
        · exact (h q hq hqname).2 p hp hname
      · exact ((h p hp hpname).2 q hq hname.symm).symm
    · by_cases hname : reportedName kind p.1 = p.1
      · rw [hname]
        exact hp.mem
      · exact (h p hp hname).1

/-! ## What is reported -/

namespace Act

theorem run_reportDrops (kind : Kind) : ∀ (ds : List Drop) (w : World), (reportDrops kind ds).run w =
    (.ok (), { w with log := w.log ++ ds.map fun d => .report (.styleDropped kind d) })
  | [], w => by
    rw [List.map_nil, List.append_nil]
    rfl
  | d :: ds, w => by
    have hfirst : (report (.styleDropped kind d)).run w =
        (.ok (), { w with log := w.log ++ [.report (.styleDropped kind d)] }) := rfl
    unfold reportDrops
    rw [run_forM_cons, run_bind_ok hfirst]
    refine (run_reportDrops kind ds _).trans ?_
    rw [List.map_cons, List.append_assoc, List.singleton_append]

/-- The drops are reported before anything is put on the node. -/
theorem log_applyStyles (w : World) (i : NodeId) (properties : Properties) :
    ((applyStyles i properties).run w).2.log = w.log ++
      (match resolve (w.store.node i).kind properties with
        | .ok r => r.drops
        | .error stop => stop.drops).map fun d => .report (.styleDropped (w.store.node i).kind d) := by
  unfold applyStyles
  rw [run_bind_ok (run_store w)]
  dsimp only
  rcases resolve (w.store.node i).kind properties with stop | r
  · rw [run_bind_ok (run_reportDrops ..)]
    rfl
  · rw [run_bind_ok (run_reportDrops ..), run_bind, run_ofEdit]
    dsimp only
    rcases (Edit.restyle i r).run w.store with ⟨v | a, s⟩ <;> rfl

end Act

/-- Resolving properties for a node reports the drops in their order, one for each property that is dropped. The
reports name entries of the properties, and none of them twice, exactly if those under shortened names can be traced
to entries. -/
theorem drops_reported (w : World) (i : NodeId) (B : Properties) : ∃ ds : List Drop,
    ((Act.applyStyles i B).run w).2.log =
      w.log ++ ds.map (fun d => .report (.styleDropped (w.store.node i).kind d)) ∧
    (∀ r, resolve (w.store.node i).kind B = .ok r → r.dropped = ds.map (·.property) ∧
      (∃ ps : List (String × String), ps.Nodup ∧ (∀ p, p ∈ ps ↔ Dropped (w.store.node i).kind B p) ∧
        ds.map (fun d => (d.property, d.value)) = ps.map fun p => (reportedName (w.store.node i).kind p.1, p.2)) ∧
      (NamesEntries B ds ↔ Traceable (w.store.node i).kind B)) ∧
    (Traceable (w.store.node i).kind B → NamesEntries B ds) := by
  have hlog := Act.log_applyStyles w i B
  obtain ⟨ps, hnd, hps, hds⟩ := drops_of_dropped (w.store.node i).kind B
  have hnames := namesEntries_iff hnd hps hds
  rcases resolve_cases (w.store.node i).kind B with ⟨-, hok⟩ | ⟨n, ds, -, herror, hbeginning⟩
  · rw [hok] at hlog
    refine ⟨_, hlog, fun r hr => ?_, hnames.2⟩
    obtain rfl := Except.ok.inj (hok.symm.trans hr)
    exact ⟨rfl, ⟨ps, hnd, hps, hds⟩, hnames⟩
  · rw [herror] at hlog
    refine ⟨ds, hlog, fun r hr => ?_, fun h => (hnames.2 h).of_beginning hbeginning⟩
    rw [herror] at hr
    cases hr

/-- A border for the hovered state is reported like one for the default state. -/
theorem border_reported_twice :
    let w : World := { store := ⟨#[{ kind := .button }]⟩ }
    let B : Properties := Bag.ofList [("border", "red"), ("--hover-border", "blue")]
    ((Act.applyStyles 0 B).run w).2.log = [.report (.styleDropped .button ⟨"border", "red", .unsupported⟩),
      .report (.styleDropped .button ⟨"border", "blue", .unsupported⟩)] ∧ ("border", "blue") ∉ B.entries := by
  intro w B
  have hdrops : (resolve .button B).toOption.map (·.drops) =
      some [⟨"border", "red", .unsupported⟩, ⟨"border", "blue", .unsupported⟩] := by decide
  refine ⟨?_, by decide⟩
  rcases hr : resolve .button B with stop | r
  · rw [hr] at hdrops
    cases hdrops
  · rw [hr] at hdrops
    have hdrops : r.drops = _ := Option.some.inj hdrops
    rw [Act.log_applyStyles, show (w.store.node 0).kind = .button from rfl, hr]
    dsimp only
    rw [hdrops]
    rfl

end Overlay
