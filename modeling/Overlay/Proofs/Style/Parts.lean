/-
Parts of a resolution. What a property does is not changed by those read before it, so a resolution that goes
through is put together from parts that are read off the properties one by one: what is set directly, the pool of
each state with the bucket it comes to, and the drops. The first number that is too long stops a resolution, and
what was dropped until then is the beginning of what would have been dropped.
-/
import Overlay.Proofs.Style.Effect
import Overlay.Proofs.Style.Pool

namespace Overlay

/-! ## Reading a pool -/

/-- Takes in an entry of a pool, unless it cannot be read. -/
def readSetting (kind : Kind) (acc : Bucket × List Drop) (p : String × String) : Bucket × List Drop :=
  ((((said? kind p).bind (·.toOption)).elim acc.1 acc.1.put), acc.2 ++ (unset? kind p).toList)

theorem takeSetting_of_none {kind : Kind} (acc : Bucket × List Drop) (p : String × String)
    (h : stop? (setting kind p.1 p.2) = none) : takeSetting kind acc p = .ok (readSetting kind acc p) := by
  unfold takeSetting readSetting
  rcases said?_cases kind p with ⟨reason, hset, hsaid, hunset⟩ | ⟨hsaid, hunset⟩
  · rw [hset, hsaid, hunset]
    rfl
  · rw [hsaid, hunset]
    rcases hset : setting kind p.1 p.2 with n | x
    · rw [hset] at h
      cases h
    · cases x with
      | drop reason => simp [unset?, hset] at hunset
      | _ => simp [Except.toOption]

theorem takeSetting_of_some {kind : Kind} {n : NumeralTooLong} (acc : Bucket × List Drop) (p : String × String)
    (h : stop? (setting kind p.1 p.2) = some n) : takeSetting kind acc p = .error ⟨n, acc.2⟩ := by
  unfold takeSetting
  rcases hset : setting kind p.1 p.2 with m | x <;> rw [hset] at h <;> cases h
  rfl

theorem foldl_readSetting (kind : Kind) : ∀ (es : List (String × String)) (acc : Bucket × List Drop),
    es.foldl (readSetting kind) acc =
      (((sayings kind es).filterMap (·.toOption)).foldl Bucket.put acc.1, acc.2 ++ poolDrops kind es)
  | [], acc => by simp [sayings, poolDrops]
  | p :: es, acc => by
    rw [List.foldl_cons, foldl_readSetting kind es]
    unfold sayings poolDrops readSetting
    rcases said?_cases kind p with ⟨reason, -, hsaid, hunset⟩ | ⟨hsaid, hunset⟩
    · simp [hsaid, hunset]
    · rcases hset : setting kind p.1 p.2 with n | x <;> simp [hset, hsaid, hunset, Except.toOption]

/-- Takes in the pool of a state, unless it cannot be read. -/
def readPool (kind : Kind) (pools : StyleState → Properties) (acc : Style × List Drop) (state : StyleState) :
    Style × List Drop :=
  ((poolBucket kind (pools state).entries).elim acc.1 (acc.1.put state), acc.2 ++ poolDrops kind (pools state).entries)

theorem takePool_of_none {kind : Kind} {pools : StyleState → Properties} (acc : Style × List Drop) (state : StyleState)
    (h : poolStop? kind (pools state).entries = none) :
    takePool kind pools acc state = .ok (readPool kind pools acc state) := by
  unfold takePool readPool
  rw [foldlM_of_none takeSetting_of_none h, foldl_readSetting]
  refine congrArg Except.ok ?_
  rcases hb : poolBucket kind (pools state).entries with _ | b <;> unfold poolBucket at hb <;> simp [hb]

theorem takePool_of_some {kind : Kind} {pools : StyleState → Properties} {n : NumeralTooLong} (acc : Style × List Drop)
    (state : StyleState) (h : poolStop? kind (pools state).entries = some n) :
    ∃ ds, ds <+: (readPool kind pools acc state).2 ∧ takePool kind pools acc state = .error ⟨n, ds⟩ := by
  obtain ⟨l₁, p, hprefix, hp, hstop⟩ := foldlM_of_some takeSetting_of_none (s := ({}, acc.2)) h
  have hfold := hstop _ (takeSetting_of_some _ p hp)
  rw [foldl_readSetting] at hfold
  refine ⟨acc.2 ++ poolDrops kind l₁, ?_, ?_⟩
  · exact (List.prefix_append_right_inj _).2 (((List.prefix_append l₁ [p]).trans hprefix).filterMap _)
  · unfold takePool
    rw [hfold]
    rfl

/-! ## Reading properties -/

/-- The name under which an effect adds to the pool of a state. -/
def Effect.poolName? (state : StyleState) : Effect → Option String
  | .style s name => if state = s then some name else none
  | _ => none

/-- What a property adds to the pool of a state. -/
def pooled? (kind : Kind) (state : StyleState) (p : String × String) : Option (String × String) :=
  (effect kind p.1 p.2).toOption.bind fun e => (e.poolName? state).map (·, p.2)

theorem pooled?_eq_some_iff {kind : Kind} {state : StyleState} {p e : String × String} :
    pooled? kind state p = some e ↔ effect kind p.1 p.2 = .ok (.style state e.1) ∧ e.2 = p.2 := by
  unfold pooled?
  rcases effect kind p.1 p.2 with n | x
  · simp [Except.toOption]
  · cases x with
    | style s name =>
      by_cases hs : state = s
      · subst hs
        simp [Effect.poolName?, Except.toOption, Prod.ext_iff, eq_comm]
      · simp [Effect.poolName?, Except.toOption, hs, Ne.symm hs]
    | _ => simp [Effect.poolName?, Except.toOption]

/-- The pool of a state, as properties fill it. -/
def poolEntries (kind : Kind) (state : StyleState) (ps : List (String × String)) : List (String × String) :=
  (Bag.ofList (ps.filterMap (pooled? kind state))).entries

/-- The report of a property that is dropped and goes to no pool. -/
def refused? (kind : Kind) (p : String × String) : Option Drop :=
  match effect kind p.1 p.2 with
  | .ok (.drop reason) => some ⟨p.1, p.2, reason⟩
  | _ => none

/-- What a property sets by itself, if it is neither dropped nor goes to a pool. -/
def direct? (kind : Kind) (p : String × String) : Option Effect :=
  match effect kind p.1 p.2 with
  | .ok (.style ..) => none
  | .ok (.drop _) => none
  | .ok e => some e
  | .error _ => none

namespace Draft

/-- Takes in a property, unless it cannot be read. -/
def read (kind : Kind) (d : Draft) (p : String × String) : Draft :=
  match effect kind p.1 p.2 with
  | .ok e => d.apply p.1 p.2 e
  | .error _ => d

theorem take_of_none {kind : Kind} (d : Draft) (p : String × String) (h : stop? (effect kind p.1 p.2) = none) :
    take kind d p = .ok (read kind d p) := by
  unfold take read
  rcases he : effect kind p.1 p.2 with n | e
  · rw [he] at h
    cases h
  · rfl

theorem take_of_some {kind : Kind} {n : NumeralTooLong} (d : Draft) (p : String × String)
    (h : stop? (effect kind p.1 p.2) = some n) : take kind d p = .error ⟨n, d.drops⟩ := by
  unfold take
  rcases he : effect kind p.1 p.2 with m | e <;> rw [he] at h <;> cases h
  rfl

/-- What properties come to. -/
def ofProperties (kind : Kind) (ps : List (String × String)) : Draft := ps.foldl (read kind) empty

theorem pools_ofProperties (kind : Kind) (state : StyleState) (ps : List (String × String)) :
    (ofProperties kind ps).pools state = Bag.ofList (ps.filterMap (pooled? kind state)) := by
  unfold ofProperties Bag.ofList Bag.putAll
  rw [List.foldl_filterMap]
  refine (List.foldl_hom (fun d : Draft => d.pools state) fun d p => ?_).symm
  unfold pooled? read
  rcases effect kind p.1 p.2 with n | e
  · rfl
  · cases e with
    | style s name => by_cases hs : state = s <;> simp [apply, Effect.poolName?, Except.toOption, hs]
    | _ => rfl

theorem entries_pools (kind : Kind) (state : StyleState) (ps : List (String × String)) :
    ((ofProperties kind ps).pools state).entries = poolEntries kind state ps := by
  rw [pools_ofProperties]
  rfl

theorem drops_read (kind : Kind) (d : Draft) (p : String × String) :
    (read kind d p).drops = d.drops ++ (refused? kind p).toList := by
  unfold read refused?
  rcases effect kind p.1 p.2 with n | e
  · simp
  · cases e <;> simp [apply]

theorem drops_foldl (kind : Kind) : ∀ (ps : List (String × String)) (d : Draft),
    (ps.foldl (read kind) d).drops = d.drops ++ ps.filterMap (refused? kind)
  | [], d => by simp
  | p :: ps, d => by
    rw [List.foldl_cons, drops_foldl kind ps, drops_read]
    rcases hp : refused? kind p with _ | r <;> simp [hp]

theorem drops_ofProperties (kind : Kind) (ps : List (String × String)) :
    (ofProperties kind ps).drops = ps.filterMap (refused? kind) :=
  drops_foldl kind ps empty

/-- What is set directly, without pools and drops. -/
def direct (d : Draft) : Draft := { d with pools := fun _ => Bag.empty, drops := [] }

theorem direct_ofProperties (kind : Kind) (ps : List (String × String)) :
    (ofProperties kind ps).direct = (ps.filterMap (direct? kind)).foldl (fun d e => d.apply "" "" e) empty := by
  unfold ofProperties
  rw [List.foldl_filterMap]
  refine (List.foldl_hom direct fun d p => ?_).symm
  unfold direct? read
  rcases effect kind p.1 p.2 with n | e
  · rfl
  · cases e <;> rfl

end Draft

/-! ## The whole -/

theorem StyleState.mem_all (state : StyleState) : state ∈ all := by
  cases state <;> decide

/-- The buckets that pools come to. -/
def Style.ofPools (kind : Kind) (pools : StyleState → Properties) : Style :=
  StyleState.all.foldl (fun style state => (poolBucket kind (pools state).entries).elim style (style.put state))
    Bag.empty

theorem Style.bucket_ofPools (kind : Kind) (pools : StyleState → Properties) (state : StyleState) :
    (Style.ofPools kind pools).bucket state = poolBucket kind (pools state).entries := by
  have hgather : ∀ (states : List StyleState) (style : Style),
      (states.foldl (fun style s => (poolBucket kind (pools s).entries).elim style (style.put s)) style).bucket state =
        (if state ∈ states then poolBucket kind (pools state).entries else none).or (style.bucket state) := by
    intro states
    induction states with
    | nil => exact fun _ => rfl
    | cons s states ih =>
      intro style
      rw [List.foldl_cons, ih]
      by_cases hs : state = s
      · subst hs
        rcases poolBucket kind (pools state).entries with _ | b
        · simp
        · by_cases hmem : state ∈ states <;> simp [Style.bucket, Bag.get?_put, hmem]
      · rcases poolBucket kind (pools s).entries with _ | b
        · simp [hs]
        · simp [hs, Style.bucket, Bag.get?_put, Ne.symm hs]
  rw [Style.ofPools, hgather, if_pos state.mem_all]
  exact Option.or_none

theorem Style.ofPools_congr {kind : Kind} {ps qs : List (String × String)}
    (h : ∀ state, poolBucket kind (poolEntries kind state ps) = poolBucket kind (poolEntries kind state qs)) :
    ofPools kind (Draft.ofProperties kind ps).pools = ofPools kind (Draft.ofProperties kind qs).pools := by
  unfold ofPools
  simp only [Draft.entries_pools, h]

/-- The resolution that properties come to, but for those that cannot be read. -/
def Resolution.ofProperties (kind : Kind) (ps : List (String × String)) : Resolution :=
  let d := Draft.ofProperties kind ps
  let style := Style.ofPools kind d.pools
  { style := if style.isEmpty then none else some style
    anchor := if d.direct.anchor = {} then none else some d.direct.anchor
    edits := d.direct.edits
    visible := d.direct.visible
    flexWeight := d.direct.flexWeight
    layoutMode := d.direct.layoutMode
    drops := ps.filterMap (refused? kind) ++
      StyleState.all.flatMap fun state => poolDrops kind (d.pools state).entries }

/-- The first number that stops the resolution of properties. -/
def resolveStop? (kind : Kind) (ps : List (String × String)) : Option NumeralTooLong :=
  (ps.findSome? fun p => stop? (effect kind p.1 p.2)).or
    (StyleState.all.findSome? fun state => poolStop? kind ((Draft.ofProperties kind ps).pools state).entries)

theorem foldl_readPool (kind : Kind) (pools : StyleState → Properties) : ∀ (states : List StyleState)
    (acc : Style × List Drop), states.foldl (readPool kind pools) acc =
      (states.foldl (fun style s => (poolBucket kind (pools s).entries).elim style (style.put s)) acc.1,
        acc.2 ++ states.flatMap fun s => poolDrops kind (pools s).entries)
  | [], acc => by simp
  | s :: states, acc => by
    rw [List.foldl_cons, foldl_readPool kind pools states]
    simp [readPool]

theorem resolve_of_none {kind : Kind} {properties : Properties} (h : resolveStop? kind properties.entries = none) :
    resolve kind properties = .ok (Resolution.ofProperties kind properties.entries) := by
  obtain ⟨hread, hpools⟩ := Option.or_eq_none_iff.1 h
  unfold resolve
  rw [foldlM_of_none Draft.take_of_none hread]
  show StyleState.all.foldlM (takePool kind (Draft.ofProperties kind properties.entries).pools)
    (Bag.empty, (Draft.ofProperties kind properties.entries).drops) >>= _ = _
  rw [foldlM_of_none takePool_of_none hpools, foldl_readPool, Draft.drops_ofProperties]
  rfl

/-- A resolution that is stopped has dropped a beginning of what it would have dropped. -/
theorem resolve_of_some {kind : Kind} {properties : Properties} {n : NumeralTooLong}
    (h : resolveStop? kind properties.entries = some n) :
    ∃ ds, ds <+: (Resolution.ofProperties kind properties.entries).drops ∧
      resolve kind properties = .error ⟨n, ds⟩ := by
  rcases Option.or_eq_some_iff.1 h with hread | ⟨hread, hpools⟩
  · -- one of the properties stops it, and no pool is read
    obtain ⟨l₁, p, hprefix, hp, hstop⟩ := foldlM_of_some Draft.take_of_none (s := Draft.empty) hread
    have hfold := hstop _ (Draft.take_of_some _ p hp)
    rw [Draft.drops_foldl] at hfold
    refine ⟨l₁.filterMap (refused? kind), ?_, ?_⟩
    · exact (((List.prefix_append l₁ [p]).trans hprefix).filterMap _).trans (List.prefix_append ..)
    · unfold resolve
      rw [hfold]
      rfl
  · let d := Draft.ofProperties kind properties.entries
    obtain ⟨l₁, state, ⟨l₂, hstates⟩, hp, hstop⟩ := foldlM_of_some takePool_of_none (s := (Bag.empty, d.drops)) hpools
    obtain ⟨ds, hds, herror⟩ := takePool_of_some (l₁.foldl (readPool kind d.pools) (Bag.empty, d.drops)) state hp
    refine ⟨ds, hds.trans ?_, ?_⟩
    · show _ <+: _ ++ StyleState.all.flatMap _
      rw [foldl_readPool, Draft.drops_ofProperties, ← hstates]
      exact ⟨l₂.flatMap fun s => poolDrops kind (d.pools s).entries, by simp [readPool, d]⟩
    · unfold resolve
      rw [foldlM_of_none Draft.take_of_none hread]
      show StyleState.all.foldlM (takePool kind d.pools) (Bag.empty, d.drops) >>= _ = _
      rw [hstop _ herror]
      rfl

theorem resolve_cases (kind : Kind) (properties : Properties) :
    (resolveStop? kind properties.entries = none ∧
      resolve kind properties = .ok (Resolution.ofProperties kind properties.entries)) ∨
    ∃ n ds, resolveStop? kind properties.entries = some n ∧ resolve kind properties = .error ⟨n, ds⟩ ∧
      ds <+: (Resolution.ofProperties kind properties.entries).drops := by
  rcases h : resolveStop? kind properties.entries with _ | n
  · exact .inl ⟨rfl, resolve_of_none h⟩
  · obtain ⟨ds, hds, hresolve⟩ := resolve_of_some h
    exact .inr ⟨n, ds, rfl, hresolve, hds⟩

theorem resolve_ok_iff {kind : Kind} {properties : Properties} {r : Resolution} :
    resolve kind properties = .ok r ↔
      resolveStop? kind properties.entries = none ∧ r = Resolution.ofProperties kind properties.entries := by
  rcases resolve_cases kind properties with ⟨hnone, hok⟩ | ⟨n, ds, hsome, herror, -⟩
  · simp [hnone, hok, eq_comm]
  · simp [hsome, herror]

theorem exists_resolution {α : Type} {kind : Kind} {properties : Properties} {f : Resolution → α} {a : α}
    (h : (resolve kind properties).toOption.map f = some a) : ∃ r, resolve kind properties = .ok r ∧ f r = a := by
  obtain ⟨r, hr, hf⟩ := Option.map_eq_some_iff.1 h
  rcases hres : resolve kind properties with cause | r' <;> rw [hres] at hr
  · cases hr
  · cases hr
    exact ⟨r, rfl, hf⟩

theorem resolveStop?_eq_none_iff {kind : Kind} {ps : List (String × String)} :
    resolveStop? kind ps = none ↔ (∀ p ∈ ps, stop? (effect kind p.1 p.2) = none) ∧
      ∀ state, poolStop? kind (poolEntries kind state ps) = none := by
  unfold resolveStop?
  simp only [Option.or_eq_none_iff, List.findSome?_eq_none_iff, Draft.entries_pools, StyleState.mem_all, true_imp_iff]

theorem Resolution.drops_ofProperties (kind : Kind) (ps : List (String × String)) :
    (Resolution.ofProperties kind ps).drops = ps.filterMap (refused? kind) ++
      StyleState.all.flatMap fun state => poolDrops kind (poolEntries kind state ps) := by
  simp only [Resolution.ofProperties, Draft.entries_pools]

/-- The bucket of a state, if there is one. -/
def Resolution.bucket (r : Resolution) (state : StyleState) : Option Bucket := r.style.bind (·.bucket state)

theorem Resolution.bucket_ofProperties (kind : Kind) (ps : List (String × String)) (state : StyleState) :
    (Resolution.ofProperties kind ps).bucket state =
      poolBucket kind (poolEntries kind state ps) := by
  rw [← Draft.entries_pools, ← Style.bucket_ofPools]
  simp only [Resolution.bucket, Resolution.ofProperties]
  generalize Style.ofPools kind (Draft.ofProperties kind ps).pools = style
  by_cases hempty : style.isEmpty
  · rw [if_pos hempty]
    obtain ⟨entries, distinct⟩ := style
    obtain rfl : entries = [] := List.isEmpty_iff.1 hempty
    rfl
  · rw [if_neg hempty]
    rfl

/-! ## The pool of the default state -/

section Default

variable {kind : Kind}

/-- For an interactive kind all names of the fields go to the pool of the default state. -/
theorem effect_of_isNamed (hk : kind.isInteractive) {field : BucketField} {name : String} (h : field.isNamed name)
    (value : String) : effect kind name value = .ok (.style .default name) := by
  cases field with
  | background => exact effect_background hk h value
  | _ =>
    obtain rfl := of_decide_eq_true h
    rw [effect_eq_plain (by decide)]
    rfl

/-- Properties go to the pool of the default state as they are. -/
theorem poolEntries_default (kind : Kind) (properties : Properties) :
    poolEntries kind .default properties.entries =
      properties.entries.filter fun p => (pooled? kind .default p).isSome := by
  have hguard : pooled? kind .default = Option.guard fun p => (pooled? kind .default p).isSome := by
    funext p
    rcases hp : pooled? kind .default p with _ | e
    · simp [Option.guard, hp]
    · obtain ⟨heffect, hvalue⟩ := pooled?_eq_some_iff.1 hp
      rcases effect_eq_style heffect with ⟨-, hmark⟩ | ⟨-, -, hname⟩
      · exact absurd rfl (splitState_ne_default hmark)
      · obtain rfl : e = p := Prod.ext hname hvalue
        simp [Option.guard, hp]
  unfold poolEntries
  conv_lhs => rw [hguard, List.filterMap_eq_filter]
  exact Bag.entries_ofList (properties.distinct.sublist (List.filter_sublist.map Prod.fst))

/-- The pool of the default state says what all the properties would say. -/
theorem saySame_default (hk : kind.isInteractive) (properties : Properties) :
    SaySame kind (poolEntries kind .default properties.entries) properties.entries := by
  intro field
  unfold sayings
  rw [poolEntries_default, List.filter_comm, filterMap_filter_of_none]
  intro p hp hunpooled
  rcases hsaid : said? kind p with _ | x
  · rfl
  · obtain ⟨field, hfield⟩ := isNamed_of_said? hsaid
    rw [pooled?_eq_some_iff.2 ⟨effect_of_isNamed hk hfield p.2, rfl⟩] at hunpooled
    cases hunpooled

end Default

end Overlay
