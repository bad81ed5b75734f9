/-
What a program shows of a style. A resolution that is put on a fresh node is not lost on the way to the program: the
style of an interactive kind is defined before the node and used after it, other styles and anchors stand in the node's
definition, and each edit is a command after it.
-/
import Overlay.Proofs.Element.Restyle
import Overlay.Proofs.Program.Layout
import Overlay.Proofs.Style.Rendered

namespace Overlay

/-! ## Preparing and emitting a node without children -/

/-- A node that nothing was put on yet and that stands alone. -/
structure Node.Fresh (n : Node) (kind : Kind) : Prop where
  kind : n.kind = kind
  style : n.style = none
  anchor : n.anchor = none
  children : n.children = []
  before : n.before = []
  after : n.after = []
  parent : n.parent = none
  isOpen : ¬ n.isSealed
  /-- Hooks before the node and hooks after it are in two lists. -/
  apart : ∀ i : NodeId, n.lists.before.getD (i, .before) ≠ n.lists.after.getD (i, .after)

/-- A node that stands alone is always prepared. -/
theorem run_prepare_alone {s : Store} {i : NodeId} (hi : i < s.size) (hchildren : (s.node i).children = [])
    (hparent : (s.node i).parent = none) : ∃ s', (prepare [i]).run s = (.ok (), s') ∧ s.FilledIn s' ∧
      (s'.node i).internalId.isSome := by
  have hcollect : collect s ([i].map (·, none)) [] = .ok [i] := by
    simp [collect, hchildren, hparent]
  have hcheck : ∃ preset, checkIds ((s.listed [i]).map Prod.snd) [] [] = .ok preset := by
    show ∃ preset, checkIds [s.node i] [] [] = .ok preset
    unfold checkIds
    rcases (s.node i).userId with _ | user <;> rcases (s.node i).internalId with _ | id <;> exact ⟨_, rfl⟩
  obtain ⟨preset, hcheck⟩ := hcheck
  have hnodup : [i].Nodup := List.nodup_singleton i
  exact ⟨_, run_prepare_of_ok hcollect hcheck, filledIn_listed preset hnodup,
    isSome_internalId_install hnodup hi (List.mem_singleton_self i) preset⟩

theorem runHooks_editHooks (selector : String) : ∀ edits : List PropertyEdit,
    runHooks (editHooks edits) selector =
      .ok (.ofCommands (edits.map fun e => .assign (selector ++ "." ++ e.name) e.literal))
  | [] => rfl
  | e :: edits => by
    show (do
      let first ← Hook.run (.assign e.name e.literal) selector
      return first ++ (← runHooks (editHooks edits) selector)) = _
    rw [runHooks_editHooks selector edits]
    rfl

/-- The commands that define a named style. -/
def Node.defineStyle (n : Node) (setup : Setup) (selector : String) : List Command :=
  n.namedStyle.toList.map fun literal =>
    .insert setup.rootSelector ("@" ++ styleName setup.styleStem selector ++ " = " ++ literal ++ ";")

/-- The commands that refer to a named style. -/
def Node.useStyle (n : Node) (setup : Setup) (selector : String) : List Command :=
  n.namedStyle.toList.map fun _ => .assign (selector ++ ".Style") ("$." ++ styleName setup.styleStem selector)

theorem emit_alone {setup : Setup} {i : NodeId} {n : Node} {selector : String} {edits : List PropertyEdit}
    {blocks : List Block} {added : Program} (baseFile : Option String)
    (hselector : n.selector setup.rootSelector = .ok selector) (hbefore : n.before = [])
    (hafter : n.after = editHooks edits) (hblocks : runBlocks blocks = .ok added) :
    ∃ p, emit setup [.node i n []] blocks baseFile = .ok p ∧ p.commands =
      (loadBase baseFile).commands ++ added.commands ++ (n.defineStyle setup selector ++
        [.insert setup.rootSelector n.definition] ++ n.useStyle setup selector ++
        edits.map fun e => .assign (selector ++ "." ++ e.name) e.literal) := by
  obtain ⟨names, hhoist⟩ : ∃ names, n.hoist setup setup.rootSelector selector Bag.empty =
      .ok (n.defineStyle setup selector, n.useStyle setup selector, names) := by
    unfold Node.hoist Node.defineStyle Node.useStyle
    rcases n.namedStyle with _ | literal
    · exact ⟨_, rfl⟩
    · exact ⟨_, rfl⟩
  have hruns : runHooks n.before selector = .ok .empty := by
    rw [hbefore]
    rfl
  have hruns' := runHooks_editHooks selector edits
  rw [← hafter] at hruns'
  have hinner : Tree.emitAll setup selector names [] = .ok (.empty, names) := by rw [Tree.emitAll]
  have hsegment := Tree.emit_of_parts i hselector hruns hhoist hinner hruns'
  have hsegments : ∃ segments, Tree.emitAll setup setup.rootSelector Bag.empty [.node i n []] = .ok (segments, names) ∧
      segments.commands = n.defineStyle setup selector ++ [.insert setup.rootSelector n.definition] ++
        n.useStyle setup selector ++ edits.map fun e => .assign (selector ++ "." ++ e.name) e.literal := by
    rw [Tree.emitAll, bind_of_ok hsegment]
    dsimp only
    rw [Tree.emitAll]
    exact ⟨_, rfl, by simp [Program.empty, Program.ofCommands]⟩
  obtain ⟨segments, hsegments, hcommands⟩ := hsegments
  unfold emit
  rw [bind_of_ok hblocks, bind_of_ok hsegments]
  refine ⟨_, rfl, ?_⟩
  rw [Program.commands_append, Program.commands_append, hcommands]

/-! ## What is shown -/

/-- A definition that lists a property, with the property in its text. -/
def Node.Carries (n : Node) (name literal : String) : Prop :=
  (name, literal) ∈ n.properties ∧ ∃ front back, n.definition = front ++ (name ++ ": " ++ literal ++ ";") ++ back

theorem exists_intercalate (sep : String) {t : String} : ∀ {ts : List String}, t ∈ ts →
    ∃ front back, sep.intercalate ts = front ++ t ++ back
  | [u], h => by
    obtain rfl := List.mem_singleton.1 h
    exact ⟨"", "", by simp⟩
  | u :: v :: ts, h => by
    rw [String.intercalate_cons_cons]
    rcases List.mem_cons.1 h with rfl | h
    · exact ⟨"", sep ++ sep.intercalate (v :: ts), by simp [String.append_assoc]⟩
    · obtain ⟨front, back, hjoined⟩ := exists_intercalate sep h
      exact ⟨u ++ sep ++ front, back, by rw [hjoined]; simp [String.append_assoc]⟩

theorem Node.carries_of_mem {n : Node} {name literal : String} (h : (name, literal) ∈ n.properties) :
    n.Carries name literal := by
  refine ⟨h, ?_⟩
  have hbody : name ++ ": " ++ literal ++ ";" ∈ n.properties.map fun p => p.1 ++ ": " ++ p.2 ++ ";" :=
    List.mem_map.2 ⟨_, h, rfl⟩
  have hne : (n.properties.map fun p => p.1 ++ ": " ++ p.2 ++ ";").isEmpty = false := by
    rw [List.isEmpty_eq_false_iff]
    exact List.ne_nil_of_mem hbody
  obtain ⟨front, back, hjoined⟩ := exists_intercalate " " hbody
  unfold definition
  simp only [hne, hjoined, Bool.false_eq_true, if_false]
  exact ⟨n.kind.typeName ++ " #" ++ n.internalId.getD "None" ++ " \x7b " ++ front, back ++ " \x7d",
    by simp only [String.append_assoc]⟩

/-- What a program shows of a resolution for a node: how it defines and uses a named style, and what stands in the
node's definition. -/
structure Resolution.Shown (r : Resolution) (kind : Kind) (setup : Setup) (selector : String) (n : Node)
    (define use : List Command) : Prop where
  named : kind.isInteractive → ∀ style, r.style = some style →
    style.sections ≠ [] ∧ (∀ state b, style.bucket state = some b → b.sectionEntries ≠ []) ∧
    define = [.insert setup.rootSelector ("@" ++ styleName setup.styleStem selector ++ " = " ++
      ("TextButtonStyle" ++ inParentheses style.sections) ++ ";")] ∧
    use = [.assign (selector ++ ".Style") ("$." ++ styleName setup.styleStem selector)]
  unnamed : ¬ (kind.isInteractive ∧ r.style.isSome) → define = [] ∧ use = []
  inline : ¬ kind.isInteractive → ∀ style, r.style = some style → ∃ b, style.bucket .default = some b ∧
    b.IsPlain ∧ b.entries ≠ [] ∧ n.Carries "Style" (inParentheses b.entries)
  anchor : ∀ a, r.anchor = some a → a.entries ≠ [] ∧ n.Carries "Anchor" (inParentheses a.entries)

theorem shown_ofProperties {kind : Kind} {ps : List (String × String)} {n : Node} (setup : Setup) (selector : String)
    (hkind : n.kind = kind) (hstyle : n.style = (Resolution.ofProperties kind ps).style)
    (hanchor : n.anchor = (Resolution.ofProperties kind ps).anchor) :
    (Resolution.ofProperties kind ps).Shown kind setup selector n (n.defineStyle setup selector)
      (n.useStyle setup selector) := by
  constructor
  case named =>
    intro hk style hr
    obtain ⟨hsections, hentries, hliteral⟩ := buttonLiteral_of_resolved hk hr
    have hnamed : n.namedStyle = some ("TextButtonStyle" ++ inParentheses style.sections) := by
      unfold Node.namedStyle
      rw [hkind, if_pos hk, hstyle, hr]
      exact hliteral
    refine ⟨hsections, hentries, ?_, ?_⟩
    · rw [Node.defineStyle, hnamed]
      rfl
    · rw [Node.useStyle, hnamed]
      rfl
  case unnamed =>
    intro hnone
    have hnamed : n.namedStyle = none := by
      unfold Node.namedStyle
      rw [hkind, hstyle]
      split_ifs with hk
      · rw [Option.not_isSome_iff_eq_none.1 fun hsome => hnone ⟨hk, hsome⟩]
        rfl
      · rfl
    rw [Node.defineStyle, Node.useStyle, hnamed]
    exact ⟨rfl, rfl⟩
  case inline =>
    intro hk style hr
    obtain ⟨b, hb, hplain, hentries, hliteral⟩ := inlineLiteral_of_resolved hk hr
    have hinline : n.inlineStyle = some (inParentheses b.entries) := by
      unfold Node.inlineStyle
      rw [hkind, if_neg hk, hstyle, hr, Option.bind_some, hb, Option.bind_some, hliteral]
    refine ⟨b, hb, hplain, hentries, Node.carries_of_mem ?_⟩
    exact List.mem_filterMap.2 ⟨("Style", n.inlineStyle), by simp, by rw [hinline]; rfl⟩
  case anchor =>
    intro a ha
    obtain ⟨hentries, hliteral⟩ := anchorLiteral_of_resolved ha
    have hwritten : n.anchor.bind Anchor.literal = some (inParentheses a.entries) := by
      rw [hanchor, ha, Option.bind_some, hliteral]
    refine ⟨hentries, Node.carries_of_mem ?_⟩
    exact List.mem_filterMap.2 ⟨("Anchor", n.anchor.bind Anchor.literal), by simp, by rw [hwritten]; rfl⟩

/-- A resolution that is put on a fresh node is not lost on the way to the program. The node can be edited, prepared and
emitted; the program shows style and anchor with an entry for each field that is set, and has a command for each edit,
in the order in which the properties were declared. -/
theorem emit_shows_resolution {kind : Kind} {properties : Properties} {r : Resolution}
    (hr : resolve kind properties = .ok r) {s : Store} {i : NodeId} (hi : i < s.size)
    (hfresh : (s.node i).Fresh kind) (setup : Setup) (baseFile : Option String) {blocks : List Block} {added : Program}
    (hblocks : runBlocks blocks = .ok added) :
    ∃ s₁ s₂ selector p define use,
      (Edit.restyle i r).run s = (.ok (), s₁) ∧ (prepare [i]).run s₁ = (.ok (), s₂) ∧
      (s₂.node i).selector setup.rootSelector = .ok selector ∧
      emit setup (s₂.forest [i]) blocks baseFile = .ok p ∧
      p.commands = (loadBase baseFile).commands ++ added.commands ++
        (define ++ [.insert setup.rootSelector (s₂.node i).definition] ++ use ++
          r.edits.map fun e => .assign (selector ++ "." ++ e.name) e.literal) ∧
      r.edits = properties.entries.filterMap (declaredEdit? kind) ∧
      r.Shown kind setup selector (s₂.node i) define use := by
  have hrun := Edit.run_restyle r hfresh.isOpen
  have hnode := Store.node_restyled hi (hfresh.apart i) r
  have hchildren : (((s.update i (·.styled r.fields)).appendAll (r.items i)).node i).children = [] := by
    rw [hnode]
    exact hfresh.children
  have hparent : (((s.update i (·.styled r.fields)).appendAll (r.items i)).node i).parent = none := by
    rw [hnode]
    exact hfresh.parent
  obtain ⟨s₂, hprepare, hfilled, hid⟩ := run_prepare_alone (by simpa using hi) hchildren hparent
  -- a preparation changes nothing that is shown but the id
  have hrest := (hfilled.node i).rest
  rw [hnode] at hrest
  have hselector := Node.selector_eq hid setup.rootSelector
  have hafter : (s₂.node i).after = editHooks r.edits := by
    rw [hrest]
    simp [Node.styled, hfresh.after]
  have hbefore : (s₂.node i).before = [] := by
    rw [hrest]
    exact hfresh.before
  have hforest : s₂.forest [i] = [.node i (s₂.node i) []] := by
    have hleaf : (s₂.node i).children = [] := by
      rw [hfilled.children]
      exact hchildren
    unfold Store.forest
    rcases s₂.size with _ | d <;> simp [Store.tree, hleaf]
  obtain ⟨p, hemit, hcommands⟩ := emit_alone baseFile hselector hbefore hafter hblocks
  obtain ⟨-, rfl⟩ := resolve_ok_iff.1 hr
  refine ⟨_, s₂, _, p, _, _, hrun, hprepare, hselector, by rw [hforest]; exact hemit, hcommands,
    Resolution.edits_declared kind _, shown_ofProperties setup _ ?_ ?_ ?_⟩
  · rw [hrest]
    exact hfresh.kind
  · rw [hrest]
    simp [Node.styled, hfresh.style]
  · rw [hrest]
    simp [Node.styled, hfresh.anchor]

/-- One node with nothing on it. -/
def lone (kind : Kind) : Store := ⟨#[{ kind }]⟩

theorem lone_fresh (kind : Kind) : ((lone kind).node 0).Fresh kind :=
  ⟨rfl, rfl, rfl, rfl, rfl, rfl, rfl, nofun, fun _ => nofun⟩

theorem emit_shows_resolution_dressed :
    (∃ r, resolve .button dressed = .ok r ∧ r.style.isSome ∧ ∃ s₁ s₂ p define,
      (Edit.restyle 0 r).run (lone .button) = (.ok (), s₁) ∧ (prepare [0]).run s₁ = (.ok (), s₂) ∧
      emit {} (s₂.forest [0]) [] none = .ok p ∧ define ≠ [] ∧ define <+: p.commands) ∧
    ∃ r, resolve .group dressed = .ok r ∧ r.edits.map (·.name) = ["Padding", "Background"] ∧ ∃ s₁ s₂ p,
      (Edit.restyle 0 r).run (lone .group) = (.ok (), s₁) ∧ (prepare [0]).run s₁ = (.ok (), s₂) ∧
      emit {} (s₂.forest [0]) [] none = .ok p := by
  have hbutton : (resolve .button dressed).toOption.map (·.style.isSome) = some true := by decide +kernel
  have hgroup : (resolve .group dressed).toOption.map (fun r => r.edits.map (·.name)) =
      some ["Padding", "Background"] := by decide +kernel
  obtain ⟨r, hr, hstyle⟩ := exists_resolution hbutton
  obtain ⟨r', hr', hedits⟩ := exists_resolution hgroup
  obtain ⟨s₁, s₂, selector, p, define, use, hrun, hprepare, -, hemit, hcommands, -, hshown⟩ :=
    emit_shows_resolution hr (by decide) (lone_fresh .button) {} none (show runBlocks [] = .ok .empty from rfl)
  obtain ⟨s₁', s₂', _, p', _, _, hrun', hprepare', -, hemit', -⟩ :=
    emit_shows_resolution hr' (by decide) (lone_fresh .group) {} none (show runBlocks [] = .ok .empty from rfl)
  obtain ⟨style, hs⟩ := Option.isSome_iff_exists.1 hstyle
  obtain ⟨-, -, hdefine, -⟩ := hshown.named rfl style hs
  refine ⟨⟨r, hr, hstyle, s₁, s₂, p, define, hrun, hprepare, hemit, by simp [hdefine], ?_⟩,
    r', hr', hedits, s₁', s₂', p', hrun', hprepare', hemit'⟩
  rw [hcommands]
  exact ⟨_, by simp [loadBase, Program.empty]; rfl⟩

end Overlay
