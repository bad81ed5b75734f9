/-
Overriding. Several names may set one thing: the background, the layout mode, the visibility. Of the
properties that set it the last one counts, in the order in which their names were first declared, so the
declaration that rules is that of the name declared for the first time last.
-/
import Overlay.Proofs.Style.Declared
import Overlay.Proofs.Style.Direct
import Overlay.Proofs.Style.Interrupted

namespace Overlay

open Text

/-! ## Resolutions -/

section Resolutions

variable {kind : Kind} {properties : Properties} {r : Resolution}

/-- The background of the default state. -/
def Resolution.defaultBackground (r : Resolution) : Option String :=
  (r.style.bind (·.bucket .default)).bind (·.background)

theorem exists_effect (h : resolve kind properties = .ok r) {p : String × String} (hp : p ∈ properties.entries) :
    ∃ e, effect kind p.1 p.2 = .ok e := by
  have hstop := (resolveStop?_eq_none_iff.1 (resolve_ok_iff.1 h).1).1 p hp
  rcases he : effect kind p.1 p.2 with n | e
  · rw [he] at hstop
    cases hstop
  · exact ⟨e, rfl⟩

theorem visible_resolve (h : resolve kind properties = .ok r) :
    r.visible = (properties.entries.filterMap visibilityWord?).getLast? := by
  obtain ⟨-, rfl⟩ := resolve_ok_iff.1 h
  rw [Resolution.visible_ofProperties]
  refine congrArg List.getLast? (List.filterMap_congr fun p hp => ?_)
  obtain ⟨e, he⟩ := exists_effect h hp
  unfold written?
  rw [he]
  exact shown?_effect he

theorem layoutMode_resolve (hk : kind.isContainer) (h : resolve kind properties = .ok r) :
    r.layoutMode =
      ((properties.entries.filter fun e => isLayout e.1).getLast?).map fun e => canonicalName e.2 := by
  obtain ⟨-, rfl⟩ := resolve_ok_iff.1 h
  rw [Resolution.layoutMode_ofProperties, ← List.getLast?_map, ← List.filterMap_eq_map, List.filterMap_filter]
  refine congrArg List.getLast? (List.filterMap_congr fun p hp => ?_)
  obtain ⟨e, he⟩ := exists_effect h hp
  unfold written?
  rw [he]
  exact mode?_effect hk he

theorem defaultBackground_resolve (hk : kind.isInteractive) (h : resolve kind properties = .ok r) :
    r.defaultBackground = ((properties.entries.filter fun e => isBackground e.1).getLast?).map Prod.snd := by
  obtain ⟨-, rfl⟩ := resolve_ok_iff.1 h
  have hunfinished : ∀ b : Option Bucket, b.bind (·.background) = (Bucket.unfinished b).field .background := by
    intro b
    cases b <;> rfl
  show ((Resolution.ofProperties kind properties.entries).bucket .default).bind (·.background) = _
  rw [hunfinished, Resolution.bucket_ofProperties, field_poolBucket, saySame_default hk properties .background]
  unfold sayings
  rw [List.filterMap_filterMap, List.filterMap_filterMap, ← List.getLast?_map, ← List.filterMap_eq_map]
  refine congrArg List.getLast? (List.filterMap_congr fun p hp => ?_)
  have hset := setting_of_isBackground (List.mem_filter.1 hp).2 kind p.2
  simp [said?, hset, Except.toOption, Setting.value?]

end Resolutions

/-- Where all of some declarations ask for a visibility that is known, the last of them is heard. -/
theorem getLast?_filterMap_visibilityWord {es : List (String × String)}
    (h : ∀ e ∈ es, isVisibility e.1 → (visibilityWord? e).isSome) :
    (es.filterMap visibilityWord?).getLast? =
      ((es.filter fun e => isVisibility e.1).getLast?).bind visibilityWord? := by
  have hnamed : es.filterMap visibilityWord? = (es.filter fun e => isVisibility e.1).filterMap visibilityWord? := by
    rw [List.filterMap_filter]
    refine List.filterMap_congr fun e _ => ?_
    by_cases hn : isVisibility e.1
    · rw [if_pos hn]
    · rw [if_neg hn]
      exact visibilityWord?_eq_none (by simpa using hn) e.2
  rw [hnamed]
  rcases List.eq_nil_or_concat' (es.filter fun e => isVisibility e.1) with hnil | ⟨earlier, e, hconcat⟩
  · rw [hnil]
    rfl
  · have hmem : e ∈ es.filter fun e => isVisibility e.1 := by simp [hconcat]
    obtain ⟨he, hn⟩ := List.mem_filter.1 hmem
    obtain ⟨b, hb⟩ := Option.isSome_iff_exists.1 (h e he hn)
    rw [hconcat, List.filterMap_append, List.getLast?_concat]
    simp [hb]

/-- Of the declarations that set one thing under several names one rules: of the name declared for the first
time last, the last declaration. So it is for the background of an interactive kind, for the layout mode of a
container, and for the visibility as long as all words for it are known, unless the resolution is stopped by a
declared value with a number that is too long. The declaration that rules is the textually last one exactly if
its name is the one declared for the first time last. -/
theorem resolve_ruling (kind : Kind) (style : String) :
    ((∃ r, resolve kind (.ofStyle style) = .ok r ∧
        (kind.isInteractive → r.defaultBackground = (ruling? isBackground (declarations style)).map Prod.snd) ∧
        (kind.isContainer → r.layoutMode = (ruling? isLayout (declarations style)).map fun d => canonicalName d.2) ∧
        ((∀ d ∈ declarations style, isVisibility d.1 → (visibilityWord? d).isSome) →
          r.visible = (ruling? isVisibility (declarations style)).bind visibilityWord?)) ∨
      ∃ i, resolve kind (.ofStyle style) = .error i ∧ ∃ d ∈ declarations style, i.cause.StandsIn d.2.toList) ∧
    ∀ named, ruling? named (declarations style) = lastNamed? named (declarations style) ↔
      latestName? named (declarations style) = (lastNamed? named (declarations style)).map Prod.fst := by
  refine ⟨?_, fun named => ruling?_eq_lastNamed?_iff named _⟩
  rcases h : resolve kind (.ofStyle style) with i | r
  · obtain ⟨d, hd, hlong⟩ := resolve_error h
    exact .inr ⟨i, rfl, d, Bag.mem_of_mem_ofList hd, hlong⟩
  refine .inl ⟨r, rfl, fun hk => ?_, fun hk => ?_, fun hknown => ?_⟩
  · rw [defaultBackground_resolve hk h, ← getLast?_entries]
    rfl
  · rw [layoutMode_resolve hk h, ← getLast?_entries]
    rfl
  · rw [visible_resolve h, ← getLast?_entries]
    exact getLast?_filterMap_visibilityWord fun e he => hknown e (Bag.mem_of_mem_ofList he)

/-- A background, another one under the other name, and a third one under the first name again. -/
def repeatedBackground : String := "background: red; background-color: blue; background: green"

/-- Three layout modes in the same way. -/
def repeatedLayout : String := "layout: left; text-align: right; layout: center"

/-- Shown twice, then hidden under the first name again. -/
def repeatedVisibility : String := "display: block; visibility: visible; display: none"

theorem declarations_repeatedBackground : declarations repeatedBackground =
    [("background", "red"), ("background-color", "blue"), ("background", "green")] := by decide +kernel

theorem declarations_repeatedLayout : declarations repeatedLayout =
    [("layout", "left"), ("text-align", "right"), ("layout", "center")] := by decide +kernel

theorem declarations_repeatedVisibility : declarations repeatedVisibility =
    [("display", "block"), ("visibility", "visible"), ("display", "none")] := by decide +kernel

/-- A name that is repeated after another one does not override it, though its declaration comes last. -/
theorem not_lastNamed_repeated :
    (∃ r, resolve .button (.ofStyle repeatedBackground) = .ok r ∧
      r.defaultBackground ≠ (lastNamed? isBackground (declarations repeatedBackground)).map Prod.snd) ∧
    (∃ r, resolve .group (.ofStyle repeatedLayout) = .ok r ∧
      r.layoutMode ≠ (lastNamed? isLayout (declarations repeatedLayout)).map fun d => canonicalName d.2) ∧
    (∀ d ∈ declarations repeatedVisibility, isVisibility d.1 → (visibilityWord? d).isSome) ∧
    ∃ r, resolve .label (.ofStyle repeatedVisibility) = .ok r ∧
      r.visible ≠ (lastNamed? isVisibility (declarations repeatedVisibility)).bind visibilityWord? := by
  refine ⟨?_, ?_, ?_, ?_⟩
  · have hblue : (resolve .button (.ofStyle repeatedBackground)).toOption.map Resolution.defaultBackground =
        some (some "blue") := by
      rw [Properties.ofStyle, declarations_repeatedBackground]
      decide +kernel
    obtain ⟨r, hr, hbackground⟩ := exists_resolution hblue
    refine ⟨r, hr, ?_⟩
    rw [hbackground, declarations_repeatedBackground]
    decide
  · have hright : (resolve .group (.ofStyle repeatedLayout)).toOption.map Resolution.layoutMode =
        some (some "Right") := by
      rw [Properties.ofStyle, declarations_repeatedLayout]
      decide +kernel
    obtain ⟨r, hr, hmode⟩ := exists_resolution hright
    refine ⟨r, hr, ?_⟩
    rw [hmode, declarations_repeatedLayout]
    decide +kernel
  · rw [declarations_repeatedVisibility]
    decide +kernel
  · have hshown : (resolve .label (.ofStyle repeatedVisibility)).toOption.map Resolution.visible =
        some (some true) := by
      rw [Properties.ofStyle, declarations_repeatedVisibility]
      decide +kernel
    obtain ⟨r, hr, hvisible⟩ := exists_resolution hshown
    refine ⟨r, hr, ?_⟩
    rw [hvisible, declarations_repeatedVisibility]
    decide +kernel

end Overlay
