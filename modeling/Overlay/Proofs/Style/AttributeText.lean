/-
Style attributes as text. Entries written as `name: value` with semicolons between them are read back as they stand,
and two style attributes with a semicolon between them are the first one updated with the second.
-/
import Overlay.Proofs.Bag
import Overlay.Proofs.Text.Cutting
import Overlay.Style.Attribute

namespace Overlay

open Text

/-! ## Writing -/

def declarationText (e : String × String) : String := e.1 ++ ": " ++ e.2

/-- The text of a style attribute with these properties. -/
def Properties.toStyle (properties : Properties) : String :=
  "; ".intercalate (properties.entries.map declarationText)

/-- An entry that its text tells. The value may hold colons, since the first one of a declaration separates. -/
structure Writable (e : String × String) : Prop where
  named : e.1 ≠ ""
  canonical : lower (trim e.1) = e.1
  trimmed : trim e.2 = e.2
  noColon : ':' ∉ e.1.toList
  noSemicolonInName : ';' ∉ e.1.toList
  noSemicolonInValue : ';' ∉ e.2.toList

instance (e : String × String) : Decidable (Writable e) :=
  decidable_of_iff (e.1 ≠ "" ∧ lower (trim e.1) = e.1 ∧ trim e.2 = e.2 ∧ ':' ∉ e.1.toList ∧ ';' ∉ e.1.toList ∧
      ';' ∉ e.2.toList)
    ⟨fun ⟨named, canonical, trimmed, noColon, inName, inValue⟩ => ⟨named, canonical, trimmed, noColon, inName, inValue⟩,
      fun h => ⟨h.named, h.canonical, h.trimmed, h.noColon, h.noSemicolonInName, h.noSemicolonInValue⟩⟩

/-! ## Reading -/

variable {e : String × String} {c : Char}

theorem declarations_append (a b : String) : declarations (a ++ ";" ++ b) = declarations a ++ declarations b := by
  have hchars : (a ++ ";" ++ b).toList = a.toList ++ ';' :: b.toList := by simp
  unfold declarations
  rw [hchars, pieces_eq_splitOn, List.splitOn_append_cons_self, List.filterMap_append, ← pieces_eq_splitOn,
    ← pieces_eq_splitOn]

/-- A blank at the front of a declaration is trimmed away. -/
theorem declaration?_cons (hc : isBlank c) (cs : List Char) : declaration? (c :: cs) = declaration? cs := by
  have hcolon : c ≠ ':' := by
    rintro rfl
    exact absurd hc (by decide)
  unfold declaration?
  rw [cutAt, if_neg hcolon]
  rcases cutAt ':' cs with _ | ⟨name, value⟩
  · rfl
  · simp [trimChars_cons hc]

theorem declarations_blank (style : String) : declarations (" " ++ style) = declarations style := by
  have hchars : (" " ++ style).toList = ' ' :: style.toList := by simp
  obtain ⟨w, ws, hpieces⟩ := List.exists_cons_of_ne_nil (List.splitOn_ne_nil ';' style.toList)
  unfold declarations
  rw [hchars, pieces_eq_splitOn, pieces_eq_splitOn, List.splitOn_cons_eq_if_modifyHead, if_neg (by decide), hpieces,
    List.modifyHead_cons, List.filterMap_cons, List.filterMap_cons, declaration?_cons (by decide)]

namespace Writable

theorem declaration? (h : Writable e) : declaration? (e.1.toList ++ ':' :: ' ' :: e.2.toList) = some e := by
  have hname : lowerChars (trimChars e.1.toList) = e.1.toList := by
    simpa [lower, trim] using congrArg String.toList h.canonical
  have hvalue : trimChars e.2.toList = e.2.toList := by simpa [trim] using congrArg String.toList h.trimmed
  simp [Overlay.declaration?, cutAt_append _ h.noColon, trimChars_cons (c := ' ') (by decide), hname, h.named, hvalue]

theorem declarations (h : Writable e) : declarations (declarationText e) = [e] := by
  have hchars : (declarationText e).toList = e.1.toList ++ ':' :: ' ' :: e.2.toList := by simp [declarationText]
  have hsemicolon : ';' ∉ (declarationText e).toList := by
    rw [hchars]
    simp [h.noSemicolonInName, h.noSemicolonInValue]
  unfold Overlay.declarations
  rw [pieces_eq_splitOn, List.splitOn_eq_singleton hsemicolon, hchars, List.filterMap_cons, h.declaration?]
  rfl

end Writable

theorem declarations_intercalate : ∀ {es : List (String × String)}, (∀ e ∈ es, Writable e) →
    declarations ("; ".intercalate (es.map declarationText)) = es
  | [], _ => rfl
  | [e], h => (h e (List.mem_singleton_self e)).declarations
  | e :: e' :: es, h => by
    -- the blank after the semicolon stands at the front of the next declaration
    have hjoin : "; ".intercalate ((e :: e' :: es).map declarationText) =
        declarationText e ++ ";" ++ (" " ++ "; ".intercalate ((e' :: es).map declarationText)) := by
      have hgap : "; " = ";" ++ " " := rfl
      rw [List.map_cons, List.map_cons, String.intercalate_cons_cons, hgap]
      simp only [String.append_assoc]
    rw [hjoin, declarations_append, declarations_blank, (h e (List.mem_cons_self ..)).declarations,
      declarations_intercalate fun x hx => h x (List.mem_cons_of_mem _ hx)]
    rfl

/-! ## Properties -/

namespace Properties

variable {properties : Properties}

theorem ofStyle_toStyle (h : ∀ e ∈ properties.entries, Writable e) : ofStyle properties.toStyle = properties := by
  unfold ofStyle toStyle
  rw [declarations_intercalate h, Bag.ofList_entries]

theorem ofStyle_append (a b : String) : ofStyle (a ++ ";" ++ b) = (ofStyle a).putAll (ofStyle b).entries := by
  unfold ofStyle
  rw [declarations_append, Bag.ofList_append]

/-- Properties whose entries can be written are read back from their text, in their order. And for all texts, two of
them with a semicolon between them have the properties of the first one updated with those of the second: names
of the first one keep their places, the others follow in their order, and the values of the second one count. -/
theorem ofStyle_reads_back_and_updates :
    (∀ properties : Properties, (∀ e ∈ properties.entries, Writable e) →
      ofStyle properties.toStyle = properties) ∧
    ∀ a b : String,
      ofStyle (a ++ ";" ++ b) = (ofStyle a).putAll (ofStyle b).entries ∧
      (ofStyle (a ++ ";" ++ b)).keys = (ofStyle a).keys ++ (ofStyle b).keys.filter (· ∉ (ofStyle a).keys) ∧
      ∀ name, (ofStyle (a ++ ";" ++ b)).get? name = ((ofStyle b).get? name).or ((ofStyle a).get? name) := by
  refine ⟨fun _ => ofStyle_toStyle, fun a b => ?_⟩
  rw [ofStyle_append]
  exact ⟨rfl, Bag.keys_update _ _, Bag.get?_update _ _⟩

/-- A colon in a value, and a value that is empty. -/
def linked : Properties := Bag.ofList [("background", "url(a:b)"), ("caption", "")]

theorem ofStyle_reads_back_linked :
    linked.toStyle = "background: url(a:b); caption: " ∧ (∀ e ∈ linked.entries, Writable e) ∧
    ofStyle linked.toStyle = linked := by
  have h : ∀ e ∈ linked.entries, Writable e := by decide +kernel
  exact ⟨by decide, h, ofStyle_reads_back_and_updates.1 linked h⟩

example : (ofStyle ("color: red; width: 1px" ++ ";" ++ "Width: 2px; junk; top: 0")).entries =
    [("color", "red"), ("width", "2px"), ("top", "0")] := by decide +kernel

end Properties

end Overlay
