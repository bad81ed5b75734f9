/-
Reading literals. The literal of a text is the text between quotes with three escapes, which are three replacements one
after the other. A reader that goes from left to right gives the text back, and the first quote that is not escaped is
the closing one. So absent values, truth values, integers and texts are told by their literals.
-/
import Overlay.Proofs.Number.Printed
import Mathlib.Logic.Function.Defs

namespace Overlay.Value

/-! ## Escapes -/

/-- A text with other characters in the place of each character of a kind. -/
def replaceAll (old : Char) (new cs : List Char) : List Char := cs.flatMap fun c => if c = old then new else [c]

/-- What stands between the quotes of a literal: backslashes are replaced first, then quotes, then line feeds. -/
def escape (cs : List Char) : List Char :=
  replaceAll '\n' ['\\', 'n'] (replaceAll '"' ['\\', '"'] (replaceAll '\\' ['\\', '\\'] cs))

theorem replaceAll_append (old : Char) (new cs ds : List Char) :
    replaceAll old new (cs ++ ds) = replaceAll old new cs ++ replaceAll old new ds :=
  List.flatMap_append

/-- No replacement touches what an earlier one has put in. -/
theorem escape_eq_flatMap (cs : List Char) : escape cs = cs.flatMap literalChar := by
  induction cs with
  | nil => rfl
  | cons c cs ih =>
    have hsplit : escape (c :: cs) = escape [c] ++ escape cs := by
      simp only [escape, ← replaceAll_append, List.singleton_append]
    have hone : escape [c] = literalChar c := by
      unfold literalChar
      by_cases hback : c = '\\'
      · subst hback
        rfl
      by_cases hquote : c = '"'
      · subst hquote
        rfl
      by_cases hfeed : c = '\n'
      · subst hfeed
        rfl
      simp [escape, replaceAll, hback, hquote, hfeed]
    rw [hsplit, hone, ih, List.flatMap_cons]

theorem toList_textLiteral (s : String) : (textLiteral s).toList = '"' :: (escape s.toList ++ ['"']) := by
  rw [textLiteral, String.toList_ofList, escape_eq_flatMap, List.cons_append]

theorem lineFeed_not_mem_escape (cs : List Char) : '\n' ∉ escape cs := by
  rw [escape_eq_flatMap, List.mem_flatMap]
  rintro ⟨c, -, hc⟩
  unfold literalChar at hc
  split_ifs at hc with hback hquote hfeed
  · simp at hc
  · simp at hc
  · simp at hc
  · exact hfeed (List.mem_singleton.1 hc).symm

/-! ## Reading texts -/

/-- The character that stands for an escaped one. -/
def ofEscape? : Char → Option Char
  | '\\' => some '\\'
  | '"' => some '"'
  | 'n' => some '\n'
  | _ => none

/-- The text up to the first quote that is not escaped, and what follows the quote. -/
def readBody? : List Char → Option (List Char × List Char)
  | [] => none
  | '"' :: cs => some ([], cs)
  | ['\\'] => none
  | '\\' :: e :: cs => (ofEscape? e).bind fun c => (readBody? cs).map fun r => (c :: r.1, r.2)
  | c :: cs => (readBody? cs).map fun r => (c :: r.1, r.2)

/-- What is written for a character is read as the character. -/
theorem readBody?_literalChar (c : Char) (cs : List Char) :
    readBody? (literalChar c ++ cs) = (readBody? cs).map fun r => (c :: r.1, r.2) := by
  unfold literalChar
  split_ifs with hback hquote hfeed
  · subst hback
    rfl
  · subst hquote
    rfl
  · subst hfeed
    rfl
  · simp [readBody?, hback]

theorem readBody?_escape (cs rest : List Char) : readBody? (escape cs ++ '"' :: rest) = some (cs, rest) := by
  rw [escape_eq_flatMap]
  induction cs with
  | nil => rfl
  | cons c cs ih =>
    rw [List.flatMap_cons, List.append_assoc, readBody?_literalChar, ih]
    rfl

/-! ## Reading values -/

/-- The values without a point whose integers have no more digits than are read. -/
def IsReadable : Option Value → Prop
  | some (int n) => (Nat.toDigits 10 n.natAbs).length ≤ Token.digitLimit
  | some (double _) => False
  | _ => True

/-- The value of a literal. -/
def ofLiteral? (s : String) : Option (Option Value) :=
  if s = "null" then some none
  else if s = "true" then some (some (bool true))
  else if s = "false" then some (some (bool false))
  else match s.toList with
    | '"' :: cs => (readBody? cs).bind fun r => if r.2 = [] then some (some (text (String.ofList r.1))) else none
    | cs => match Token.integer? cs with
      | .ok (some n) => some (some (int n))
      | _ => none

theorem ofLiteral?_textLiteral (s : String) : ofLiteral? (textLiteral s) = some (some (text s)) := by
  have hword : ∀ c cs, c ≠ '"' → textLiteral s ≠ String.ofList (c :: cs) := by
    intro c cs hc h
    have hlist := congrArg String.toList h
    rw [toList_textLiteral, String.toList_ofList] at hlist
    exact hc (List.cons.inj hlist).1.symm
  unfold ofLiteral?
  rw [if_neg (hword 'n' _ (by decide)), if_neg (hword 't' _ (by decide)), if_neg (hword 'f' _ (by decide)),
    toList_textLiteral]
  simp [readBody?_escape]

theorem ofLiteral?_toString {n : ℤ} (h : (Nat.toDigits 10 n.natAbs).length ≤ Token.digitLimit) :
    ofLiteral? (toString n) = some (some (int n)) := by
  have hinteger : Token.isInteger (toString n).toList := Token.isInteger_iff.2 ⟨n, Token.integerNotation_toString n⟩
  have hword : ∀ {s : String}, Token.isInteger s.toList = false → toString n ≠ s := by
    rintro s hs rfl
    rw [hs] at hinteger
    cases hinteger
  have hread := Token.integer?_toString h
  unfold ofLiteral?
  rw [if_neg (hword (by decide)), if_neg (hword (by decide)), if_neg (hword (by decide))]
  split
  · rename_i cs hquote
    rw [hquote] at hinteger
    cases hinteger
  · rw [hread]

/-- A value reads back from its literal. -/
theorem ofLiteral?_literal {v : Option Value} (h : IsReadable v) : ofLiteral? (literal v) = some v := by
  rcases v with _ | v
  · rfl
  cases v with
  | int n => exact ofLiteral?_toString h
  | double x => exact h.elim
  | bool b => cases b <;> rfl
  | text s => exact ofLiteral?_textLiteral s

/-- Between its quotes a text's literal has neither a line feed nor a quote that is not escaped, whatever follows, and
what is read there is the text. The literals of absent values, truth values, integers and texts are all different. -/
theorem literal_reads_back :
    (∀ s : String, ∃ body, (literal (some (text s))).toList = '"' :: (body ++ ['"']) ∧ body = escape s.toList ∧
      '\n' ∉ body ∧ ∀ rest, readBody? (body ++ '"' :: rest) = some (s.toList, rest)) ∧
    Function.Injective fun v : {v : Option Value // IsReadable v} => literal v := by
  constructor
  · intro s
    exact ⟨escape s.toList, toList_textLiteral s, rfl, lineFeed_not_mem_escape _, readBody?_escape s.toList⟩
  · rintro ⟨v, hv⟩ ⟨w, hw⟩ h
    have hread : some v = some w := by
      rw [← ofLiteral?_literal hv, ← ofLiteral?_literal hw]
      exact congrArg ofLiteral? h
    exact Subtype.ext (Option.some.inj hread)

/-- A backslash before an `n` is not a line feed. -/
example : readBody? "\\\\n\\n\" and more".toList = some ("\\n\n".toList, " and more".toList) := by decide

end Overlay.Value
