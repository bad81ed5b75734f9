/-
Reading programs. A program's text is printable ASCII in one line per command, and a line is read word by word: the
kind of the command, then its JSON strings. So the text tells the commands, whatever their strings hold.
-/
import Overlay.Program.Command
import Overlay.Proofs.Text.JsonReading
import Overlay.Proofs.Text.Cutting

namespace Overlay

open Text

/-! ## Commands -/

namespace Command

/-- A JSON string that ends a line. -/
def readLast? (cs : List Char) : Option String :=
  (readString? cs).bind fun r => if r.2 = [] then some r.1 else none

/-- Two JSON strings with a space between them that end a line. -/
def readTwo? (cs : List Char) : Option (String × String) :=
  (readString? cs).bind fun r => (after? [' '] r.2).bind fun rest => (readLast? rest).map (r.1, ·)

/-- The command that a line of program text stands for. -/
def ofLine? (line : List Char) : Option Command :=
  match after? "append ".toList line with
  | some rest => (readLast? rest).map load
  | none => match after? "inline ".toList line with
    | some rest => (readTwo? rest).map fun r => insert r.1 r.2
    | none => match after? "set ".toList line with
      | some rest => (readTwo? rest).map fun r => assign r.1 r.2
      | none => none

theorem readLast?_jsonString (s : String) : readLast? (jsonString s).toList = some s := by
  have h := readString?_jsonString s []
  rw [List.append_nil] at h
  rw [readLast?, h]
  rfl

theorem readTwo?_jsonStrings (a b : String) :
    readTwo? ((jsonString a).toList ++ ' ' :: (jsonString b).toList) = some (a, b) := by
  simp only [readTwo?, readString?_jsonString, Option.bind_some, after?, if_true, readLast?_jsonString, Option.map_some]

/-- The line of a command reads back as the command. -/
theorem ofLine?_line (c : Command) : ofLine? c.line.toList = some c := by
  cases c with
  | load path =>
    rw [line, String.toList_append, ofLine?, after?_eq_some_iff.2 rfl]
    simp only [readLast?_jsonString, Option.map_some]
  | insert scope fragment =>
    have hline : (line (insert scope fragment)).toList =
        "inline ".toList ++ ((jsonString scope).toList ++ ' ' :: (jsonString fragment).toList) := by
      simp [line]
    have hload : after? "append ".toList (line (insert scope fragment)).toList = none := by
      rw [hline]
      rfl
    rw [ofLine?, hload, hline, after?_eq_some_iff.2 rfl]
    simp only [readTwo?_jsonStrings, Option.map_some]
  | assign path literal =>
    have hline : (line (assign path literal)).toList =
        "set ".toList ++ ((jsonString path).toList ++ ' ' :: (jsonString literal).toList) := by
      simp [line]
    have hload : after? "append ".toList (line (assign path literal)).toList = none := by
      rw [hline]
      rfl
    have hinsert : after? "inline ".toList (line (assign path literal)).toList = none := by
      rw [hline]
      rfl
    rw [ofLine?, hload, hinsert, hline, after?_eq_some_iff.2 rfl]
    simp only [readTwo?_jsonStrings, Option.map_some]

/-- A line holds printable ASCII alone. -/
theorem isPrintableAscii_of_mem_line (c : Command) : ∀ d ∈ c.line.toList, isPrintableAscii d := by
  have hwords : ["append ", "inline ", "set ", " "].all (·.toList.all isPrintableAscii) := by decide
  have hword : ∀ word ∈ ["append ", "inline ", "set ", " "], ∀ d ∈ word.toList, isPrintableAscii d := fun word hw =>
    List.all_eq_true.1 (List.all_eq_true.1 hwords word hw)
  intro d hd
  cases c with
  | load path =>
    rw [line, String.toList_append, List.mem_append] at hd
    rcases hd with hd | hd
    · exact hword _ (by simp) d hd
    · exact isPrintableAscii_of_mem_jsonString d hd
  | insert scope fragment | assign path literal =>
    simp only [line, String.toList_append, List.mem_append] at hd
    rcases hd with ((hd | hd) | hd) | hd
    · exact hword _ (by simp) d hd
    · exact isPrintableAscii_of_mem_jsonString d hd
    · exact hword _ (by simp) d hd
    · exact isPrintableAscii_of_mem_jsonString d hd

theorem line_ne_empty (c : Command) : c.line ≠ "" := by
  intro h
  have hread := ofLine?_line c
  rw [h] at hread
  cases hread

end Command

/-! ## Programs -/

namespace Program

/-- The lines of program text. -/
def lines (text : String) : List (List Char) := if text = "" then [] else pieces (· = '\n') text.toList

/-- The commands that program text stands for. -/
def readCommands (text : String) : Option (List Command) := (lines text).mapM Command.ofLine?

theorem toList_toText (p : Program) : p.toText.toList = ['\n'].intercalate (p.commands.map (·.line.toList)) := by
  rw [toText, String.toList_intercalate, List.map_map]
  rfl

theorem pieces_toText {p : Program} (h : p.commands ≠ []) :
    pieces (· = '\n') p.toText.toList = p.commands.map (·.line.toList) := by
  rw [pieces_eq_splitOn, toList_toText]
  refine List.splitOn_intercalate '\n' (fun cs hcs hfeed => ?_) (by simpa using h)
  obtain ⟨d, -, rfl⟩ := List.mem_map.1 hcs
  -- a line feed inside a string is escaped, so none stands in a line
  exact absurd (d.isPrintableAscii_of_mem_line _ hfeed) (by decide)

theorem toText_ne_empty {p : Program} (h : p.commands ≠ []) : p.toText ≠ "" := by
  intro hempty
  have hlines := pieces_toText h
  rw [hempty] at hlines
  obtain ⟨c, cs, hcs⟩ := List.exists_cons_of_ne_nil h
  rw [hcs, List.map_cons] at hlines
  exact c.line_ne_empty (String.toList_inj.1 (List.cons.inj hlines).1.symm)

/-- The text of a program has one line for each of its commands. -/
theorem lines_toText (p : Program) : lines p.toText = p.commands.map (·.line.toList) := by
  by_cases h : p.commands = []
  · rw [toText, h]
    rfl
  · rw [lines, if_neg (toText_ne_empty h), pieces_toText h]

theorem mapM_ofLine? : ∀ cs : List Command, (cs.map (·.line.toList)).mapM Command.ofLine? = some cs
  | [] => rfl
  | c :: cs => by
    rw [List.map_cons, List.mapM_cons, Command.ofLine?_line, mapM_ofLine? cs]
    rfl

theorem isPrintableAscii_of_mem_toText {p : Program} : ∀ c ∈ p.toText.toList, c = '\n' ∨ isPrintableAscii c := by
  intro c hc
  rw [toList_toText] at hc
  rcases mem_of_mem_intercalate hc with hfeed | ⟨_, hline, hc⟩
  · exact .inl (List.mem_singleton.1 hfeed)
  · obtain ⟨d, -, rfl⟩ := List.mem_map.1 hline
    exact .inr (d.isPrintableAscii_of_mem_line c hc)

/-- Program text is printable ASCII in one line for each command, and the commands can be read off it: programs with
one text have the same commands. -/
theorem toText_faithful (p : Program) :
    (∀ c ∈ p.toText.toList, c = '\n' ∨ isPrintableAscii c) ∧
    (p.commands ≠ [] → pieces (· = '\n') p.toText.toList = p.commands.map (·.line.toList)) ∧
    readCommands p.toText = some p.commands ∧
    ∀ q : Program, q.toText = p.toText → q.commands = p.commands := by
  have hread (q : Program) : readCommands q.toText = some q.commands := by
    rw [readCommands, lines_toText, mapM_ofLine?]
  refine ⟨isPrintableAscii_of_mem_toText, pieces_toText, hread p, fun q hq => ?_⟩
  refine Option.some.inj ((hread q).symm.trans ?_)
  rw [hq, hread p]

/-- Commands whose strings hold quotes, a backslash, a line feed and a character of two units. -/
def notes : Program := .ofCommands [.load "Notes.ui", .insert "#Notes" "Text: \"a\n😀\";", .assign "#Notes.Text" "\\"]

/-- The notes are three lines, and are read back. -/
theorem toText_faithful_notes : notes.commands ≠ [] ∧
    pieces (· = '\n') notes.toText.toList = notes.commands.map (·.line.toList) ∧
    readCommands notes.toText = some notes.commands := by
  have hne : notes.commands ≠ [] := by decide
  obtain ⟨-, hlines, hread, -⟩ := toText_faithful notes
  exact ⟨hne, hlines hne, hread⟩

end Program

end Overlay
