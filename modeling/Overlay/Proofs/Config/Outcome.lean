/-
What loading the settings comes to. A file gives settings whose names are not empty, or it is faulty as a settings file:
no TOML, or a value in it has the wrong type. There are two exceptions, and they are stated exactly: the bytes are not
UTF-8, or the reading of the document comes to an integer of more digits than are read.
-/
import Overlay.Config.Load
import Overlay.Proofs.Config.Reading

namespace Overlay

open Text

namespace Toml

/-- The reading of a document comes to a value that begins with a numeral that is too long. -/
def ComesToNumeral (cs : List Char) (n : NumeralTooLong) : Prop :=
  ∃ rest, Relation.ReflTransGen Next (.line {} cs) (.value rest) ∧ Opens n rest

theorem read_eq_numeral_iff {text : String} {n : NumeralTooLong} :
    read text = .error (.numeral n) ↔ ComesToNumeral text.toList n := by
  have hread : read text = .error (.numeral n) ↔ (Place.line {} text.toList).EndsIn n := by
    refine ⟨map_eq_error, fun h => ?_⟩
    have hlines : Document.readLines (text.toList.length + 1) {} text.toList = .error (.numeral n) := h
    rw [read, hlines]
    rfl
  rw [hread, Place.endsIn_iff_comesTo]
  constructor
  · rintro ⟨b, hcomes, hnumeral⟩
    cases b with
    | value rest => exact ⟨rest, hcomes, hnumeral⟩
    | _ => exact hnumeral.elim
  · rintro ⟨rest, hcomes, hopens⟩
    exact ⟨_, hcomes, hopens⟩

/-- A text that reading comes to a numeral in is itself longer than a numeral may be. -/
theorem ComesToNumeral.length_lt {cs : List Char} {n : NumeralTooLong} (h : ComesToNumeral cs n) :
    Token.digitLimit < cs.length := by
  obtain ⟨rest, hcomes, hopens⟩ := h
  have hlong := hopens.length_lt
  have hsize := Place.size_le_of_comesTo hcomes
  simp only [Place.size] at hsize
  omega

end Toml

/-! ## Decoding -/

namespace Text

theorem length_unifyLineEnds_le (cs : List Char) : (unifyLineEnds cs).length ≤ cs.length := by
  fun_induction unifyLineEnds cs <;> simp only [List.length_nil, List.length_cons] <;> omega

theorem unifyLineEnds_of_not_mem : ∀ {cs : List Char}, '\r' ∉ cs → unifyLineEnds cs = cs
  | [], _ => rfl
  | c :: cs, h => by
    rw [List.mem_cons, not_or] at h
    rw [unifyLineEnds, unifyLineEnds_of_not_mem h.2]
    · rintro cs' rfl
      exact absurd rfl h.1
    · rintro rfl
      exact absurd rfl h.1

end Text

theorem fromUTF8?_eq_some_iff {bytes : ByteArray} {text : String} :
    String.fromUTF8? bytes = some text ↔ text.toUTF8 = bytes := by
  constructor
  · intro h
    unfold String.fromUTF8? at h
    split at h
    · cases h
      rfl
    · cases h
  · rintro rfl
    rw [String.fromUTF8?, String.toUTF8_eq_toByteArray, dif_pos text.isValidUTF8]
    rfl

/-! ## Faults of the settings -/

/-- The faults of a settings file: it is no TOML, or a value in it has the wrong type or no meaning. -/
def ConfigFault.IsConfigError : ConfigFault → Prop
  | notUtf8 => False
  | numeral _ => False
  | _ => True

namespace Settings

variable {s : Settings} {f : ConfigFault} {t : Toml.Table}

/-- The settings that may not be empty are not. -/
structure Named (s : Settings) : Prop where
  markerId : s.markerId ≠ ""
  styleStem : s.styleStem ≠ ""
  logLevel : s.logLevel ≠ ""

theorem named_default : Named {} := ⟨by decide, by decide, by decide⟩

theorem nonEmptyOr_ne_empty {default : String} (h : default ≠ "") (value : Option String) :
    nonEmptyOr default value ≠ "" := by
  unfold nonEmptyOr
  rcases value with _ | value
  · exact h
  rw [Option.filter_some]
  split_ifs with hvalue
  · simpa using hvalue
  · exact h

theorem isConfigError_textAt {key : String} (h : textAt t key = .error f) : f.IsConfigError := by
  unfold textAt at h
  split at h <;> cases h
  trivial

theorem named_ofTable (h : ofTable t = .ok s) : s.Named := by
  obtain ⟨baseFile, -, h⟩ := bind_eq_ok h
  obtain ⟨markerId, -, h⟩ := bind_eq_ok h
  obtain ⟨rootSelector, -, h⟩ := bind_eq_ok h
  obtain ⟨styleStem, -, h⟩ := bind_eq_ok h
  obtain ⟨logLevel, -, h⟩ := bind_eq_ok h
  cases h
  exact ⟨nonEmptyOr_ne_empty (by decide) _, nonEmptyOr_ne_empty (by decide) _, nonEmptyOr_ne_empty (by decide) _⟩

theorem isConfigError_ofTable (h : ofTable t = .error f) : f.IsConfigError := by
  rcases bind_eq_error h with h | ⟨baseFile, -, h⟩
  · exact isConfigError_textAt h
  rcases bind_eq_error h with h | ⟨markerId, -, h⟩
  · exact isConfigError_textAt h
  rcases bind_eq_error h with h | ⟨rootSelector, -, h⟩
  · exact isConfigError_textAt h
  rcases bind_eq_error h with h | ⟨styleStem, -, h⟩
  · exact isConfigError_textAt h
  rcases bind_eq_error h with h | ⟨logLevel, -, h⟩
  · exact isConfigError_textAt h
  · cases h

/-- There are settings with names that are not empty, or a fault of the settings file. -/
def Settled (r : Except ConfigFault Settings) : Prop :=
  (∃ s, r = .ok s ∧ s.Named) ∨ ∃ f, r = .error f ∧ f.IsConfigError

theorem settled_ok_iff : Settled (.ok s) ↔ s.Named := by
  constructor
  · rintro (⟨_, ⟨⟩, h⟩ | ⟨_, ⟨⟩, -⟩)
    exact h
  · exact fun h => .inl ⟨s, rfl, h⟩

theorem settled_error_iff : Settled (.error f) ↔ f.IsConfigError := by
  constructor
  · rintro (⟨_, ⟨⟩, -⟩ | ⟨_, ⟨⟩, h⟩)
    exact h
  · exact fun h => .inr ⟨f, rfl, h⟩

/-- Every document settles, whatever values stand in it. -/
theorem settled_ofDocument (t : Toml.Table) : Settled (ofDocument t) := by
  unfold ofDocument
  split
  · exact settled_ok_iff.2 named_default
  · rename_i u _
    rcases hload : ofTable u with f | s
    · exact settled_error_iff.2 (isConfigError_ofTable hload)
    · exact settled_ok_iff.2 (named_ofTable hload)
  · exact settled_error_iff.2 trivial

theorem settled_ofText_iff {text : String} :
    Settled (ofText text) ↔ ∀ n, ¬ Toml.ComesToNumeral (unifyLineEnds text.toList) n := by
  have hnumeral (n : NumeralTooLong) : Toml.ComesToNumeral (unifyLineEnds text.toList) n ↔
      Toml.read (String.ofList (unifyLineEnds text.toList)) = .error (.numeral n) := by
    rw [Toml.read_eq_numeral_iff, String.toList_ofList]
  simp only [hnumeral]
  unfold ofText
  rcases Toml.read (String.ofList (unifyLineEnds text.toList)) with (_ | n) | t
  · exact iff_of_true (settled_error_iff.2 trivial) nofun
  · exact iff_of_false settled_error_iff.1 fun h => h n rfl
  · exact iff_of_true (settled_ofDocument t) nofun

theorem load_of_not_utf8 {bytes : ByteArray} (h : String.fromUTF8? bytes = none) :
    load (some bytes) = .error .notUtf8 := by
  simp only [load, h]

theorem load_of_utf8 {bytes : ByteArray} {text : String} (h : String.fromUTF8? bytes = some text) :
    load (some bytes) = ofText text := by
  simp only [load, h]

/-- Loading settles exactly if the file is UTF-8 and the reading of its document comes to no numeral that is too
long. -/
theorem settled_load_iff (bytes : ByteArray) : Settled (load (some bytes)) ↔
    ∃ text : String, text.toUTF8 = bytes ∧ ∀ n, ¬ Toml.ComesToNumeral (unifyLineEnds text.toList) n := by
  simp only [← fromUTF8?_eq_some_iff]
  rcases hdecoded : String.fromUTF8? bytes with _ | text
  · rw [load_of_not_utf8 hdecoded]
    exact iff_of_false settled_error_iff.1 nofun
  · rw [load_of_utf8 hdecoded, settled_ofText_iff]
    constructor
    · exact fun h => ⟨text, rfl, h⟩
    · rintro ⟨_, ⟨⟩, h⟩
      exact h

/-- No text as short as a numeral may be fails to settle. This takes it that values may be nested without limit, as
they are read here. -/
theorem settled_load_of_short {text : String} (h : text.length ≤ Token.digitLimit) :
    Settled (load (some text.toUTF8)) := by
  rw [load_of_utf8 (fromUTF8?_eq_some_iff.2 rfl), settled_ofText_iff]
  intro n hcomes
  have hlong := hcomes.length_lt
  have hunified := length_unifyLineEnds_le text.toList
  rw [String.length_toList] at hunified
  omega

/-! ## Two files that do not settle -/

/-- No text is a single byte of all ones. -/
def badByte : ByteArray := ⟨#[0xff]⟩

theorem fromUTF8?_badByte : String.fromUTF8? badByte = none := by
  decide +kernel

/-- A document that assigns an integer of one digit more than are read. -/
def longNumber : String := "x = " ++ nines

theorem grouped_replicate (n : Nat) : Toml.Grouped (List.replicate (n + 1) '9') (List.replicate (n + 1) '9') := by
  induction n with
  | zero => exact .last (by decide)
  | succ n ih => exact .next (by decide) ih

theorem opens_nines : Toml.Opens ⟨Token.digitLimit + 1⟩ nines.toList := by
  have hnines : nines.toList = [] ++ (List.replicate (Token.digitLimit + 1) '9' ++ []) := by
    rw [toList_nines, List.append_nil, List.nil_append]
  have hlength : (List.replicate (Token.digitLimit + 1) '9').length = Token.digitLimit + 1 := List.length_replicate
  rw [hnines]
  refine .mk .none (grouped_replicate _) ?_ hlength.symm ?_ nofun nofun
  · rw [List.replicate_succ]
    exact nofun
  · rw [hlength]
    exact Nat.lt_succ_self _

theorem key_longNumber (cs : List Char) :
    Toml.key (Toml.skipSpaces ('x' :: ' ' :: '=' :: cs)) = .ok (["x"], '=' :: cs) := rfl

theorem comesToNumeral_longNumber :
    Toml.ComesToNumeral (unifyLineEnds longNumber.toList) ⟨Token.digitLimit + 1⟩ := by
  have htext : unifyLineEnds longNumber.toList = 'x' :: ' ' :: '=' :: ' ' :: nines.toList := by
    have hlist : longNumber.toList = 'x' :: ' ' :: '=' :: ' ' :: nines.toList := String.toList_append
    rw [hlist]
    refine unifyLineEnds_of_not_mem fun hmem => ?_
    rw [toList_nines] at hmem
    simp [List.mem_replicate] at hmem
  have hvalue : Toml.skipSpaces (' ' :: nines.toList) = nines.toList := by
    rw [toList_nines]
    rfl
  rw [htext]
  refine ⟨nines.toList, .single ?_, opens_nines⟩
  have hnext := Toml.Next.entryValue (d := {}) (key_longNumber (' ' :: nines.toList))
  rwa [hvalue] at hnext

/-- A byte that begins no character, and a numeral of one digit more than are read. -/
theorem not_settled_badByte_longNumber :
    ¬ Settled (load (some badByte)) ∧ ¬ Settled (load (some longNumber.toUTF8)) := by
  constructor
  · rw [load_of_not_utf8 fromUTF8?_badByte]
    exact settled_error_iff.1
  · rw [load_of_utf8 (fromUTF8?_eq_some_iff.2 rfl), settled_ofText_iff]
    exact fun h => h _ comesToNumeral_longNumber

end Settings

end Overlay
