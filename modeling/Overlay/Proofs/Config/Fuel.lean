/-
Values without fuel. Each reader of values is one step that is given what reads the parts of a value, and it gives it
only ends of its own text; so fuel of twice the length of the text is enough, and more of it changes nothing.
-/
import Overlay.Config.Toml.Document
import Overlay.Proofs.Config.Leaving

namespace Overlay.Toml

open Text

abbrev ValueReader := List Char → Read (Value × List Char)

abbrev ItemReader := List Value → List Char → Read (Value × List Char)

abbrev FieldReader := Table → List Path → List Char → Read (Value × List Char)

/-! ## One step -/

/-- A value that is no list and no table, strings apart. -/
def wordOrPlain (cs : List Char) : Read (Value × List Char) :=
  match after? "true".toList cs with
  | some rest => .ok (.bool true, rest)
  | none => match after? "false".toList cs with
    | some rest => .ok (.bool false, rest)
    | none => plainValue cs

/-- A value, given what reads the items of a list and the fields of a table. -/
def valueStep (items : ItemReader) (fields : FieldReader) : ValueReader
  | [] => .error .invalid
  | c :: cs =>
    if c = '"' || c = '\'' then (required (string? (c :: cs))).map fun r => (.text (String.ofList r.1), r.2)
    else if c = '[' then do
      match ← skipLines (cs.length + 1) cs with
      | ']' :: rest => return (.list [], rest)
      | rest => items [] rest
    else if c = '\x7b' then
      match skipSpaces cs with
      | '\x7d' :: rest => .ok (.table [], rest)
      | rest => fields [] [] rest
    else wordOrPlain (c :: cs)

/-- What comes after an item, given what reads the next one. -/
def afterItem (items : ItemReader) (before : List Value) (r : Value × List Char) : Read (Value × List Char) := do
  match ← skipLines (r.2.length + 1) r.2 with
  | ']' :: rest => return (.list (before ++ [r.1]), rest)
  | ',' :: rest =>
    match ← skipLines (rest.length + 1) rest with
    | ']' :: rest => return (.list (before ++ [r.1]), rest)
    | rest => items (before ++ [r.1]) rest
  | _ => throw .invalid

/-- The items of a list, given what reads one item and what reads those after it. -/
def itemStep (value : ValueReader) (items : ItemReader) : ItemReader := fun before cs =>
  value cs >>= afterItem items before

/-- What comes after the value of a field, given what reads the next field. -/
def afterField (fields : FieldReader) (before : Table) (closed : List Path) (path : Path) (r : Value × List Char) :
    Read (Value × List Char) :=
  if coveredBy closed path then .error .invalid
  else do
    let all ← changeAt false (addEntry (path.getLast?.getD "") r.1) path.dropLast before
    match skipSpaces r.2 with
    | '\x7d' :: rest => return (.table all, rest)
    | ',' :: rest => fields all (if r.1.isCompound then path :: closed else closed) (skipSpaces rest)
    | _ => throw .invalid

/-- What comes after the key of a field, given what reads its value and what reads the next field. -/
def afterKey (value : ValueReader) (fields : FieldReader) (before : Table) (closed : List Path)
    (r : Path × List Char) : Read (Value × List Char) :=
  match r.2 with
  | '=' :: rest => value (skipSpaces rest) >>= afterField fields before closed r.1
  | _ => .error .invalid

/-- The fields of a table, given what reads a value and what reads the fields after the first. -/
def fieldStep (value : ValueReader) (fields : FieldReader) : FieldReader := fun before closed cs =>
  key cs >>= afterKey value fields before closed

theorem value_succ (fuel : Nat) (cs : List Char) : value (fuel + 1) cs = valueStep (items fuel) (fields fuel) cs := by
  cases cs <;> rfl

theorem fields_succ (fuel : Nat) (before : Table) (closed : List Path) (cs : List Char) :
    fields (fuel + 1) before closed cs = fieldStep (value fuel) (fields fuel) before closed cs := by
  rw [fields]
  refine bind_congr_ok fun r hr => ?_
  rcases r with ⟨path, rest⟩
  dsimp only
  split
  · refine bind_congr_ok fun w hw => ?_
    unfold afterField
    split_ifs <;> rfl
  · rename_i hassigned
    have hinvalid : afterKey (value fuel) (fields fuel) before closed (path, rest) = .error .invalid := by
      unfold afterKey
      split
      · rename_i rest' heq
        exact absurd heq (hassigned rest')
      · rfl
    rw [hinvalid]
    rfl

/-! ## What a step leaves -/

/-- Each reading leaves an end of the text. -/
def Leaves (read : ValueReader) : Prop := ∀ cs v rest, read cs = .ok (v, rest) → rest <:+ cs

theorem leaves_wordOrPlain : Leaves wordOrPlain := by
  intro cs v rest h
  unfold wordOrPlain at h
  split at h
  · rename_i htrue
    cases h
    exact suffix_after? htrue
  split at h
  · rename_i hfalse
    cases h
    exact suffix_after? hfalse
  · exact suffix_plainValue h

section Step

variable {valueOf : ValueReader} {itemsOf : ItemReader} {fieldsOf : FieldReader} (hvalue : Leaves valueOf)
  (hitems : ∀ before, Leaves (itemsOf before)) (hfields : ∀ t closed, Leaves (fieldsOf t closed))

include hitems hfields in
theorem leaves_valueStep : Leaves (valueStep itemsOf fieldsOf) := by
  intro cs v rest h
  rcases cs with _ | ⟨c, cs⟩
  · cases h
  rw [valueStep] at h
  split_ifs at h
  · obtain ⟨r, hr, h⟩ := map_eq_ok h
    cases h
    exact suffix_string? (required_eq_ok hr)
  · refine List.IsSuffix.trans ?_ (List.suffix_cons c cs)
    obtain ⟨r, hr, h⟩ := bind_eq_ok h
    have hlines := suffix_skipLines hr
    split at h
    · cases h
      exact (List.suffix_cons ..).trans hlines
    · exact (hitems _ _ _ _ h).trans hlines
  · refine List.IsSuffix.trans ?_ (List.suffix_cons c cs)
    have hspaces := suffix_skipSpaces cs
    split at h
    · rename_i hclosed
      cases h
      rw [hclosed] at hspaces
      exact (List.suffix_cons ..).trans hspaces
    · exact (hfields _ _ _ _ _ h).trans hspaces
  · exact leaves_wordOrPlain _ _ _ h

include hvalue hitems in
theorem leaves_itemStep (before : List Value) : Leaves (itemStep valueOf itemsOf before) := by
  intro cs v rest h
  obtain ⟨⟨w, r⟩, hw, h⟩ := bind_eq_ok h
  obtain ⟨r', hlines, h⟩ := bind_eq_ok h
  have hr' := (suffix_skipLines hlines).trans (hvalue _ _ _ hw)
  split at h
  · cases h
    exact (List.suffix_cons ..).trans hr'
  · obtain ⟨r'', hmore, h⟩ := bind_eq_ok h
    have hr'' := ((suffix_skipLines hmore).trans (List.suffix_cons ..)).trans hr'
    split at h
    · cases h
      exact (List.suffix_cons ..).trans hr''
    · exact (hitems _ _ _ _ h).trans hr''
  · cases h

include hfields in
theorem suffix_afterField {t : Table} {closed : List Path} {path : Path} {w v : Value} {cs rest : List Char}
    (h : afterField fieldsOf t closed path (w, cs) = .ok (v, rest)) : rest <:+ cs := by
  unfold afterField at h
  split at h
  · cases h
  obtain ⟨all, -, h⟩ := bind_eq_ok h
  have hspaces := suffix_skipSpaces cs
  split at h
  · rename_i hclosed
    cases h
    rw [hclosed] at hspaces
    exact (List.suffix_cons ..).trans hspaces
  · rename_i hcomma
    rw [hcomma] at hspaces
    exact ((hfields _ _ _ _ _ h).trans (suffix_skipSpaces _)).trans ((List.suffix_cons ..).trans hspaces)
  · cases h

include hvalue hfields in
theorem leaves_fieldStep (t : Table) (closed : List Path) : Leaves (fieldStep valueOf fieldsOf t closed) := by
  intro cs v rest h
  obtain ⟨⟨path, r⟩, hkey, h⟩ := bind_eq_ok h
  unfold afterKey at h
  dsimp only at h
  split at h
  · obtain ⟨⟨w, r'⟩, hw, h⟩ := bind_eq_ok h
    have hassigned := (List.suffix_cons ..).trans (suffix_key hkey)
    have hvalued := ((hvalue _ _ _ hw).trans (suffix_skipSpaces _)).trans hassigned
    exact (suffix_afterField hfields h).trans hvalued
  · cases h

end Step

theorem leaves_of_zero {read : ValueReader} (h : ∀ cs, read cs = .error .invalid) : Leaves read := by
  intro cs v rest hread
  rw [h] at hread
  cases hread

theorem leaves_readers (fuel : Nat) : Leaves (value fuel) ∧ (∀ before, Leaves (items fuel before)) ∧
    ∀ t closed, Leaves (fields fuel t closed) := by
  induction fuel with
  | zero =>
    exact ⟨leaves_of_zero fun _ => rfl, fun _ => leaves_of_zero fun _ => rfl, fun _ _ => leaves_of_zero fun _ => rfl⟩
  | succ fuel ih =>
    obtain ⟨hvalue, hitems, hfields⟩ := ih
    refine ⟨?_, leaves_itemStep hvalue hitems, fun t closed => ?_⟩
    · rw [funext (value_succ fuel)]
      exact leaves_valueStep hitems hfields
    · rw [funext (fields_succ fuel t closed)]
      exact leaves_fieldStep hvalue hfields t closed

theorem leaves_value (fuel : Nat) : Leaves (value fuel) := (leaves_readers fuel).1

/-! ## Enough fuel -/

section Congruence

variable {valueOf valueOf' : ValueReader} {itemsOf itemsOf' : ItemReader} {fieldsOf fieldsOf' : FieldReader}
  {cs : List Char}

/-- A step asks for the items and the fields of shorter texts only. -/
theorem valueStep_congr (hitems : ∀ before r, r.length < cs.length → itemsOf before r = itemsOf' before r)
    (hfields : ∀ t closed r, r.length < cs.length → fieldsOf t closed r = fieldsOf' t closed r) :
    valueStep itemsOf fieldsOf cs = valueStep itemsOf' fieldsOf' cs := by
  rcases cs with _ | ⟨c, cs⟩
  · rfl
  rw [valueStep, valueStep]
  split_ifs
  · rfl
  · refine bind_congr_ok fun r hr => ?_
    have hshorter := Nat.lt_succ_of_le (suffix_skipLines hr).length_le
    split
    · rfl
    · exact hitems _ _ hshorter
  · have hshorter := Nat.lt_succ_of_le (suffix_skipSpaces cs).length_le
    split
    · rfl
    · exact hfields _ _ _ hshorter
  · rfl

/-- A step asks for an item of the text and for those of shorter texts. -/
theorem itemStep_congr {before : List Value} (hleaves : Leaves valueOf) (hvalue : valueOf cs = valueOf' cs)
    (hitems : ∀ before r, r.length < cs.length → itemsOf before r = itemsOf' before r) :
    itemStep valueOf itemsOf before cs = itemStep valueOf' itemsOf' before cs := by
  unfold itemStep
  rw [← hvalue]
  refine bind_congr_ok fun ⟨v, r⟩ hv => bind_congr_ok fun r' hr' => ?_
  have hr := (suffix_skipLines hr').trans (hleaves _ _ _ hv)
  split
  · rfl
  · refine bind_congr_ok fun r'' hr'' => ?_
    have hmore := (suffix_skipLines hr'').length_le
    have hlength := hr.length_le
    split
    · rfl
    · exact hitems _ _ (by simp only [List.length_cons] at hlength hmore ⊢; omega)
  · rfl

/-- A step asks for the value and for the fields of shorter texts only. -/
theorem fieldStep_congr {t : Table} {closed : List Path} (hleaves : Leaves valueOf)
    (hvalue : ∀ r, r.length < cs.length → valueOf r = valueOf' r)
    (hfields : ∀ t closed r, r.length < cs.length → fieldsOf t closed r = fieldsOf' t closed r) :
    fieldStep valueOf fieldsOf t closed cs = fieldStep valueOf' fieldsOf' t closed cs := by
  refine bind_congr_ok fun ⟨path, r⟩ hkey => ?_
  unfold afterKey
  dsimp only
  split
  · rename_i r'
    have hassigned := (suffix_key hkey).length_le
    have hspaces := (suffix_skipSpaces r').length_le
    rw [List.length_cons] at hassigned
    rw [← hvalue _ (by omega)]
    refine bind_congr_ok fun ⟨v, r''⟩ hv => ?_
    unfold afterField
    split
    · rfl
    refine bind_congr_ok fun all hall => ?_
    have hvalued := (hleaves _ _ _ hv).length_le
    have hleft := (suffix_skipSpaces r'').length_le
    dsimp only
    split
    · rfl
    · rename_i tail hcomma
      have hmore := (suffix_skipSpaces tail).length_le
      rw [hcomma, List.length_cons] at hleft
      exact hfields _ _ _ (by omega)
    · rfl
  · rfl

end Congruence

mutual

theorem value_fuel : ∀ {n m : Nat} {cs : List Char}, 2 * cs.length < n → 2 * cs.length < m →
    value n cs = value m cs
  | n + 1, m + 1, cs, hn, hm => by
    rw [value_succ, value_succ]
    exact valueStep_congr (fun _ _ h => items_fuel (by omega) (by omega)) fun _ _ _ h =>
      fields_fuel (by omega) (by omega)

theorem items_fuel : ∀ {n m : Nat} {before : List Value} {cs : List Char}, 2 * cs.length + 1 < n →
    2 * cs.length + 1 < m → items n before cs = items m before cs
  | n + 1, m + 1, before, cs, hn, hm =>
    itemStep_congr (leaves_value n) (value_fuel (by omega) (by omega)) fun _ _ h => items_fuel (by omega) (by omega)

theorem fields_fuel : ∀ {n m : Nat} {t : Table} {closed : List Path} {cs : List Char}, 2 * cs.length + 1 < n →
    2 * cs.length + 1 < m → fields n t closed cs = fields m t closed cs
  | n + 1, m + 1, t, closed, cs, hn, hm => by
    rw [fields_succ, fields_succ]
    exact fieldStep_congr (leaves_value n) (fun _ h => value_fuel (by omega) (by omega)) fun _ _ _ h =>
      fields_fuel (by omega) (by omega)

end

/-! ## Readers without fuel -/

/-- A value of any form. -/
def valueAt : ValueReader := fun cs => value (2 * cs.length + 1) cs

/-- The items of a list from the next one on, given those before. -/
def itemsAt : ItemReader := fun before cs => items (2 * cs.length + 2) before cs

/-- The fields of an inline table from the next one on, given the table and the paths that are closed. -/
def fieldsAt : FieldReader := fun t closed cs => fields (2 * cs.length + 2) t closed cs

theorem leaves_valueAt : Leaves valueAt := fun cs => leaves_value _ cs

theorem valueAt_eq (cs : List Char) : valueAt cs = valueStep itemsAt fieldsAt cs := by
  unfold valueAt
  rw [value_succ]
  exact valueStep_congr (fun _ _ h => items_fuel (by omega) (by omega)) fun _ _ _ h =>
    fields_fuel (by omega) (by omega)

theorem itemsAt_eq (before : List Value) (cs : List Char) : itemsAt before cs = itemStep valueAt itemsAt before cs :=
  itemStep_congr (leaves_value _) rfl fun _ _ h => items_fuel (by omega) (by omega)

theorem fieldsAt_eq (t : Table) (closed : List Path) (cs : List Char) :
    fieldsAt t closed cs = fieldStep valueAt fieldsAt t closed cs := by
  unfold fieldsAt
  rw [fields_succ]
  exact fieldStep_congr (leaves_value _) (fun _ h => value_fuel (by omega) (by omega)) fun _ _ _ h =>
    fields_fuel (by omega) (by omega)

/-! ## Lines -/

namespace Document

/-- An entry of the section; `cs` begins with its key. -/
def entry (d : Document) (cs : List Char) : Read (Document × List Char) := do
  let (path, rest) ← key cs
  let rest ← required (after? ['='] rest)
  let (v, rest) ← valueAt (skipSpaces rest)
  return (← d.assign path v, rest)

/-- What is neither a header nor a comment is an entry. -/
theorem statement_eq_entry {d : Document} {cs : List Char} (hheader : ∀ rest, cs ≠ '[' :: rest)
    (hcomment : ∀ rest, cs ≠ '#' :: rest) : d.statement cs = d.entry cs := by
  unfold statement
  split
  · exact absurd rfl (hheader _)
  · exact absurd rfl (hheader _)
  · exact absurd rfl (hcomment _)
  · refine bind_congr_ok fun ⟨path, r⟩ _ => bind_congr_ok fun r' _ => ?_
    have hspaces := (suffix_skipSpaces r').length_le
    show value _ _ >>= _ = value _ _ >>= _
    rw [@value_fuel _ (2 * (skipSpaces r').length + 1) _ (by omega) (by omega)]

theorem suffix_statement {d d' : Document} {cs rest : List Char} (h : d.statement cs = .ok (d', rest)) :
    rest <:+ cs := by
  unfold statement at h
  split at h
  · obtain ⟨⟨path, r⟩, hkey, h⟩ := bind_eq_ok h
    obtain ⟨d₁, -, h⟩ := bind_eq_ok h
    obtain ⟨r', hr', h⟩ := bind_eq_ok h
    cases h
    have hheader := (suffix_key hkey).trans (suffix_skipSpaces _)
    exact ((suffix_after? (required_eq_ok hr')).trans hheader).trans (List.suffix_append ['[', '['] _)
  · obtain ⟨⟨path, r⟩, hkey, h⟩ := bind_eq_ok h
    obtain ⟨d₁, -, h⟩ := bind_eq_ok h
    obtain ⟨r', hr', h⟩ := bind_eq_ok h
    cases h
    have hheader := (suffix_key hkey).trans (suffix_skipSpaces _)
    exact ((suffix_after? (required_eq_ok hr')).trans hheader).trans (List.suffix_cons ..)
  · cases h
    exact List.suffix_rfl
  · obtain ⟨⟨path, r⟩, hkey, h⟩ := bind_eq_ok h
    obtain ⟨r', hr', h⟩ := bind_eq_ok h
    obtain ⟨⟨v, r''⟩, hv, h⟩ := bind_eq_ok h
    obtain ⟨d₁, -, h⟩ := bind_eq_ok h
    cases h
    have hassigned := (suffix_after? (required_eq_ok hr')).trans (suffix_key hkey)
    exact ((leaves_value _ _ _ _ hv).trans (suffix_skipSpaces r')).trans hassigned

/-- What comes after a statement, given what reads the lines after it. -/
def afterStatement (lines : Document → List Char → Read Document) (r : Document × List Char) : Read Document := do
  match ← skipComment (skipSpaces r.2) with
  | [] => return r.1
  | '\n' :: rest => lines r.1 rest
  | _ => throw .invalid

/-- A line, given what reads the lines after it. -/
def lineStep (lines : Document → List Char → Read Document) (d : Document) (cs : List Char) : Read Document :=
  match skipSpaces cs with
  | [] => .ok d
  | '\n' :: rest => lines d rest
  | cs => d.statement cs >>= afterStatement lines

theorem lineStep_eq_statement {lines : Document → List Char → Read Document} {d : Document} {cs tail : List Char}
    {c : Char} (h : skipSpaces cs = c :: tail) (hc : c ≠ '\n') :
    lineStep lines d cs = d.statement (skipSpaces cs) >>= afterStatement lines := by
  unfold lineStep
  split
  · rename_i hblank
    cases h.symm.trans hblank
  · rename_i hblank
    cases h.symm.trans hblank
    exact absurd rfl hc
  · rfl

theorem readLines_succ (fuel : Nat) (d : Document) (cs : List Char) :
    readLines (fuel + 1) d cs = lineStep (readLines fuel) d cs := rfl

theorem lineStep_congr {lines lines' : Document → List Char → Read Document} {d : Document} {cs : List Char}
    (hlines : ∀ d r, r.length < cs.length → lines d r = lines' d r) : lineStep lines d cs = lineStep lines' d cs := by
  have hspaces := suffix_skipSpaces cs
  unfold lineStep
  split
  · rfl
  · rename_i rest hblank
    rw [hblank] at hspaces
    exact hlines _ _ hspaces.length_le
  · refine bind_congr_ok fun ⟨d', r⟩ hstatement => bind_congr_ok fun r' hcomment => ?_
    have hleft := (suffix_skipComment hcomment).trans (suffix_skipSpaces r)
    have hr' := (hleft.trans (suffix_statement hstatement)).trans hspaces
    split
    · rfl
    · exact hlines _ _ hr'.length_le
    · rfl

theorem readLines_fuel : ∀ {n m : Nat} {d : Document} {cs : List Char}, cs.length < n → cs.length < m →
    readLines n d cs = readLines m d cs
  | n + 1, m + 1, d, cs, hn, hm => by
    rw [readLines_succ, readLines_succ]
    exact lineStep_congr fun _ _ h => readLines_fuel (by omega) (by omega)

/-- The document from a line on. -/
def linesAt (d : Document) (cs : List Char) : Read Document := readLines (cs.length + 1) d cs

theorem linesAt_eq (d : Document) (cs : List Char) : linesAt d cs = lineStep linesAt d cs :=
  lineStep_congr fun _ _ h => readLines_fuel h (Nat.lt_succ_self _)

end Document

end Overlay.Toml
