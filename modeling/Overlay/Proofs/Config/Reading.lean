/-
Where the reading of a document comes to. It begins at the first line and goes on from a line to the value that it
assigns and to the line after it, from a list to its items and from a table to its fields, as long as it meets no fault.
Of its two faults it ends in a numeral that is too long exactly if it comes to a value that begins with one.
-/
import Overlay.Proofs.Config.Fuel
import Mathlib.Logic.Relation

namespace Overlay.Toml

open Text

/-! ## Readings that meet no numeral -/

/-- Whatever is wrong, it is not a numeral that is too long. -/
def NeverNumeral {α : Type} (x : Read α) : Prop := ∀ n, x ≠ .error (.numeral n)

namespace NeverNumeral

variable {α β : Type}

theorem ok (a : α) : NeverNumeral (.ok a : Read α) := nofun

theorem invalid : NeverNumeral (.error .invalid : Read α) := nofun

theorem required (a? : Option α) : NeverNumeral (Toml.required a?) := required_ne_numeral a?

theorem bind {x : Read α} {f : α → Read β} (hx : NeverNumeral x) (hf : ∀ a, NeverNumeral (f a)) :
    NeverNumeral (x >>= f) := by
  intro n h
  rcases bind_eq_error h with h | ⟨a, -, h⟩
  · exact hx n h
  · exact hf a n h

theorem map {x : Read α} {f : α → β} (hx : NeverNumeral x) : NeverNumeral (x.map f) :=
  fun n h => hx n (map_eq_error h)

/-- After a step that meets no numeral, one is met by what comes next. -/
theorem bind_iff {x : Read α} (hx : NeverNumeral x) {f : α → Read β} {n : NumeralTooLong} :
    x >>= f = .error (.numeral n) ↔ ∃ a, x = .ok a ∧ f a = .error (.numeral n) := by
  rw [bind_eq_error_iff, or_iff_right (hx n)]

end NeverNumeral

theorem neverNumeral_skipComment (cs : List Char) : NeverNumeral (skipComment cs) := by
  unfold skipComment
  split
  · split_ifs
    · exact .invalid
    · exact .ok _
  · exact .ok _

theorem neverNumeral_skipLines : ∀ (fuel : Nat) (cs : List Char), NeverNumeral (skipLines fuel cs)
  | 0, _ => .ok _
  | fuel + 1, cs => by
    rw [skipLines]
    refine (neverNumeral_skipComment _).bind fun rest => ?_
    split
    · exact .ok _
    · exact neverNumeral_skipLines fuel rest

theorem neverNumeral_key (cs : List Char) : NeverNumeral (key cs) := .required _

theorem neverNumeral_addEntry (k : String) (v : Value) (t : Table) : NeverNumeral (addEntry k v t) := by
  unfold addEntry
  split_ifs
  · exact .invalid
  · exact .ok _

theorem neverNumeral_addListItem (k : String) (t : Table) : NeverNumeral (addListItem k t) := by
  unfold addListItem
  split
  · exact .ok _
  · exact .ok _
  · exact .invalid

theorem neverNumeral_changeAt {enterLists : Bool} {f : Table → Read Table} (hf : ∀ t, NeverNumeral (f t)) :
    ∀ (path : Path) (t : Table), NeverNumeral (changeAt enterLists f path t)
  | [], t => hf t
  | k :: ks, t => by
    have hinner (u : Table) : NeverNumeral (changeAt enterLists f ks u) := neverNumeral_changeAt hf ks u
    have hput {inner? : Read Value} (h : NeverNumeral inner?) :
        NeverNumeral (inner? >>= fun inner => pure (putEntry k inner t)) := h.bind fun _ => .ok _
    rw [changeAt]
    split
    · exact hput (hinner _).map
    · exact hput (hinner _).map
    · split
      · split_ifs
        · exact hput (hinner _).map
        · exact hput .invalid
      · exact hput .invalid
    · exact hput .invalid

/-- A key begins with a character of keys or with a quote. -/
theorem exists_cons_of_key {cs : List Char} {r : Path × List Char} (h : key cs = .ok r) :
    ∃ c tail, cs = c :: tail ∧ (isKeyChar c ∨ c = '\'' ∨ c = '"') := by
  obtain ⟨part, hpart, -⟩ := Option.bind_eq_some_iff.1 (required_eq_ok h)
  rcases cs with _ | ⟨c, tail⟩
  · cases hpart
  refine ⟨c, tail, rfl, ?_⟩
  unfold keyPart? at hpart
  dsimp only at hpart
  split_ifs at hpart with hbare hliteral hbasic
  · exact .inl hbare
  · exact .inr (.inl hliteral)
  · exact .inr (.inr hbasic)

namespace Document

theorem neverNumeral_openTable (d : Document) (path : Path) : NeverNumeral (d.openTable path) := by
  unfold openTable
  split_ifs
  · exact .invalid
  · exact (neverNumeral_changeAt (fun _ => .ok _) _ _).bind fun _ => .ok _

theorem neverNumeral_openItem (d : Document) (path : Path) : NeverNumeral (d.openItem path) := by
  unfold openItem
  split_ifs
  · exact .invalid
  · exact (neverNumeral_changeAt (neverNumeral_addListItem _) _ _).bind fun _ => .ok _

theorem neverNumeral_assign (d : Document) (path : Path) (v : Value) : NeverNumeral (d.assign path v) := by
  unfold assign
  dsimp only
  split
  · exact .invalid
  split
  · exact .invalid
  · exact (neverNumeral_changeAt (neverNumeral_addEntry _ v) _ _).bind fun _ => .ok _

theorem neverNumeral_header (d : Document) (rest : List Char) : NeverNumeral (d.statement ('[' :: rest)) := by
  unfold statement
  split
  · refine (neverNumeral_key _).bind fun r => ?_
    exact (neverNumeral_openItem _ r.1).bind fun _ => (NeverNumeral.required _).bind fun _ => .ok _
  · refine (neverNumeral_key _).bind fun r => ?_
    exact (neverNumeral_openTable _ r.1).bind fun _ => (NeverNumeral.required _).bind fun _ => .ok _
  · exact .ok _
  · rename_i hnone _
    exact absurd rfl (hnone rest)

variable {n : NumeralTooLong} {d : Document} {cs : List Char}

/-- An entry meets a numeral in its value only. -/
theorem entry_eq_numeral_iff : d.entry cs = .error (.numeral n) ↔
    ∃ path rest, key cs = .ok (path, '=' :: rest) ∧ valueAt (skipSpaces rest) = .error (.numeral n) := by
  unfold entry
  rw [(neverNumeral_key cs).bind_iff]
  constructor
  · rintro ⟨⟨path, r⟩, hkey, h⟩
    obtain ⟨rest, hrest, h⟩ := (NeverNumeral.required _).bind_iff.1 h
    have hr := after?_eq_some_iff.1 (required_eq_ok hrest)
    rcases bind_eq_error h with h | ⟨⟨v, r'⟩, -, h⟩
    · exact ⟨path, rest, by rw [hkey, hr]; rfl, h⟩
    · exact absurd h (((neverNumeral_assign d path v).bind fun _ => .ok _) n)
  · rintro ⟨path, rest, hkey, hvalue⟩
    refine ⟨_, hkey, ?_⟩
    have hmark : required (after? ['='] ('=' :: rest)) = .ok rest := rfl
    dsimp only
    rw [bind_of_ok hmark, hvalue]
    rfl

/-- What begins like a key is an entry. -/
theorem statement_eq_entry_of_key {r : Path × List Char} (h : key cs = .ok r) : d.statement cs = d.entry cs := by
  obtain ⟨c, tail, rfl, hc⟩ := exists_cons_of_key h
  refine statement_eq_entry ?_ ?_ <;> rintro rest ⟨⟩ <;> exact absurd hc (by decide)

/-- A statement meets a numeral only in the value of an entry. -/
theorem statement_eq_numeral_iff : d.statement cs = .error (.numeral n) ↔
    ∃ path rest, key cs = .ok (path, '=' :: rest) ∧ valueAt (skipSpaces rest) = .error (.numeral n) := by
  constructor
  · intro h
    rw [← @entry_eq_numeral_iff n d]
    by_cases hheader : ∃ rest, cs = '[' :: rest
    · obtain ⟨rest, rfl⟩ := hheader
      exact absurd h (neverNumeral_header d rest n)
    by_cases hcomment : ∃ rest, cs = '#' :: rest
    · obtain ⟨rest, rfl⟩ := hcomment
      cases h
    · push Not at hheader hcomment
      rwa [← statement_eq_entry hheader hcomment]
  · rintro ⟨path, rest, hkey, hvalue⟩
    rw [statement_eq_entry_of_key hkey]
    exact entry_eq_numeral_iff.2 ⟨path, rest, hkey, hvalue⟩

/-- A statement is written on a line. -/
theorem exists_cons_of_statement {r : Document × List Char} (h : d.statement cs = .ok r) :
    ∃ c tail, cs = c :: tail ∧ c ≠ '\n' := by
  unfold statement at h
  split at h
  · exact ⟨_, _, rfl, by decide⟩
  · exact ⟨_, _, rfl, by decide⟩
  · exact ⟨_, _, rfl, by decide⟩
  · obtain ⟨r', hkey, -⟩ := bind_eq_ok h
    obtain ⟨c, tail, rfl, hc⟩ := exists_cons_of_key hkey
    refine ⟨c, tail, rfl, ?_⟩
    rintro rfl
    exact absurd hc (by decide)

end Document

/-! ## Places -/

/-- A place in a document where reading begins: a line, a value, an item of a list or a field of a table. -/
inductive Place where
  | line (d : Document) (cs : List Char)
  | value (cs : List Char)
  | item (before : List Value) (cs : List Char)
  | field (t : Table) (closed : List Path) (cs : List Char)

/-- Reading goes on from one place to another, and meets no fault between them. -/
inductive Next : Place → Place → Prop
  | firstItem {cs rest : List Char} (hskip : skipLines (cs.length + 1) cs = .ok rest)
    (hopen : ∀ r, rest ≠ ']' :: r) : Next (.value ('[' :: cs)) (.item [] rest)
  | itemValue (before : List Value) (cs : List Char) : Next (.item before cs) (.value cs)
  | nextItem {before : List Value} {cs r r' rest : List Char} {v : Value} (hvalue : valueAt cs = .ok (v, r))
    (hcomma : skipLines (r.length + 1) r = .ok (',' :: r')) (hskip : skipLines (r'.length + 1) r' = .ok rest)
    (hopen : ∀ r, rest ≠ ']' :: r) : Next (.item before cs) (.item (before ++ [v]) rest)
  | firstField {cs : List Char} (hopen : ∀ r, skipSpaces cs ≠ '\x7d' :: r) :
    Next (.value ('\x7b' :: cs)) (.field [] [] (skipSpaces cs))
  | fieldValue {t : Table} {closed : List Path} {cs r : List Char} {path : Path}
    (hkey : key cs = .ok (path, '=' :: r)) : Next (.field t closed cs) (.value (skipSpaces r))
  | nextField {t all : Table} {closed : List Path} {cs r r' rest : List Char} {path : Path} {v : Value}
    (hkey : key cs = .ok (path, '=' :: r)) (hvalue : valueAt (skipSpaces r) = .ok (v, r'))
    (hfree : coveredBy closed path = false)
    (hadd : changeAt false (addEntry (path.getLast?.getD "") v) path.dropLast t = .ok all)
    (hcomma : skipSpaces r' = ',' :: rest) :
    Next (.field t closed cs) (.field all (if v.isCompound then path :: closed else closed) (skipSpaces rest))
  | blankLine {d : Document} {cs rest : List Char} (hblank : skipSpaces cs = '\n' :: rest) :
    Next (.line d cs) (.line d rest)
  | entryValue {d : Document} {cs r : List Char} {path : Path}
    (hkey : key (skipSpaces cs) = .ok (path, '=' :: r)) : Next (.line d cs) (.value (skipSpaces r))
  | nextLine {d d' : Document} {cs r rest : List Char}
    (hstatement : d.statement (skipSpaces cs) = .ok (d', r)) (hend : skipComment (skipSpaces r) = .ok ('\n' :: rest)) :
    Next (.line d cs) (.line d' rest)

namespace Place

variable {n : NumeralTooLong} {cs : List Char}

/-- Reading from a place on ends in a numeral that is too long. -/
def EndsIn (n : NumeralTooLong) : Place → Prop
  | line d cs => d.linesAt cs = .error (.numeral n)
  | value cs => valueAt cs = .error (.numeral n)
  | item before cs => itemsAt before cs = .error (.numeral n)
  | field t closed cs => fieldsAt t closed cs = .error (.numeral n)

/-- A value that begins with a numeral that is too long. -/
def IsNumeral (n : NumeralTooLong) : Place → Prop
  | value cs => Opens n cs
  | _ => False

/-- A numeral is no word. -/
theorem after?_of_opens (h : Opens n cs) {c : Char} (hc : isKeyChar c) (hsign : c ≠ '-')
    (hdigit : Token.isDigit c = false) (word : List Char) : after? (c :: word) cs = none := by
  obtain ⟨d, tail, rfl, hd, -⟩ := h.exists_cons
  rw [after?, if_neg]
  rintro rfl
  rcases hd with rfl | rfl | hd
  · exact absurd hc (by decide)
  · exact hsign rfl
  · exact Bool.false_ne_true (hdigit.symm.trans hd)

theorem wordOrPlain_eq_numeral_iff : wordOrPlain cs = .error (.numeral n) ↔ Opens n cs := by
  constructor
  · intro h
    unfold wordOrPlain at h
    split at h
    · cases h
    split at h
    · cases h
    · exact plainValue_eq_numeral_iff.1 h
  · intro h
    have htrue : after? "true".toList cs = none := after?_of_opens h (by decide) (by decide) (by decide) _
    have hfalse : after? "false".toList cs = none := after?_of_opens h (by decide) (by decide) (by decide) _
    rw [wordOrPlain, htrue, hfalse]
    exact plainValue_eq_numeral_iff.2 h

theorem endsIn_value_iff : (value cs).EndsIn n ↔ Opens n cs ∨ ∃ b, Next (value cs) b ∧ b.EndsIn n := by
  show valueAt cs = _ ↔ _
  rw [valueAt_eq]
  constructor
  · intro h
    rcases cs with _ | ⟨c, cs⟩
    · cases h
    rw [valueStep] at h
    split_ifs at h with hstring hlist htable
    · exact absurd h ((NeverNumeral.required _).map n)
    · subst hlist
      obtain ⟨rest, hskip, h⟩ := (neverNumeral_skipLines _ cs).bind_iff.1 h
      split at h
      · cases h
      · rename_i hopen
        exact .inr ⟨_, .firstItem hskip hopen, h⟩
    · subst htable
      split at h
      · cases h
      · rename_i hopen
        exact .inr ⟨_, .firstField hopen, h⟩
    · exact .inl (wordOrPlain_eq_numeral_iff.1 h)
  · rintro (hopens | ⟨b, hnext, hb⟩)
    · obtain ⟨c, tail, rfl, hc, -⟩ := hopens.exists_cons
      have hplain : c ≠ '"' ∧ c ≠ '\'' ∧ c ≠ '[' ∧ c ≠ '\x7b' := by
        refine ⟨?_, ?_, ?_, ?_⟩ <;> rintro rfl <;> exact absurd hc (by decide)
      simp only [valueStep, hplain, decide_false, Bool.or_self, Bool.false_eq_true, if_false]
      exact wordOrPlain_eq_numeral_iff.2 hopens
    · cases hnext with
      | firstItem hskip hopen =>
        rw [valueStep, if_neg (by decide), if_pos rfl, bind_of_ok hskip]
        split
        · exact absurd rfl (hopen _)
        · exact hb
      | firstField hopen =>
        rw [valueStep, if_neg (by decide), if_neg (by decide), if_pos rfl]
        split
        · rename_i hclosed
          exact absurd hclosed (hopen _)
        · exact hb

theorem endsIn_item_iff {before : List Value} :
    (item before cs).EndsIn n ↔ ∃ b, Next (item before cs) b ∧ b.EndsIn n := by
  show itemsAt before cs = _ ↔ _
  rw [itemsAt_eq]
  constructor
  · intro h
    rcases bind_eq_error h with h | ⟨⟨v, r⟩, hvalue, h⟩
    · exact ⟨_, .itemValue before cs, h⟩
    obtain ⟨r', hcomma, h⟩ := (neverNumeral_skipLines _ r).bind_iff.1 h
    split at h
    · cases h
    · obtain ⟨rest, hskip, h⟩ := (neverNumeral_skipLines _ _).bind_iff.1 h
      split at h
      · cases h
      · rename_i hopen
        exact ⟨_, .nextItem hvalue hcomma hskip hopen, h⟩
    · cases h
  · rintro ⟨b, hnext, hb⟩
    cases hnext with
    | itemValue =>
      have hvalue : valueAt cs = .error (.numeral n) := hb
      rw [itemStep, hvalue]
      rfl
    | nextItem hvalue hcomma hskip hopen =>
      rw [itemStep, bind_of_ok hvalue, afterItem, bind_of_ok hcomma]
      show skipLines _ _ >>= _ = _
      rw [bind_of_ok hskip]
      split
      · exact absurd rfl (hopen _)
      · exact hb

theorem endsIn_field_iff {t : Table} {closed : List Path} :
    (field t closed cs).EndsIn n ↔ ∃ b, Next (field t closed cs) b ∧ b.EndsIn n := by
  show fieldsAt t closed cs = _ ↔ _
  rw [fieldsAt_eq]
  constructor
  · intro h
    obtain ⟨⟨path, r⟩, hkey, h⟩ := (neverNumeral_key cs).bind_iff.1 h
    unfold afterKey at h
    dsimp only at h
    split at h
    · rcases bind_eq_error h with h | ⟨⟨v, r'⟩, hvalue, h⟩
      · exact ⟨_, .fieldValue hkey, h⟩
      unfold afterField at h
      split at h
      · cases h
      rename_i hfree
      obtain ⟨all, hadd, h⟩ := (neverNumeral_changeAt (neverNumeral_addEntry _ v) _ _).bind_iff.1 h
      split at h
      · cases h
      · rename_i hcomma
        exact ⟨_, .nextField hkey hvalue (Bool.eq_false_of_not_eq_true hfree) hadd hcomma, h⟩
      · cases h
    · cases h
  · rintro ⟨b, hnext, hb⟩
    cases hnext with
    | fieldValue hkey =>
      have hvalue : valueAt (skipSpaces _) = .error (.numeral n) := hb
      rw [fieldStep, bind_of_ok hkey]
      show valueAt _ >>= _ = _
      rw [hvalue]
      rfl
    | nextField hkey hvalue hfree hadd hcomma =>
      rw [fieldStep, bind_of_ok hkey]
      show valueAt _ >>= _ = _
      rw [bind_of_ok hvalue, afterField, hfree, if_neg Bool.false_ne_true, bind_of_ok hadd]
      dsimp only
      rw [hcomma]
      exact hb

theorem endsIn_line_iff {d : Document} : (line d cs).EndsIn n ↔ ∃ b, Next (line d cs) b ∧ b.EndsIn n := by
  show d.linesAt cs = _ ↔ _
  rw [Document.linesAt_eq]
  constructor
  · intro h
    unfold Document.lineStep at h
    split at h
    · cases h
    · rename_i rest hblank
      exact ⟨_, .blankLine hblank, h⟩
    · rcases bind_eq_error h with h | ⟨⟨d', r⟩, hstatement, h⟩
      · obtain ⟨path, rest, hkey, hvalue⟩ := Document.statement_eq_numeral_iff.1 h
        exact ⟨_, .entryValue hkey, hvalue⟩
      · obtain ⟨r', hend, h⟩ := (neverNumeral_skipComment _).bind_iff.1 h
        split at h
        · cases h
        · exact ⟨_, .nextLine hstatement hend, h⟩
        · cases h
  · rintro ⟨b, hnext, hb⟩
    cases hnext with
    | blankLine hblank =>
      rw [Document.lineStep, hblank]
      exact hb
    | entryValue hkey =>
      have hstatement : d.statement (skipSpaces cs) = .error (.numeral n) :=
        Document.statement_eq_numeral_iff.2 ⟨_, _, hkey, hb⟩
      obtain ⟨c, tail, hstart, hc⟩ := exists_cons_of_key hkey
      have hline : c ≠ '\n' := by
        rintro rfl
        exact absurd hc (by decide)
      rw [Document.lineStep_eq_statement hstart hline, hstatement]
      rfl
    | nextLine hstatement hend =>
      obtain ⟨c, tail, hstart, hline⟩ := Document.exists_cons_of_statement hstatement
      rw [Document.lineStep_eq_statement hstart hline, bind_of_ok hstatement, Document.afterStatement, bind_of_ok hend]
      exact hb

/-- Reading ends in a numeral right at a place, or at one that it goes on to. -/
theorem endsIn_iff : ∀ {a : Place}, a.EndsIn n ↔ a.IsNumeral n ∨ ∃ b, Next a b ∧ b.EndsIn n
  | line _ _ => endsIn_line_iff.trans (iff_of_eq (false_or _)).symm
  | value _ => endsIn_value_iff
  | item _ _ => endsIn_item_iff.trans (iff_of_eq (false_or _)).symm
  | field _ _ _ => endsIn_field_iff.trans (iff_of_eq (false_or _)).symm

/-- What is left to read, twice, and one more where a value may be read without anything before it. -/
def size : Place → Nat
  | line _ cs => 2 * cs.length + 1
  | value cs => 2 * cs.length
  | item _ cs => 2 * cs.length + 1
  | field _ _ cs => 2 * cs.length + 1

theorem size_lt_of_next {a b : Place} (h : Next a b) : b.size < a.size := by
  cases h with
  | firstItem hskip =>
    have hlength := (suffix_skipLines hskip).length_le
    simp only [size, List.length_cons]
    omega
  | itemValue => exact Nat.lt_succ_self _
  | nextItem hvalue hcomma hskip =>
    have hvalued := (leaves_valueAt _ _ _ hvalue).length_le
    have hlines := (suffix_skipLines hcomma).length_le
    have hlength := (suffix_skipLines hskip).length_le
    simp only [size, List.length_cons] at hlines ⊢
    omega
  | @firstField cs =>
    have hlength := (suffix_skipSpaces cs).length_le
    simp only [size, List.length_cons]
    omega
  | @fieldValue _ _ _ r _ hkey =>
    have hkeyed := (suffix_key hkey).length_le
    have hlength := (suffix_skipSpaces r).length_le
    simp only [size, List.length_cons] at hkeyed ⊢
    omega
  | @nextField _ _ _ _ r r' rest _ _ hkey hvalue _ _ hcomma =>
    have hkeyed := (suffix_key hkey).length_le
    have hvalued := (leaves_valueAt _ _ _ hvalue).length_le
    have hstart := (suffix_skipSpaces r).length_le
    have hspaces := (suffix_skipSpaces r').length_le
    have hlength := (suffix_skipSpaces rest).length_le
    simp only [size, hcomma, List.length_cons] at hkeyed hspaces ⊢
    omega
  | @blankLine _ cs rest hblank =>
    have hspaces := (suffix_skipSpaces cs).length_le
    simp only [size, hblank, List.length_cons] at hspaces ⊢
    omega
  | @entryValue _ cs r _ hkey =>
    have hkeyed := (suffix_key hkey).length_le
    have hspaces := (suffix_skipSpaces cs).length_le
    have hlength := (suffix_skipSpaces r).length_le
    simp only [size, List.length_cons] at hkeyed ⊢
    omega
  | @nextLine _ _ cs r rest hstatement hend =>
    have hstated := (Document.suffix_statement hstatement).length_le
    have hspaces := (suffix_skipSpaces cs).length_le
    have hstart := (suffix_skipSpaces r).length_le
    have hlength := (suffix_skipComment hend).length_le
    simp only [size, List.length_cons] at hlength ⊢
    omega

theorem size_le_of_comesTo {a b : Place} (h : Relation.ReflTransGen Next a b) : b.size ≤ a.size := by
  induction h with
  | refl => exact Nat.le_refl _
  | tail _ hnext ih => exact (size_lt_of_next hnext).le.trans ih

/-- Reading ends in a numeral exactly if it comes to a value that begins with it. -/
theorem endsIn_iff_comesTo {a : Place} : a.EndsIn n ↔ ∃ b, Relation.ReflTransGen Next a b ∧ b.IsNumeral n := by
  constructor
  · induction h : a.size using Nat.strong_induction_on generalizing a with
    | _ size ih =>
      intro hends
      rcases endsIn_iff.1 hends with hnumeral | ⟨b, hnext, hb⟩
      · exact ⟨a, .refl, hnumeral⟩
      · obtain ⟨p, hcomes, hp⟩ := ih b.size (h ▸ size_lt_of_next hnext) rfl hb
        exact ⟨p, .head hnext hcomes, hp⟩
  · rintro ⟨p, hcomes, hp⟩
    induction hcomes using Relation.ReflTransGen.head_induction_on with
    | refl => exact endsIn_iff.2 (.inl hp)
    | head hnext _ ih => exact endsIn_iff.2 (.inr ⟨_, hnext, ih⟩)

end Place

end Overlay.Toml
