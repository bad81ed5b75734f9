/-
Decimal numerals in TOML text. A numeral is a sign, if any, digits with single underscores between them that begin
with a zero only if it stands alone, and a fraction and an exponent, each if it is there. One without the last two is
an integer, and reading fails on it exactly if it has more digits than are read.
-/
import Overlay.Config.Toml.Scalar
import Overlay.Proofs.Number.Notation

namespace Overlay.Toml

open Text Token

/-- What is missing is no numeral. -/
theorem required_ne_numeral {α : Type} (a? : Option α) (n : NumeralTooLong) : required a? ≠ .error (.numeral n) := by
  cases a? <;> nofun

/-! ## The parts of a numeral -/

/-- The signs at the front of a text, one at most. -/
def signPart (cs : List Char) : List Char := (cs.take 1).takeWhile fun s => s = '+' || s = '-'

/-- The digits before the point, where a leading zero stands alone, and what follows. -/
def wholePart (cs : List Char) : List Char × List Char :=
  match cs with
  | '0' :: ds => (['0'], ds)
  | _ => digitRun isDigit cs

/-- The fraction at the front of a text, if there is one, and what follows. -/
def fractionPart (cs : List Char) : List Char × List Char :=
  match cs with
  | '.' :: ds =>
    let run := digitRun isDigit ds
    if run.1.isEmpty then ([], cs) else ('.' :: run.1, run.2)
  | _ => ([], cs)

/-- The exponent at the front of a text, if there is one, and what follows. -/
def exponentPart (cs : List Char) : List Char × List Char :=
  match cs with
  | c :: ds =>
    if c = 'e' || c = 'E' then
      let run := digitRun isDigit (ds.drop (signPart ds).length)
      if run.1.isEmpty then ([], cs) else (c :: signPart ds ++ run.1, run.2)
    else ([], cs)
  | [] => ([], cs)

theorem floatPart_eq (cs : List Char) : floatPart cs =
    ((fractionPart cs).1 ++ (exponentPart (fractionPart cs).2).1, (exponentPart (fractionPart cs).2).2) := by
  have hstages : floatPart cs = match (fractionPart cs).2 with
    | c :: ds =>
      if c = 'e' || c = 'E' then
        let run := digitRun isDigit (ds.drop (signPart ds).length)
        if run.1.isEmpty then fractionPart cs else ((fractionPart cs).1 ++ c :: signPart ds ++ run.1, run.2)
      else fractionPart cs
    | [] => fractionPart cs := rfl
  rw [hstages]
  rcases fractionPart cs with ⟨fraction, _ | ⟨c, ds⟩⟩
  · simp [exponentPart]
  · dsimp only [exponentPart]
    split_ifs <;> simp

theorem decimal?_eq (cs : List Char) : decimal? cs =
    let whole := wholePart (cs.drop (signPart cs).length)
    let more := floatPart whole.2
    if whole.1.isEmpty then none
    else some <|
      if more.1.isEmpty then
        match readInteger (signPart cs ++ whole.1) with
        | .ok n => .ok (.integer n, whole.2)
        | .error n => .error (.numeral n)
      else .ok (.float ((double? (signPart cs ++ whole.1 ++ more.1)).getD .notANumber), more.2) := rfl

/-! ## Digits in groups -/

/-- Digits with single underscores between them, and the digits alone. -/
inductive Grouped : List Char → List Char → Prop
  | last {c : Char} (hc : isDigit c) : Grouped [c] [c]
  | next {c : Char} {cs ds : List Char} (hc : isDigit c) (hcs : Grouped cs ds) : Grouped (c :: cs) (c :: ds)
  | apart {c : Char} {cs ds : List Char} (hc : isDigit c) (hcs : Grouped cs ds) : Grouped (c :: '_' :: cs) (c :: ds)

/-- A text that digits before it go on with. -/
inductive MoreDigits : List Char → Prop
  | next {c : Char} (cs : List Char) (hc : isDigit c) : MoreDigits (c :: cs)
  | apart {c : Char} (cs : List Char) (hc : isDigit c) : MoreDigits ('_' :: c :: cs)

namespace Grouped

variable {cs ds : List Char}

theorem digits (h : Grouped cs ds) : Digits ds := by
  induction h with
  | last hc => exact ⟨List.cons_ne_nil _ _, by simpa using hc⟩
  | next hc _ ih => exact ⟨List.cons_ne_nil _ _, List.forall_mem_cons.2 ⟨hc, ih.2⟩⟩
  | apart hc _ ih => exact ⟨List.cons_ne_nil _ _, List.forall_mem_cons.2 ⟨hc, ih.2⟩⟩

/-- What is written begins with the first digit. -/
theorem head?_eq (h : Grouped cs ds) : cs.head? = ds.head? := by cases h <;> rfl

theorem length_le (h : Grouped cs ds) : ds.length ≤ cs.length := by
  induction h with
  | last => exact Nat.le_refl _
  | next _ _ ih => exact Nat.succ_le_succ ih
  | apart _ _ ih => exact Nat.succ_le_succ (Nat.le_succ_of_le ih)

theorem mem (h : Grouped cs ds) : ∀ c ∈ cs, isDigit c ∨ c = '_' := by
  induction h with
  | last hc => simpa using .inl hc
  | next hc _ ih => exact List.forall_mem_cons.2 ⟨.inl hc, ih⟩
  | apart hc _ ih => exact List.forall_mem_cons.2 ⟨.inl hc, List.forall_mem_cons.2 ⟨.inr rfl, ih⟩⟩

theorem exists_cons (h : Grouped cs ds) : ∃ c cs', cs = c :: cs' ∧ isDigit c := by
  cases h with
  | last hc => exact ⟨_, _, rfl, hc⟩
  | next hc => exact ⟨_, _, rfl, hc⟩
  | apart hc => exact ⟨_, _, rfl, hc⟩

end Grouped

/-- A run of digits goes on from its first digit to the next. -/
theorem digitRun_next {c d : Char} (hc : isDigit c) (hd : isDigit d) (cs : List Char) :
    digitRun isDigit (c :: d :: cs) = (c :: (digitRun isDigit (d :: cs)).1, (digitRun isDigit (d :: cs)).2) := by
  rw [digitRun]
  · rw [if_pos hc]
  · rintro e es ⟨rfl, rfl⟩
    cases hd

theorem digitRun_apart {c d : Char} (hc : isDigit c) (hd : isDigit d) (cs : List Char) :
    digitRun isDigit (c :: '_' :: d :: cs) =
      (c :: (digitRun isDigit (d :: cs)).1, (digitRun isDigit (d :: cs)).2) := by
  simp [digitRun, hc, hd]

theorem digitRun_of_not_digit {cs : List Char} (h : ∀ c ∈ cs.head?, ¬ isDigit c) : digitRun isDigit cs = ([], cs) := by
  fun_cases digitRun isDigit cs <;> simp_all

theorem digitRun_last {c : Char} (hc : isDigit c) {rest : List Char} (hrest : ¬ MoreDigits rest) :
    digitRun isDigit (c :: rest) = ([c], rest) := by
  have hnone : ∀ d ∈ rest.head?, ¬ isDigit d := by
    rintro d hd hdigit
    obtain ⟨tail, rfl⟩ := List.head?_eq_some_iff.1 hd
    exact hrest (.next tail hdigit)
  by_cases hapart : ∃ d ds, rest = '_' :: d :: ds
  · obtain ⟨d, ds, rfl⟩ := hapart
    have hd : ¬ isDigit d := fun hd => hrest (.apart ds hd)
    simp [digitRun, hc, hd]
  · rw [digitRun]
    · rw [if_pos hc, digitRun_of_not_digit hnone]
    · rintro d ds rfl
      exact hapart ⟨d, ds, rfl⟩

theorem digitRun_append {cs ds rest : List Char} (h : Grouped cs ds) (hrest : ¬ MoreDigits rest) :
    digitRun isDigit (cs ++ rest) = (ds, rest) := by
  induction h with
  | last hc => exact digitRun_last hc hrest
  | next hc hcs ih =>
    obtain ⟨d, cs', rfl, hd⟩ := hcs.exists_cons
    simp only [List.cons_append] at ih ⊢
    rw [digitRun_next hc hd, ih]
  | apart hc hcs ih =>
    obtain ⟨d, cs', rfl, hd⟩ := hcs.exists_cons
    simp only [List.cons_append] at ih ⊢
    rw [digitRun_apart hc hd, ih]

/-- A run of digits is written in groups that nothing goes on with, or there is no digit. -/
theorem digitRun_cases (cs : List Char) : (digitRun isDigit cs = ([], cs) ∧ ∀ c ∈ cs.head?, ¬ isDigit c) ∨
    ∃ written, cs = written ++ (digitRun isDigit cs).2 ∧ Grouped written (digitRun isDigit cs).1 ∧
      ¬ MoreDigits (digitRun isDigit cs).2 := by
  fun_induction digitRun isDigit cs with
  | case1 => exact .inl ⟨rfl, by simp⟩
  | case2 c d ds hc => exact .inl ⟨rfl, by simpa using hc⟩
  | case3 c d ds hc hd more rest heq ih =>
    rw [heq] at ih
    obtain ⟨-, hnone⟩ | ⟨written, hwritten, hgroup, hmore⟩ := ih
    · exact absurd hd (hnone d rfl)
    · exact .inr ⟨c :: '_' :: written, by simp [hwritten], .apart (by simpa using hc) hgroup, hmore⟩
  | case4 c d ds hc hd =>
    refine .inr ⟨[c], rfl, .last (by simpa using hc), ?_⟩
    rintro (⟨_, ⟨⟩⟩ | ⟨_, hd'⟩)
    exact hd hd'
  | case5 c cs hapart hc more rest heq ih =>
    rw [heq] at ih
    obtain ⟨hnone, hhead⟩ | ⟨written, hwritten, hgroup, hmore⟩ := ih
    · cases hnone
      refine .inr ⟨[c], rfl, .last hc, ?_⟩
      rintro (⟨_, hd⟩ | ⟨_, _⟩)
      · exact hhead _ rfl hd
      · exact hapart _ _ rfl
    · exact .inr ⟨c :: written, by simp [hwritten], .next hc hgroup, hmore⟩
  | case6 c cs _ hc => exact .inl ⟨rfl, by simpa using hc⟩

theorem digitRun_eq_nil_iff {cs : List Char} : (digitRun isDigit cs).1 = [] ↔ ∀ c ∈ cs.head?, ¬ isDigit c := by
  constructor
  · intro hnil
    obtain ⟨-, hnone⟩ | ⟨written, -, hgroup, -⟩ := digitRun_cases cs
    · exact hnone
    · exact absurd hnil hgroup.digits.1
  · intro hnone
    rw [digitRun_of_not_digit hnone]

/-! ## Fractions and exponents -/

/-- A text that begins with a fraction or with an exponent. -/
inductive MoreParts : List Char → Prop
  | fraction {c : Char} (cs : List Char) (hc : isDigit c) : MoreParts ('.' :: c :: cs)
  | exponent {mark c : Char} {sign : List Char} {negative : Bool} (cs : List Char) (hmark : mark = 'e' ∨ mark = 'E')
    (hsign : Sign sign negative) (hc : isDigit c) : MoreParts (mark :: (sign ++ c :: cs))

theorem sign_signPart (cs : List Char) : ∃ negative, Sign (signPart cs) negative := by
  unfold signPart
  rcases cs with _ | ⟨c, cs⟩
  · exact ⟨_, .none⟩
  by_cases hplus : c = '+'
  · subst hplus
    exact ⟨_, .plus⟩
  by_cases hminus : c = '-'
  · subst hminus
    exact ⟨_, .minus⟩
  · have hnone : List.takeWhile (fun s => s = '+' || s = '-') [c] = [] := by simp [hplus, hminus]
    exact ⟨false, hnone ▸ .none⟩

theorem append_drop_signPart (cs : List Char) : signPart cs ++ cs.drop (signPart cs).length = cs := by
  have hprefix : signPart cs <+: cs := (List.takeWhile_prefix _).trans (List.take_prefix 1 cs)
  exact List.prefix_iff_eq_append.1 hprefix

/-- A sign is the sign of a text that goes on with a digit. -/
theorem signPart_append {sign : List Char} {negative : Bool} (hsign : Sign sign negative) {c : Char}
    (hc : isDigit c) (cs : List Char) : signPart (sign ++ c :: cs) = sign := by
  cases hsign with
  | none =>
    obtain ⟨hplus, hminus⟩ := not_sign_of_isDigit hc
    simp [signPart, hplus, hminus]
  | plus => rfl
  | minus => rfl

theorem exists_cons_of_digitRun {cs : List Char} (h : (digitRun isDigit cs).1 ≠ []) :
    ∃ c tail, cs = c :: tail ∧ isDigit c := by
  rw [Ne, digitRun_eq_nil_iff] at h
  push Not at h
  obtain ⟨c, hhead, hc⟩ := h
  obtain ⟨tail, rfl⟩ := List.head?_eq_some_iff.1 hhead
  exact ⟨c, tail, rfl, hc⟩

/-- A text begins with neither a fraction nor an exponent exactly if no part is read. -/
theorem floatPart_isEmpty_iff {cs : List Char} : (floatPart cs).1.isEmpty ↔ ¬ MoreParts cs := by
  have hdigit {c : Char} (hc : isDigit c) (tail : List Char) : (digitRun isDigit (c :: tail)).1 ≠ [] :=
    fun hnil => digitRun_eq_nil_iff.1 hnil c rfl hc
  rw [floatPart_eq, List.isEmpty_iff, List.append_eq_nil_iff]
  constructor
  · rintro ⟨hfraction, hexponent⟩ hmore
    cases hmore with
    | fraction tail hc => simp [fractionPart, hdigit hc tail] at hfraction
    | @exponent mark c sign _ tail hmark hsign hc =>
      have hmark' : (mark = 'e' || mark = 'E') = true := by simpa using hmark
      have hnone : fractionPart (mark :: (sign ++ c :: tail)) = ([], mark :: (sign ++ c :: tail)) := by
        rcases hmark with rfl | rfl <;> rfl
      rw [hnone, exponentPart, if_pos hmark'] at hexponent
      simp [signPart_append hsign hc, hdigit hc tail] at hexponent
  · intro hnone
    have hfraction : fractionPart cs = ([], cs) := by
      unfold fractionPart
      split
      · rename_i ds
        dsimp only
        split_ifs with hempty
        · rfl
        · obtain ⟨c, tail, rfl, hc⟩ := exists_cons_of_digitRun (mt List.isEmpty_iff.2 hempty)
          exact absurd (.fraction tail hc) hnone
      · rfl
    refine ⟨by rw [hfraction], ?_⟩
    rw [hfraction]
    show (exponentPart cs).1 = []
    unfold exponentPart
    split
    · rename_i c ds
      dsimp only
      split_ifs with hmark hempty
      · rfl
      · obtain ⟨d, tail, hds, hd⟩ := exists_cons_of_digitRun (mt List.isEmpty_iff.2 hempty)
        obtain ⟨negative, hsign⟩ := sign_signPart ds
        refine absurd (?_ : MoreParts (c :: ds)) hnone
        rw [← append_drop_signPart ds, hds]
        exact .exponent tail (by simpa using hmark) hsign hd
      · rfl
    · rfl

/-! ## Numerals that are too long -/

/-- A text begins with an integer in base 10 that has as many digits as the numeral, more than are read: a sign, if any,
and digits that do not begin with a zero, with neither a digit nor a fraction nor an exponent after them. -/
inductive Opens (n : NumeralTooLong) : List Char → Prop
  | mk {sign written ds rest : List Char} {negative : Bool} (hsign : Sign sign negative) (hgroup : Grouped written ds)
    (hzero : ds.head? ≠ some '0') (hcount : n.digits = ds.length) (hlong : digitLimit < ds.length)
    (hdigits : ¬ MoreDigits rest) (hparts : ¬ MoreParts rest) : Opens n (sign ++ (written ++ rest))

variable {n : NumeralTooLong} {cs : List Char}

theorem readInteger_eq_error_iff {sign ds : List Char} {negative : Bool} (hsign : Sign sign negative)
    (hds : Digits ds) : readInteger (sign ++ ds) = .error n ↔ n.digits = ds.length ∧ digitLimit < ds.length := by
  obtain ⟨digits⟩ := n
  unfold readInteger readDigits
  rw [splitSign_digits hsign hds]
  dsimp only
  split_ifs with hlong <;> simp [Except.map, hlong, eq_comm]

theorem wholePart_of_head {body : List Char} (h : body.head? ≠ some '0') : wholePart body = digitRun isDigit body := by
  unfold wholePart
  split
  · exact absurd rfl h
  · rfl

theorem opens_of_decimal? (h : decimal? cs = some (.error (.numeral n))) : Opens n cs := by
  rw [decimal?_eq] at h
  dsimp only at h
  split_ifs at h with hwhole hparts
  · obtain ⟨negative, hsign⟩ := sign_signPart cs
    have hcs := append_drop_signPart cs
    generalize cs.drop (signPart cs).length = body at hwhole hparts h hcs
    have herror : readInteger (signPart cs ++ (wholePart body).1) = .error n := by
      split at h <;> cases h
      assumption
    by_cases hzero : body.head? = some '0'
    · -- a leading zero stands alone, so it is short enough
      obtain ⟨ds, rfl⟩ := List.head?_eq_some_iff.1 hzero
      have hdigits : Digits ['0'] := isDigits_iff.1 (by decide)
      have hlong : digitLimit < 1 := ((readInteger_eq_error_iff hsign hdigits).1 herror).2
      exact absurd hlong (by decide)
    rw [wholePart_of_head hzero] at hwhole hparts herror
    obtain ⟨hnone, -⟩ | ⟨written, hbody, hgroup, hdigits⟩ := digitRun_cases body
    · rw [hnone] at hwhole
      exact absurd rfl hwhole
    obtain ⟨hcount, hlong⟩ := (readInteger_eq_error_iff hsign hgroup.digits).1 herror
    have hhead : (digitRun isDigit body).1.head? ≠ some '0' := by
      obtain ⟨c, written', rfl, -⟩ := hgroup.exists_cons
      rw [hbody] at hzero
      rwa [← hgroup.head?_eq]
    rw [← hcs, hbody]
    exact .mk hsign hgroup hhead hcount hlong hdigits (floatPart_isEmpty_iff.1 hparts)
  · cases h

theorem decimal?_of_opens (h : Opens n cs) : decimal? cs = some (.error (.numeral n)) := by
  obtain ⟨hsign, hgroup, hzero, hcount, hlong, hdigits, hparts⟩ := h
  rename_i sign written ds rest negative
  have hrun := digitRun_append hgroup hdigits
  have herror := (readInteger_eq_error_iff hsign hgroup.digits).2 ⟨hcount, hlong⟩
  obtain ⟨c, written', rfl, hc⟩ := hgroup.exists_cons
  have hhead : (c :: written' ++ rest).head? ≠ some '0' := by
    rw [← hgroup.head?_eq] at hzero
    exact hzero
  have hempty : ds.isEmpty = false := by simpa using hgroup.digits.1
  rw [decimal?_eq, List.cons_append, signPart_append hsign hc, List.drop_left, ← List.cons_append,
    wholePart_of_head hhead, hrun]
  simp [hempty, floatPart_isEmpty_iff.2 hparts, herror]

/-! ## What a numeral is not -/

/-- A numeral begins with a sign or with a digit other than zero. -/
theorem Opens.exists_cons (h : Opens n cs) :
    ∃ c tail, cs = c :: tail ∧ (c = '+' ∨ c = '-' ∨ isDigit c) ∧ c ≠ '0' := by
  obtain ⟨hsign, hgroup, hzero, -, -, -, -⟩ := h
  rw [← hgroup.head?_eq] at hzero
  obtain ⟨c, written, rfl, hc⟩ := hgroup.exists_cons
  cases hsign with
  | none => exact ⟨c, _, rfl, .inr (.inr hc), by simpa using hzero⟩
  | plus => exact ⟨'+', _, rfl, .inl rfl, by decide⟩
  | minus => exact ⟨'-', _, rfl, .inr (.inl rfl), by decide⟩

theorem Opens.length_lt (h : Opens n cs) : digitLimit < cs.length := by
  obtain ⟨-, hgroup, -, -, hlong, -, -⟩ := h
  have hlength := hgroup.length_le
  simp only [List.length_append]
  omega

/-- After its first character a numeral goes on with digits and underscores, for as long as it may be. -/
theorem Opens.drop_eq_cons (h : Opens n cs) {k : Nat} (hpos : 0 < k) (hk : k ≤ digitLimit) :
    ∃ c tail, cs.drop k = c :: tail ∧ (isDigit c ∨ c = '_') := by
  obtain ⟨hsign, hgroup, -, -, hlong, -, -⟩ := h
  rename_i sign written ds rest negative
  have hshort : sign.length ≤ 1 := by cases hsign <;> decide
  have hlength := hgroup.length_le
  have hin : k - sign.length < written.length := by omega
  refine ⟨written[k - sign.length], written.drop (k - sign.length + 1) ++ rest, ?_, hgroup.mem _ (List.getElem_mem hin)⟩
  rw [List.drop_append, List.drop_eq_nil_of_le (by omega), List.nil_append, List.drop_append_of_le_length hin.le,
    List.drop_eq_getElem_cons hin, List.cons_append]

/-- No mark of a date or a time stands among the digits. -/
theorem Opens.after?_drop (h : Opens n cs) {k : Nat} (hpos : 0 < k) (hk : k ≤ digitLimit) {mark : Char}
    (hdigit : isDigit mark = false) (happart : mark ≠ '_') : after? [mark] (cs.drop k) = none := by
  obtain ⟨c, tail, hdrop, hc⟩ := h.drop_eq_cons hpos hk
  have hmark : mark ≠ c := by
    rintro rfl
    rcases hc with hc | hc
    · exact Bool.false_ne_true (hdigit.symm.trans hc)
    · exact happart hc
  rw [hdrop, after?, if_neg hmark]

theorem Opens.date?_eq_none (h : Opens n cs) : date? cs = none := by
  unfold date?
  dsimp only
  split_ifs
  · rfl
  · rw [h.after?_drop (by decide) (by decide) rfl (by decide)]
    rfl

theorem Opens.time?_eq_none (h : Opens n cs) : time? cs = none := by
  rcases htime : time? cs with _ | rest
  · rfl
  obtain ⟨⟨hour, r₁⟩, hhour, htime⟩ := Option.bind_eq_some_iff.1 htime
  obtain ⟨r₂, hmark, -⟩ := Option.bind_eq_some_iff.1 htime
  have hr₁ : r₁ = cs.drop 2 := by
    unfold twoDigits at hhour
    dsimp only at hhour
    split_ifs at hhour
    cases hhour
    rfl
  rw [hr₁, h.after?_drop (by decide) (by decide) rfl (by decide)] at hmark
  cases hmark

theorem Opens.radix?_eq_none (h : Opens n cs) : radix? cs = none := by
  obtain ⟨c, tail, rfl, -, hzero⟩ := h.exists_cons
  unfold radix?
  split
  case h_4 => rfl
  all_goals
    rename_i hprefix
    exact absurd (List.cons.inj hprefix).1 hzero

theorem dateOrTime?_ne_numeral : dateOrTime? cs ≠ some (.error (.numeral n)) := by
  unfold dateOrTime?
  split
  · intro h
    have h := Option.some.inj h
    split at h
    · cases h
    · split at h <;> cases h
  · intro h
    obtain ⟨rest, -, h⟩ := Option.map_eq_some_iff.1 h
    cases h

/-- Reading a plain value comes to a numeral that is too long exactly if the text begins with one. -/
theorem plainValue_eq_numeral_iff : plainValue cs = .error (.numeral n) ↔ Opens n cs := by
  constructor
  · intro h
    unfold plainValue at h
    split at h
    · rename_i hdate
      exact absurd (hdate.trans (congrArg some h)) dateOrTime?_ne_numeral
    split at h
    · cases h
    split at h
    · rename_i hdecimal
      exact opens_of_decimal? (hdecimal.trans (congrArg some h))
    · exact absurd h (required_ne_numeral _ n)
  · intro h
    have hdate : dateOrTime? cs = none := by
      unfold dateOrTime?
      rw [h.date?_eq_none, h.time?_eq_none]
      rfl
    rw [plainValue, hdate, h.radix?_eq_none, decimal?_of_opens h]

end Overlay.Toml
