/-
Cutting texts. Cutting at every mark takes apart what marks join, cutting at the first mark splits the text there,
and trimming takes away the blanks at both ends and nothing else.
-/
import Overlay.Text.Blank
import Mathlib.Data.List.Basic
import Mathlib.Data.List.DropRight

namespace Overlay.Text

/-! ## At every mark -/

theorem pieces_eq_splitOnP (p : Char → Bool) (cs : List Char) : pieces p cs = cs.splitOnP p := by
  induction cs with
  | nil => exact List.splitOnP_nil.symm
  | cons c cs ih =>
    obtain ⟨w, ws, hcs⟩ := List.exists_cons_of_ne_nil (List.splitOnP_ne_nil p cs)
    rw [pieces, ih, List.splitOnP_cons_eq_if_modifyHead, hcs]
    rfl

theorem pieces_eq_splitOn (mark : Char) (cs : List Char) : pieces (· = mark) cs = cs.splitOn mark := by
  rw [pieces_eq_splitOnP, List.splitOn_eq_splitOnP]
  rfl

/-- A character of joined texts is of one of them or of what joins them. -/
theorem mem_of_mem_intercalate {sep : List Char} {c : Char} : ∀ {ls : List (List Char)}, c ∈ sep.intercalate ls →
    c ∈ sep ∨ ∃ cs ∈ ls, c ∈ cs
  | [], h => by cases h
  | [cs], h => by
    rw [List.intercalate_singleton] at h
    exact .inr ⟨cs, List.mem_cons_self .., h⟩
  | cs :: ds :: ls, h => by
    rw [List.intercalate_cons_cons, List.mem_append, List.mem_append] at h
    rcases h with (h | h) | h
    · exact .inr ⟨cs, List.mem_cons_self .., h⟩
    · exact .inl h
    · exact (mem_of_mem_intercalate h).imp_right fun ⟨es, hes, hc⟩ => ⟨es, List.mem_cons_of_mem _ hes, hc⟩

/-! ## At the first mark -/

theorem cutAt_append {mark : Char} (rest : List Char) : ∀ {cs : List Char}, mark ∉ cs →
    cutAt mark (cs ++ mark :: rest) = some (cs, rest)
  | [], _ => by rw [List.nil_append, cutAt, if_pos rfl]
  | c :: cs, h => by
    rw [List.mem_cons, not_or] at h
    rw [List.cons_append, cutAt, if_neg (Ne.symm h.1), cutAt_append rest h.2]
    rfl

/-! ## Trimming -/

theorem trimChars_cons {c : Char} (hc : isBlank c) (cs : List Char) : trimChars (c :: cs) = trimChars cs := by
  rw [trimChars, List.dropWhile_cons_of_pos hc]
  rfl

/-- Blanks at the ends do not matter. -/
theorem trimChars_append {before after : List Char} (hbefore : ∀ c ∈ before, isBlank c)
    (hafter : ∀ c ∈ after, isBlank c) (cs : List Char) : trimChars (before ++ (cs ++ after)) = trimChars cs := by
  have hend : ∀ ds : List Char, dropEndWhile isBlank (ds ++ after) = dropEndWhile isBlank ds := by
    intro ds
    unfold dropEndWhile
    rw [List.reverse_append, List.dropWhile_append_of_pos (by simpa using hafter)]
  unfold trimChars
  rw [List.dropWhile_append_of_pos hbefore, List.dropWhile_append]
  split
  · rename_i hall
    rw [List.isEmpty_iff.1 hall, List.dropWhile_eq_nil_iff.2 hafter]
  · exact hend _

/-- A text is what is left by trimming it, with blanks around. -/
theorem exists_trimChars (cs : List Char) : ∃ before after, (∀ c ∈ before, isBlank c) ∧ (∀ c ∈ after, isBlank c) ∧
    cs = before ++ (trimChars cs ++ after) := by
  have hend : trimChars cs ++ (cs.dropWhile isBlank).rtakeWhile isBlank = cs.dropWhile isBlank :=
    List.rdropWhile_append_rtakeWhile ..
  refine ⟨cs.takeWhile isBlank, (cs.dropWhile isBlank).rtakeWhile isBlank, fun c => List.mem_takeWhile_imp,
    fun c => List.mem_rtakeWhile_imp, ?_⟩
  rw [hend, List.takeWhile_append_dropWhile]

theorem trimChars_trimChars (cs : List Char) : trimChars (trimChars cs) = trimChars cs := by
  obtain ⟨before, after, hbefore, hafter, hcs⟩ := exists_trimChars cs
  conv_rhs => rw [hcs, trimChars_append hbefore hafter]

/-- A text that neither begins nor ends with a blank is as it is when trimmed. -/
theorem trimChars_eq_self {cs : List Char} (hfirst : ∀ h : cs ≠ [], ¬ isBlank (cs.head h))
    (hlast : ∀ h : cs ≠ [], ¬ isBlank (cs.getLast h)) : trimChars cs = cs := by
  have hfront : cs.dropWhile isBlank = cs := by
    rcases cs with _ | ⟨c, cs⟩
    · rfl
    · exact List.dropWhile_cons_of_neg (hfirst (List.cons_ne_nil c cs))
  rw [trimChars, hfront]
  exact List.rdropWhile_eq_self_iff.2 hlast

end Overlay.Text
