/-
Running what changes a state and may fail: the result and the state of each way to put such a thing
together, and relations between the states before and after that every step keeps.
-/
import Overlay.World
import Mathlib.Order.Defs.Unbundled

namespace Overlay

variable {ε σ α β : Type}

/-! ## Results -/

/-- A step that succeeds hands on its result. -/
theorem bind_of_ok {x : Except ε α} {a : α} (h : x = .ok a) (f : α → Except ε β) : x >>= f = f a := by
  rw [h]
  rfl

/-- What succeeds after a step comes of a step that succeeded. -/
theorem bind_eq_ok {x : Except ε α} {f : α → Except ε β} {b : β} (h : x >>= f = .ok b) :
    ∃ a, x = .ok a ∧ f a = .ok b := by
  rcases x with e | a
  · cases h
  · exact ⟨a, rfl, h⟩

/-- A failure is that of the first step or of what comes after it. -/
theorem bind_eq_error {x : Except ε α} {f : α → Except ε β} {e : ε} (h : x >>= f = .error e) :
    x = .error e ∨ ∃ a, x = .ok a ∧ f a = .error e := by
  rcases x with e' | a
  · cases h
    exact .inl rfl
  · exact .inr ⟨a, rfl, h⟩

theorem bind_eq_error_iff {x : Except ε α} {f : α → Except ε β} {e : ε} :
    x >>= f = .error e ↔ x = .error e ∨ ∃ a, x = .ok a ∧ f a = .error e := by
  refine ⟨bind_eq_error, ?_⟩
  rintro (h | ⟨a, h, hf⟩)
  · rw [h]
    rfl
  · rwa [bind_of_ok h]

/-- What comes after a step matters only for what the step gives. -/
theorem bind_congr_ok {x : Except ε α} {f g : α → Except ε β} (h : ∀ a, x = .ok a → f a = g a) : x >>= f = x >>= g := by
  rcases x with e | a
  · rfl
  · exact h a rfl

theorem map_eq_ok {x : Except ε α} {f : α → β} {b : β} (h : x.map f = .ok b) : ∃ a, x = .ok a ∧ f a = b := by
  rcases x with e | a
  · cases h
  · exact ⟨a, rfl, Except.ok.inj h⟩

theorem map_eq_error {x : Except ε α} {f : α → β} {e : ε} (h : x.map f = .error e) : x = .error e := by
  rcases x with e' | a
  · cases h
    rfl
  · cases h

section Folds

variable {δ : Type} {f : σ → α → Except ε σ} {up : σ → α → σ} {halt : α → Option δ}

/-- A fold that nothing stops is one without failures. -/
theorem foldlM_of_none (hup : ∀ s a, halt a = none → f s a = .ok (up s a)) : ∀ {l : List α} {s : σ},
    l.findSome? halt = none → l.foldlM f s = .ok (l.foldl up s)
  | [], s, _ => rfl
  | a :: l, s, h => by
    rw [List.findSome?_eq_none_iff] at h
    rw [List.foldlM_cons, hup s a (h a (List.mem_cons_self ..))]
    exact foldlM_of_none hup (List.findSome?_eq_none_iff.2 fun b hb => h b (List.mem_cons_of_mem _ hb))

/-- A fold that is stopped was like one without failures until then. -/
theorem foldlM_of_some (hup : ∀ s a, halt a = none → f s a = .ok (up s a)) {n : δ} {l : List α} {s : σ}
    (h : l.findSome? halt = some n) : ∃ l₁ a, l₁ ++ [a] <+: l ∧ halt a = some n ∧
      ∀ e, f (l₁.foldl up s) a = .error e → l.foldlM f s = .error e := by
  obtain ⟨l₁, a, l₂, rfl, ha, hl₁⟩ := List.findSome?_eq_some_iff.1 h
  refine ⟨l₁, a, ⟨l₂, by simp⟩, ha, fun e he => ?_⟩
  rw [List.foldlM_append, foldlM_of_none hup (List.findSome?_eq_none_iff.2 hl₁)]
  show (a :: l₂).foldlM f (l₁.foldl up s) = .error e
  rw [List.foldlM_cons, he]
  rfl

end Folds

/-! ## Results and states -/

theorem run_getThe (s : σ) : (getThe σ : ExceptT ε (StateM σ) σ).run s = (.ok s, s) := rfl

/-- A sequence runs the second part after the first, unless that fails. -/
theorem run_bind (x : ExceptT ε (StateM σ) α) (f : α → ExceptT ε (StateM σ) β) (s : σ) :
    (x >>= f).run s = match x.run s with
      | (.ok a, s') => (f a).run s'
      | (.error e, s') => (.error e, s') := by
  show (match x s with | (r, s') => (ExceptT.bindCont f r) s') = match x s with
    | (.ok a, s') => (f a) s'
    | (.error e, s') => (.error e, s')
  rcases x s with ⟨e | a, s'⟩ <;> rfl

theorem run_bind_ok {x : ExceptT ε (StateM σ) α} {f : α → ExceptT ε (StateM σ) β} {s t : σ} {a : α}
    (h : x.run s = (.ok a, t)) : (x >>= f).run s = (f a).run t := by
  rw [run_bind, h]

theorem run_bind_error {x : ExceptT ε (StateM σ) α} {f : α → ExceptT ε (StateM σ) β} {s t : σ} {e : ε}
    (h : x.run s = (.error e, t)) : (x >>= f).run s = (.error e, t) := by
  rw [run_bind, h]

/-- A sequence that succeeds comes of a first part that succeeded and of what the second part then gave. -/
theorem run_bind_eq_ok {x : ExceptT ε (StateM σ) α} {f : α → ExceptT ε (StateM σ) β} {s t : σ} {b : β}
    (h : (x >>= f).run s = (.ok b, t)) : ∃ a s', x.run s = (.ok a, s') ∧ (f a).run s' = (.ok b, t) := by
  rw [run_bind] at h
  rcases hx : x.run s with ⟨e | a, s'⟩ <;> rw [hx] at h
  · cases h
  · exact ⟨a, s', rfl, h⟩

/-- A sequence fails in its first part or, once that is through, in its second. -/
theorem run_bind_error_iff {x : ExceptT ε (StateM σ) α} {f : α → ExceptT ε (StateM σ) β} {s : σ} {e : ε} :
    ((x >>= f).run s).1 = .error e ↔
      (x.run s).1 = .error e ∨ ∃ a s', x.run s = (.ok a, s') ∧ ((f a).run s').1 = .error e := by
  rcases hx : x.run s with ⟨e' | a, s'⟩
  · rw [run_bind_error hx, or_iff_left]
    · constructor <;> rintro ⟨⟩ <;> rfl
    · rintro ⟨_, _, ⟨⟩, -⟩
  · rw [run_bind_ok hx, or_iff_right nofun]
    constructor
    · intro h
      exact ⟨a, s', rfl, h⟩
    · rintro ⟨_, _, ⟨⟩, h⟩
      exact h

theorem run_bind_pure_error_iff {x : ExceptT ε (StateM σ) α} {f : α → β} {s : σ} {e : ε} :
    ((x >>= fun a => pure (f a)).run s).1 = .error e ↔ (x.run s).1 = .error e := by
  rw [run_bind_error_iff, or_iff_left]
  rintro ⟨a, s', -, h⟩
  cases h

theorem run_forM_cons (a : α) (as : List α) (f : α → ExceptT ε (StateM σ) PUnit) (s : σ) :
    ((a :: as).forM f).run s = (f a >>= fun _ => as.forM f).run s := rfl

/-! ## Related states -/

/-- Every run relates the state before it to the state after it. -/
def Moves (R : σ → σ → Prop) (x : ExceptT ε (StateM σ) α) : Prop := ∀ s, R s (x.run s).2

namespace Moves

variable {R : σ → σ → Prop} [IsPreorder σ R] {x : ExceptT ε (StateM σ) α}

theorem of_pure (a : α) : Moves R (pure a : ExceptT ε (StateM σ) α) := fun s => refl s

theorem of_throw (e : ε) : Moves R (throw e : ExceptT ε (StateM σ) α) := fun s => refl s

theorem bind {f : α → ExceptT ε (StateM σ) β} (hx : Moves R x) (hf : ∀ a, Moves R (f a)) :
    Moves R (x >>= f) := by
  intro s
  have h := hx s
  rcases hr : x.run s with ⟨e | a, s'⟩ <;> rw [hr] at h
  · rw [run_bind_error hr]; exact h
  · rw [run_bind_ok hr]; exact IsTrans.trans _ _ _ h (hf a s')

theorem forM {f : α → ExceptT ε (StateM σ) PUnit} : ∀ (l : List α), (∀ a ∈ l, Moves R (f a)) → Moves R (l.forM f)
  | [], _ => fun s => refl s
  | a :: l, h => bind (h a (List.mem_cons_self ..)) fun _ => forM l fun b hb => h b (List.mem_cons_of_mem _ hb)

end Moves

end Overlay
