/-
Bags: finite maps that remember the order in which their keys first came. Writing a key that is
present keeps its place and takes the new value; a new key goes to the end. Keys are distinct, and
the type says so.
-/
namespace Overlay

variable {κ α : Type}

/-- The entries after writing `v` under `k`. -/
def putEntry [DecidableEq κ] (k : κ) (v : α) : List (κ × α) → List (κ × α)
  | [] => [(k, v)]
  | e :: es => if e.1 = k then (k, v) :: es else e :: putEntry k v es

theorem keys_putEntry [DecidableEq κ] (k : κ) (v : α) (es : List (κ × α)) :
    (putEntry k v es).map Prod.fst =
      if k ∈ es.map Prod.fst then es.map Prod.fst else es.map Prod.fst ++ [k] := by
  induction es with
  | nil => rfl
  | cons e es ih =>
    unfold putEntry
    by_cases h : e.1 = k
    · simp [h]
    · have h' : k ≠ e.1 := fun g => h g.symm
      simp only [if_neg h, List.map_cons, ih, List.mem_cons, h', false_or]
      split <;> rfl

theorem nodup_keys_putEntry [DecidableEq κ] (k : κ) (v : α) {es : List (κ × α)}
    (h : (es.map Prod.fst).Nodup) : ((putEntry k v es).map Prod.fst).Nodup := by
  rw [keys_putEntry]
  split
  · exact h
  · rename_i hk
    exact List.nodup_append.2 ⟨h, by simp, fun a ha b hb => by simp at hb; subst hb; rintro rfl; exact hk ha⟩

/-- Entries in the order of their keys' first appearance. -/
structure Bag (κ α : Type) where
  entries : List (κ × α)
  distinct : (entries.map Prod.fst).Nodup

namespace Bag

def empty : Bag κ α := ⟨[], List.nodup_nil⟩

instance : Inhabited (Bag κ α) := ⟨empty⟩

instance : EmptyCollection (Bag κ α) := ⟨empty⟩

instance [DecidableEq κ] [DecidableEq α] : DecidableEq (Bag κ α) := fun a b =>
  if h : a.entries = b.entries then .isTrue (by cases a; cases b; cases h; rfl)
  else .isFalse fun g => h (by rw [g])

def keys (b : Bag κ α) : List κ := b.entries.map Prod.fst

def size (b : Bag κ α) : Nat := b.entries.length

def isEmpty (b : Bag κ α) : Bool := b.entries.isEmpty

variable [DecidableEq κ]

/-- Writes a value under a key. -/
def put (b : Bag κ α) (k : κ) (v : α) : Bag κ α :=
  ⟨putEntry k v b.entries, nodup_keys_putEntry k v b.distinct⟩

/-- The value under a key. -/
def get? (b : Bag κ α) (k : κ) : Option α := (b.entries.find? (·.1 = k)).map Prod.snd

def contains (b : Bag κ α) (k : κ) : Bool := k ∈ b.keys

/-- Writes a list of entries from left to right. -/
def putAll (b : Bag κ α) (es : List (κ × α)) : Bag κ α := es.foldl (fun b e => b.put e.1 e.2) b

/-- A key given twice has its first place and its last value. -/
def ofList (es : List (κ × α)) : Bag κ α := empty.putAll es

/-- The bag without one key. -/
def erase (b : Bag κ α) (k : κ) : Bag κ α :=
  ⟨b.entries.filter (·.1 ≠ k), b.distinct.sublist (List.filter_sublist.map Prod.fst)⟩

/-! ## Views -/

theorem keys_put (b : Bag κ α) (k : κ) (v : α) :
    (b.put k v).keys = if k ∈ b.keys then b.keys else b.keys ++ [k] :=
  keys_putEntry k v b.entries

theorem find?_putEntry (k k' : κ) (v : α) (es : List (κ × α)) :
    ((putEntry k v es).find? (·.1 = k')).map Prod.snd =
      if k = k' then some v else (es.find? (·.1 = k')).map Prod.snd := by
  induction es with
  | nil => by_cases h : k = k' <;> simp [putEntry, h]
  | cons e es ih =>
    unfold putEntry
    by_cases h : e.1 = k
    · by_cases h' : k = k' <;> simp_all
    · by_cases h' : e.1 = k'
      · have hk : k ≠ k' := fun g => h (h'.trans g.symm)
        rw [if_neg h, List.find?_cons_of_pos (by simpa using h'), List.find?_cons_of_pos (by simpa using h'),
          if_neg hk]
      · simp only [if_neg h]
        rw [List.find?_cons_of_neg (by simpa using h'), List.find?_cons_of_neg (by simpa using h')]
        exact ih

/-- Reading after a write gives the value written there, and elsewhere what was there before. -/
theorem get?_put (b : Bag κ α) (k k' : κ) (v : α) :
    (b.put k v).get? k' = if k = k' then some v else b.get? k' :=
  find?_putEntry k k' v b.entries

theorem get?_eq_none_iff {b : Bag κ α} {k : κ} : b.get? k = none ↔ k ∉ b.keys := by
  simp only [get?, keys, Option.map_eq_none_iff, List.find?_eq_none, List.mem_map, decide_eq_true_eq, not_exists,
    not_and]

theorem putAll_append (b : Bag κ α) (es fs : List (κ × α)) : b.putAll (es ++ fs) = (b.putAll es).putAll fs :=
  List.foldl_append

/-- Writing several entries leaves the keys that were there and adds those of the entries. -/
theorem mem_keys_putAll {k : κ} (es : List (κ × α)) :
    ∀ b : Bag κ α, k ∈ (b.putAll es).keys ↔ k ∈ b.keys ∨ k ∈ es.map Prod.fst := by
  induction es with
  | nil => simp [putAll]
  | cons e es ih =>
    intro b
    have hput : k ∈ (b.put e.1 e.2).keys ↔ k ∈ b.keys ∨ k = e.1 := by
      rw [keys_put]
      split
      · rename_i he
        exact ⟨.inl, fun h => h.elim id fun hk => hk ▸ he⟩
      · simp
    rw [show b.putAll (e :: es) = (b.put e.1 e.2).putAll es from rfl, ih, hput, List.map_cons, List.mem_cons, or_assoc]

/-- After several entries were written, a key has the value that was written last for it. -/
theorem get?_putAll (k : κ) (es : List (κ × α)) :
    ∀ b : Bag κ α, (b.putAll es).get? k = ((es.reverse.find? (·.1 = k)).map Prod.snd).or (b.get? k) := by
  induction es with
  | nil => exact fun b => rfl
  | cons e es ih =>
    intro b
    rw [show b.putAll (e :: es) = (b.put e.1 e.2).putAll es from rfl, ih, get?_put, List.reverse_cons,
      List.find?_append]
    by_cases he : e.1 = k <;> simp [he]

end Bag

end Overlay
