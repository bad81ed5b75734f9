/-
Declarations under several names. A name that is declared again keeps its first place and takes its last
value. So of the declarations of some names one rules: of the name whose first declaration comes last, the
last declaration. It is the last one of all unless that one repeats a name which stood before another.
-/
import Overlay.Proofs.Bag
import Overlay.Style.Attribute

namespace Overlay

/-! ## The declaration that rules -/

/-- The textually last declaration of some names. -/
def lastNamed? (named : String → Bool) (ds : List (String × String)) : Option (String × String) :=
  (ds.filter fun d => named d.1).getLast?

/-- Of some names the one whose first declaration comes last. -/
def latestName? (named : String → Bool) (ds : List (String × String)) : Option String :=
  ((ds.map Prod.fst).eraseDups.filter named).getLast?

/-- The last declaration of that name. -/
def ruling? (named : String → Bool) (ds : List (String × String)) : Option (String × String) :=
  (latestName? named ds).bind fun name => lastNamed? (· = name) ds

/-! ## Declarations in a bag -/

variable {named : String → Bool} {ds : List (String × String)} {d e : String × String}

theorem lastNamed?_eq_find? (named : String → Bool) (ds : List (String × String)) :
    lastNamed? named ds = ds.reverse.find? fun d => named d.1 :=
  List.getLast?_filter

theorem mem_of_lastNamed? (h : lastNamed? named ds = some d) : d ∈ ds ∧ named d.1 :=
  List.mem_filter.1 (List.mem_of_getLast? h)

/-- An entry of the bag is the last declaration of its name. -/
theorem lastNamed?_of_mem (he : e ∈ (Bag.ofList ds).entries) : lastNamed? (· = e.1) ds = some e := by
  obtain ⟨earlier, later, rfl, hlater⟩ := Bag.mem_ofList_iff.1 he
  have hnone : (later.filter fun d => d.1 = e.1) = [] :=
    List.filter_eq_nil_iff.2 fun d hd => by simpa using hlater d hd
  unfold lastNamed?
  rw [List.filter_append, List.filter_cons_of_pos (by simp), hnone, List.getLast?_concat]

/-- The name of the last entry under some names. -/
theorem latestName?_eq (named : String → Bool) (ds : List (String × String)) :
    latestName? named ds = (((Bag.ofList ds).entries.filter fun e => named e.1).getLast?).map Prod.fst := by
  unfold latestName?
  rw [← Bag.keys_ofList, ← List.getLast?_map]
  exact congrArg List.getLast? List.filter_map

/-- The last entry of the bag under some names is the declaration that rules. -/
theorem getLast?_entries (named : String → Bool) (ds : List (String × String)) :
    ((Bag.ofList ds).entries.filter fun e => named e.1).getLast? = ruling? named ds := by
  unfold ruling?
  rw [latestName?_eq]
  rcases he : ((Bag.ofList ds).entries.filter fun e => named e.1).getLast? with _ | e <;> rw [he]
  · rfl
  · exact (lastNamed?_of_mem (List.mem_filter.1 (List.mem_of_getLast? he)).1).symm

/-- The declaration that rules is the last one of all exactly if the name of the last one is declared for the
first time after the others. -/
theorem ruling?_eq_lastNamed?_iff (named : String → Bool) (ds : List (String × String)) :
    ruling? named ds = lastNamed? named ds ↔ latestName? named ds = (lastNamed? named ds).map Prod.fst := by
  constructor
  · intro h
    rw [← h, ← getLast?_entries, latestName?_eq]
  · intro h
    unfold ruling?
    rw [h]
    rcases hd : lastNamed? named ds with _ | d
    · rfl
    · -- whoever comes after it in the text has none of the names, so not its name either
      obtain ⟨-, hnamed⟩ := mem_of_lastNamed? hd
      rw [lastNamed?_eq_find?, List.find?_eq_some_iff_append] at hd
      obtain ⟨-, later, earlier, hsplit, hlater⟩ := hd
      show lastNamed? (· = d.1) ds = some d
      rw [lastNamed?_eq_find?, List.find?_eq_some_iff_append]
      refine ⟨by simp, later, earlier, hsplit, fun a ha => ?_⟩
      have hnot := hlater a ha
      by_cases hname : a.1 = d.1
      · rw [hname, hnamed] at hnot
        cases hnot
      · simpa using hname

end Overlay
