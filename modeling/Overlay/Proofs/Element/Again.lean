/-
Preparing again. What a preparation leaves passes all its checks and lacks nothing that it would fill in, so a
preparation of the same roots goes through again and writes nothing.
-/
import Overlay.Proofs.Element.Find
import Overlay.Proofs.Element.Ownership

namespace Overlay

namespace Store

variable {s s' : Store} {roots : List NodeId}

/-- Prepared trees pass the checks of identity. -/
theorem Prepared.not_sharedId (h : s.Prepared roots) : ¬ s.SharedId roots := by
  rintro ⟨i, j, hij, ⟨place, lister, hi⟩, ⟨place', lister', hj⟩, hshared⟩
  have hmem := h.grounded.mem_walk hi
  have hmem' := h.grounded.mem_walk hj
  rcases hshared with ⟨id, hu, hu'⟩ | ⟨id, hn, hn'⟩
  · have hsame := h.eq_of_userId hmem hmem' hu hu'
    exact hij (congrArg Prod.fst hsame)
  · have hsame := List.inj_on_of_nodup_map h.internalIds hmem hmem' (hn.trans hn'.symm)
    exact hij (congrArg Prod.fst hsame)

/-- Prepared trees in which every node is at one place and its parent is the node that lists it. -/
structure Settled (s : Store) (roots : List NodeId) : Prop extends s.Prepared roots where
  once : ¬ s.ReachedTwice roots
  owned : ∀ place lister i, s.At roots place lister i → (s.node i).parent = lister

namespace Settled

variable {ids : List NodeId}

theorem newIds_eq_nil (h : s.Settled roots) (hids : ∀ i ∈ ids, s.Reached roots i) (preset : List String) :
    newIds (s.listed ids) preset = [] := by
  refine List.map_eq_nil_iff.1 ((newIds_keys _ _).trans (List.map_eq_nil_iff.2 (List.filter_eq_nil_iff.2 ?_)))
  intro n hn hnone
  obtain ⟨i, hi, rfl⟩ := List.mem_map.1 hn
  obtain ⟨place, lister, hat⟩ := hids i hi
  have hid := h.identified _ (h.grounded.mem_walk hat)
  rw [Option.isNone_iff_eq_none.1 hnone] at hid
  cases hid

theorem adoptions_eq_nil (h : s.Settled roots) (hids : ∀ i ∈ ids, s.Reached roots i) :
    adoptions s (s.listed ids) = [] := by
  refine List.eq_nil_iff_forall_not_mem.2 ?_
  rintro ⟨c, p⟩ hmem
  obtain ⟨hp, hc, hnone⟩ := mem_adoptions.1 hmem
  obtain ⟨place, lister, hat⟩ := hids p hp
  obtain ⟨k, hk⟩ := List.getElem?_of_mem hc
  cases hnone.symm.trans (h.owned _ _ _ (.child hat hk))

/-- A preparation finds nothing to write in settled trees. -/
theorem prepare (h : s.Settled roots) : (prepare roots).run s = (.ok (), s) := by
  have hforeign : ¬ s.ReachedForeign roots := by
    rintro ⟨place, lister, i, hat, -, hne⟩
    exact hne (h.owned place lister i hat)
  rcases prepare_outcomes s roots with ⟨hbad, -⟩ | ⟨-, hshared, -⟩ | ⟨-, -, ids, preset, -, hids, hrun⟩
  · exact absurd hbad (not_or.2 ⟨h.once, hforeign⟩)
  · exact absurd hshared h.not_sharedId
  · have hreached : ∀ i ∈ ids, s.Reached roots i := fun i => (hids i).1
    rw [hrun, h.newIds_eq_nil hreached, h.adoptions_eq_nil hreached]
    rfl

end Settled

/-- A preparation that succeeds leaves settled trees. -/
theorem settled_of_ok (hc : s.Closed) (hr : ∀ i ∈ roots, i < s.size)
    (h : (Overlay.prepare roots).run s = (.ok (), s')) : s'.Settled roots := by
  have hfill := filledIn_prepare roots s
  rw [h] at hfill
  have hat : ∀ {place lister i}, s'.At roots place lister i → s.At roots place lister i :=
    fun hat => hat.of_children fun j => (hfill.children j).symm
  obtain ⟨honce, hparent⟩ := parent_of_prepare hc hr h
  refine ⟨prepared_of_ok hc hr h, ?_, fun place lister i hp => hparent place lister i (hat hp)⟩
  rintro ⟨i, place, place', lister, lister', hne, hp, hp'⟩
  exact honce ⟨i, place, place', lister, lister', hne, hat hp, hat hp'⟩

end Store

end Overlay
