/-
All or nothing. A preparation that is refused has written nothing, one that goes through need not be made again,
and an interface that is refused its elements leaves the whole world as it was.
-/
import Overlay.Proofs.Element.Again
import Overlay.Proofs.Live.Session

namespace Overlay

/-- A start that fails leaves the world as it was. -/
theorem Interface.start_error {settings : Settings} {pushes : Bool} {elements : Option (List NodeId)}
    {blocks : List Block} {baseFile : Option String} {w w' : World} {f : Failure}
    (h : (start settings pushes elements blocks baseFile).run w = (.error f, w')) : w' = w := by
  rw [run_start] at h
  rcases installTree_cases elements w.store with ⟨v, hv⟩ | ⟨roots, s, -, -, -, hi⟩
  · rw [hv] at h
    cases h
    rfl
  · rw [hi] at h
    cases h

/-- A preparation that fails leaves the store as it was, and after one that succeeds a preparation of the same roots
succeeds again and leaves the store as it is. When the start of an interface fails, no id, no parent and no seal has
been given to any node. -/
theorem prepare_all_or_nothing (s : Store) (roots : List NodeId) :
    (∀ v s', (prepare roots).run s = (.error v, s') → s' = s) ∧
    (s.Closed → (∀ i ∈ roots, i < s.size) →
      ∀ s', (prepare roots).run s = (.ok (), s') → (prepare roots).run s' = (.ok (), s')) ∧
    ∀ settings pushes elements blocks baseFile f (w w' : World),
      (Interface.start settings pushes elements blocks baseFile).run w = (.error f, w') → w' = w := by
  refine ⟨fun v s' h => prepare_error h, fun hc hr s' h => ?_, fun _ _ _ _ _ _ _ _ h => Interface.start_error h⟩
  have hsettled : s'.Settled roots := Store.settled_of_ok hc hr h
  exact hsettled.prepare

/-- A group that lists a label, which has no parent yet. -/
def framedLabel : Store := ⟨#[{ kind := .group, children := [1] }, { kind := .label }]⟩

def preparedLabel : Store := ⟨#[
  { kind := .group, children := [1], internalId := some "Group1" },
  { kind := .label, internalId := some "Label2", parent := some 0 }]⟩

/-- The first preparation gives ids and a parent, the second gives nothing, and a start over the label and its group
is refused. -/
theorem prepare_all_or_nothing_framedLabel :
    (prepare [0]).run framedLabel = (.ok (), preparedLabel) ∧
    (prepare [0]).run preparedLabel = (.ok (), preparedLabel) ∧
    ((Interface.start {} false (some [1, 0]) [] none).run { store := framedLabel }).2 = { store := framedLabel } := by
  have hprepare : (prepare [0]).run framedLabel = (.ok (), preparedLabel) := by cbv
  have hrefused : ((Interface.start {} false (some [1, 0]) [] none).run { store := framedLabel }).1.isOk = false := by
    cbv
  obtain ⟨-, hagain, hstart⟩ := prepare_all_or_nothing framedLabel [0]
  refine ⟨hprepare, hagain (Store.closed_of_nodes (by decide)) (by decide) _ hprepare, ?_⟩
  rcases hrun : (Interface.start {} false (some [1, 0]) [] none).run { store := framedLabel } with ⟨f | hud, w'⟩
  · exact hstart _ _ _ _ _ _ _ _ hrun
  · rw [hrun] at hrefused
    cases hrefused

end Overlay
