/-
The value cache: the last known value of each element that has a user id.
-/
import Overlay.Bag
import Overlay.Value

namespace Overlay

/-- Values by user id, in the order in which the ids first came. -/
abbrev Cache := Bag String (Option Value)

/-- The value under a user id; an unknown id has none. -/
def Cache.value (c : Cache) (id : String) : Option Value := (c.get? id).join

end Overlay
