/-
Restyling: putting a resolution on a node, and resolving properties for a node as it is. The fields
come first and the edits last; a sealed node takes the fields and refuses the first edit.
-/
import Overlay.World

namespace Overlay

namespace Edit

/-- Does something with a value that may be absent. -/
def whenSome {α : Type} (v : Option α) (f : α → Edit Unit) : Edit Unit :=
  match v with
  | none => pure ()
  | some a => f a

/-- Puts a resolution on a node. -/
def restyle (i : NodeId) (r : Resolution) : Edit Unit := do
  whenSome r.style (setStyle i)
  whenSome r.anchor (setAnchor i)
  whenSome r.visible (setVisible i)
  whenSome r.flexWeight (setFlexWeight i)
  whenSome r.layoutMode (setLayoutMode i)
  r.edits.forM fun e => hookAfter i (.assign e.name e.literal)

end Edit

namespace Act

def reportDrops (kind : Kind) (drops : List Drop) : Act Unit :=
  drops.forM fun d => report (.styleDropped kind d)

/-- Resolves properties for a node, reports what is dropped, and puts the result on the node. -/
def applyStyles (i : NodeId) (properties : Properties) : Act Resolution := do
  let kind := ((← store).node i).kind
  match resolve kind properties with
  | .error stop =>
    reportDrops kind stop.drops
    throw (.numeral stop.cause)
  | .ok r =>
    reportDrops kind r.drops
    ofEdit (Edit.restyle i r)
    return r

end Act

end Overlay
