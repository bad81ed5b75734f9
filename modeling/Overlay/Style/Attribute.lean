/-
Style attributes: declarations `name: value` between semicolons. Names are trimmed and lower-cased,
values trimmed; only the first colon of a declaration separates. A declaration without a colon or
without a name counts for nothing, and a repeated name keeps its place and takes the last value.
-/
import Overlay.Bag
import Overlay.Text.Case

namespace Overlay

open Text

/-- Properties by name, in the order of declaration. -/
abbrev Properties := Bag String String

/-- The name and value of a declaration. -/
def declaration? (cs : List Char) : Option (String × String) := do
  let (name, value) ← cutAt ':' cs
  let key := lowerChars (trimChars name)
  if key.isEmpty then none else some (String.ofList key, String.ofList (trimChars value))

/-- The declarations of a style attribute, in textual order. -/
def declarations (style : String) : List (String × String) :=
  (pieces (· = ';') style.toList).filterMap declaration?

def Properties.ofStyle (style : String) : Properties := Bag.ofList (declarations style)

end Overlay
