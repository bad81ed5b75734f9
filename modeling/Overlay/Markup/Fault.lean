/-
Markup that the scanner gives up on: a marked section whose opening is followed by no name, or by a
name that no kind of section has.
-/
import Overlay.Text.Quoted

namespace Overlay.Markup

open Text

/-- Both carry the text at which the scan stopped. -/
inductive Fault where
  | noSectionName (shown : String)
  | unknownSection (name : String)
  deriving DecidableEq

def Fault.message : Fault → String
  | noSectionName shown => "expected name token at " ++ quoted shown
  | unknownSection name => "unknown status keyword " ++ quoted name ++ " in marked section"

end Overlay.Markup
