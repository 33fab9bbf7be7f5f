import SqlSnippet.Calendar.Style
import SqlSnippet.Text.Display

/-!
# A new date in an old style

A date comes in the ISO form and leaves in the style of the literal that it replaces.
A text that is no such date is refused.
-/

namespace SqlSnippet

/-- Why no date can be rendered. -/
inductive DateError where
  | notIso (text : Text)
deriving DecidableEq, Repr

def DateError.message : DateError → String
  | notIso text => s!"Not an ISO date: {text.codePoints.displayed.toString}"

/-- The date that an ISO text denotes, in this style. -/
def DateStyle.renderIso (style : DateStyle) (iso : Text) : Except DateError Text :=
  match Date.ofIso? iso with
  | some d => .ok (style.render d)
  | none => .error (.notIso iso)

end SqlSnippet
