import SqlSnippet.Edit.Substitution
import SqlSnippet.Log

/-!
# What an edit tells the log

Every step of an edit is an event of its own.  The wording, the level and the speaker of an
event are decided here and nowhere else.
-/

namespace SqlSnippet

/-- Something that an edit reports. -/
inductive EditEvent where
  | detected (count : Nat)
  | noStyle (old value : Text)
  | listMoved (field : Text) (offset : Int)
  | replacedEverywhere (field : Text) (cause : Miss) (old : Text)
  | unchanged (field : Text)
  | updated (field old : Text) (value : CodeText)
  | toggleOutside (offset : Int)
  | toggleMidLine (offset : Int)
  | uncommented (offset : Int)
  | commented (offset : Int)
deriving DecidableEq, Repr

def Miss.message : Miss → String
  | literal old offset => s!"{old.toString} not found after offset {offset}"
  | bound keyword value offset =>
    s!"'{keyword.toString} '{value.toString}'' not found after offset {offset}"
  | list field => s!"IN clause for '{field.toString}' not found"
  | hugeOffset => "Python int too large to convert to C ssize_t"

namespace EditEvent

def level : EditEvent → Level
  | detected _ | noStyle .. | unchanged _ | uncommented _ | commented _ => .debug
  | updated .. => .info
  | listMoved .. | replacedEverywhere .. => .warning
  | toggleOutside _ | toggleMidLine _ => .error

def source : EditEvent → String
  | detected _ => "sqlparam.ParameterDetector"
  | noStyle .. | listMoved .. | replacedEverywhere .. => "sqlparam.SubstitutionEngine"
  | unchanged _ | updated .. => "sqlparam.SnippetEditor"
  | toggleOutside _ | toggleMidLine _ | uncommented _ | commented _ =>
    "sqlparam.CommentToggler"

def message : EditEvent → CodeText
  | detected count => .ofString s!"Detected {count} parameters"
  | noStyle old value =>
    .ofString s!"No date style detected for '{old.toString}', inserting '{value.toString}' as is"
  | listMoved field offset =>
    .ofString (s!"Could not locate IN clause for '{field.toString}' at offset {offset}, " ++
      "falling back to clause text replace")
  | replacedEverywhere field cause old =>
    .ofString (s!"Targeted replace failed for '{field.toString}' ({cause.message}); " ++
      s!"replacing every occurrence of '{old.toString}'")
  | unchanged field => .ofString s!"Value for '{field.toString}' left text unchanged"
  | updated field old value =>
    .ofString s!"Updated '{field.toString}': '{old.toString}' -> '" ++ value ++ .ofString "'"
  | toggleOutside offset => .ofString s!"Invalid line start offset for toggle: {offset}"
  | toggleMidLine offset => .ofString s!"Offset {offset} is not at the start of a line"
  | uncommented offset => .ofString s!"Uncommented line at offset {offset}"
  | commented offset => .ofString s!"Commented line at offset {offset}"

def record (e : EditEvent) : LogRecord := ⟨e.level, e.source, e.message⟩

end EditEvent

/-- What the replacement of a target reports. -/
def substitutionEvents (t : Text) (target : Target) (value : Text) : List EditEvent :=
  let found := replaceTargeted t target (target.prepare value)
  (if target.lacksStyle value then [.noStyle target.value value] else []) ++
  (if found.relocated then [.listMoved target.field target.clauseStart] else []) ++
  match found.text with
  | .ok _ => []
  | .error cause => [.replacedEverywhere target.field cause target.value]

def Toggle.event (offset : Int) : Toggle → EditEvent
  | .outside => .toggleOutside offset
  | .midLine => .toggleMidLine offset
  | .uncommented _ => .uncommented offset
  | .commented _ => .commented offset

end SqlSnippet
