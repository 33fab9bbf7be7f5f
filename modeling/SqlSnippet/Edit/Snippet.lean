import SqlSnippet.Edit.Event

/-!
# Editing a snippet

An edit names a parameter by its position among the parameters of the text at hand,
so nothing that was found in an earlier text is carried over.  An edit gives the new text or
says that there is no such parameter, and in both cases tells what happened on the way.
-/

namespace SqlSnippet

/-- Why an edit is refused. -/
inductive EditError where
  | noParameter (index : Int) (count : Nat)
deriving DecidableEq, Repr

def EditError.message : EditError → String
  | noParameter index count =>
    s!"Parameter index {index} out of range (found {count} parameters)"

def parameterAt (t : Text) (index : Int) : Except EditError Parameter :=
  match if index < 0 then none else (parameters t)[index.toNat]? with
  | some p => .ok p
  | none => .error (.noParameter index (parameters t).length)

/-- Give a parameter a new value. -/
def setValue (t : Text) (index : Int) (value : Text) : Except EditError Text :=
  (parameterAt t index).map fun p => substitute t p.target value

/-- Flip the comment of the line on which the clause of a parameter starts. -/
def toggle (t : Text) (index : Int) : Except EditError Text :=
  (parameterAt t index).map fun p => (toggleAt t p.lineStart).textFrom t

/-- Flip the comment of the line that begins at an offset. -/
def toggleLine (t : Text) (offset : Int) : Text := (toggleAt t offset).textFrom t

def detectionEvent (t : Text) : EditEvent := .detected (parameters t).length

def setValueEvents (t : Text) (index : Int) (value : Text) : List EditEvent :=
  detectionEvent t ::
  match parameterAt t index with
  | .error _ => []
  | .ok p =>
    substitutionEvents t p.target value ++
      [if substitute t p.target value = t then .unchanged p.field
        else .updated p.field p.value value.codePoints]

/-- Give a parameter a value that was typed.  One that has halves of pairs is written like any
other, but what it leaves is no text. -/
def enterValue (t : Text) (index : Int) (value : CodeText) : Except EditError (Option Text) :=
  match value.chars? with
  | some entered => (setValue t index entered).map some
  | none => (parameterAt t index).map fun _ => none

def enterValueEvents (t : Text) (index : Int) (value : CodeText) : List EditEvent :=
  match value.chars? with
  | some entered => setValueEvents t index entered
  | none =>
    detectionEvent t ::
    match parameterAt t index with
    | .error _ => []
    | .ok p => [.updated p.field p.value value]

def toggleEvents (t : Text) (index : Int) : List EditEvent :=
  detectionEvent t ::
  match parameterAt t index with
  | .error _ => []
  | .ok p => [(toggleAt t p.lineStart).event p.lineStart]

def toggleLineEvents (t : Text) (offset : Int) : List EditEvent :=
  [(toggleAt t offset).event offset]

end SqlSnippet
