import SqlSnippet.Edit.Snippet

/-!
# Controls

A control shows one parameter for editing: its label, the value that the input starts
with, and whether its line can be commented or uncommented.  A parameter that was
shown already gets no second control, and the number of a control is the position of its
parameter in the list.
-/

namespace SqlSnippet

/-- How a new value is entered. -/
inductive InputType where
  | date
  | text
deriving DecidableEq, Repr

def InputType.name : InputType → String
  | date => "date"
  | text => "text"

/-- One parameter as it is shown. -/
structure Control where
  index : Nat
  label : Text
  kind : Kind
  inputType : InputType
  /-- The value that the input starts with. -/
  seed : Text
  /-- The literal as it stands in the snippet. -/
  literal : Text
  isCommented : Bool
  lineStart : Nat
deriving DecidableEq, Repr

namespace Control

/-- The control for a parameter.  A date starts with its ISO form, or empty when
it denotes no date. -/
def of (index : Nat) (p : Parameter) : Control where
  index := index
  label := p.field
  kind := p.kind
  inputType := if p.isDate then .date else .text
  seed := if p.isDate then (toIso? p.value).getD [] else p.value
  literal := p.value
  isCommented := p.isCommented
  lineStart := p.lineStart

def toggleLabel (c : Control) : String :=
  if c.isCommented then "Uncomment" else "Comment"

/-- A commented control is dimmed. -/
def dimmed (c : Control) : Bool := c.isCommented

/-- The value to show: the seed, or else the literal. -/
def shownValue (c : Control) : Text :=
  if c.seed.isEmpty then c.literal else c.seed

end Control

def Parameter.span (p : Parameter) : Nat × Nat := (p.start, p.stop)

/-- The controls for a list whose first parameter has number `index`, apart from those
whose span was seen before. -/
def controlsFrom (index : Nat) (seen : List (Nat × Nat)) : List Parameter → List Control
  | [] => []
  | p :: rest =>
    if seen.contains p.span then controlsFrom (index + 1) seen rest
    else Control.of index p :: controlsFrom (index + 1) (p.span :: seen) rest

/-- One control for each parameter that was not shown before. -/
def controlsOf (list : List Parameter) : List Control := controlsFrom 0 [] list

def controls (t : Text) : List Control := controlsOf (parameters t)

end SqlSnippet
