import SqlSnippet.Calendar.Style
import SqlSnippet.Clause.Scan
import SqlSnippet.Comment

/-!
# Parameters

The parameters of a snippet are the literals that its clauses compare with.  A range
gives two of them, which share the clause between them: the first owns it up to the
closing quote of the lower bound, the second owns the rest.  A list or a comparison gives
one that owns the whole clause.  Their positions belong to the text in which they were found.
-/

namespace SqlSnippet

/-- The place that a parameter has in its clause. -/
inductive Kind where
  | simple
  | list
  | rangeStart
  | rangeEnd
deriving DecidableEq, Repr

def Kind.name : Kind → String
  | simple => "simple"
  | list => "in"
  | rangeStart => "between_start"
  | rangeEnd => "between_end"

def Kind.ofName? (name : String) : Option Kind :=
  [simple, list, rangeStart, rangeEnd].find? fun k => k.name == name

/-- A literal that can be given a new value. -/
structure Parameter where
  /-- The column, without the table that qualifies it. -/
  field : Text
  kind : Kind
  /-- The literal without its quotes, or the members of a list. -/
  value : Text
  start : Nat
  stop : Nat
  clauseStart : Nat
  clauseStop : Nat
  clause : Text
  lineStart : Nat
  isDate : Bool
  isCommented : Bool
  members : List Text
  /-- The other bound of a range, seen from its upper bound. -/
  lowValue : Option Text
  /-- The other bound of a range, seen from its lower bound. -/
  highValue : Option Text
deriving DecidableEq, Repr

def fromSuffix : Text := [' ', '(', 'F', 'r', 'o', 'm', ')']

def toSuffix : Text := [' ', '(', 'T', 'o', ')']

/-- The parameter that owns a whole clause, with all that depends on its position in `t`. -/
def Hit.whole (t : Text) (h : Hit) (kind : Kind) (value : Text) : Parameter where
  field := h.clause.column.name
  kind := kind
  value := value
  start := h.start
  stop := h.stop
  clauseStart := h.start
  clauseStop := h.stop
  clause := h.clause.text
  lineStart := lineStart t h.start
  isDate := false
  isCommented := isCommentedAt t h.start
  members := []
  lowValue := none
  highValue := none

/-- The parameters of one clause of `t`. -/
def Hit.parameters (t : Text) (h : Hit) : List Parameter :=
  match h.clause with
  | .range c =>
    let split := h.start + c.lowerText.length
    [{ h.whole t .rangeStart c.low with
        field := c.column.name ++ fromSuffix, stop := split, isDate := true,
        highValue := some c.high },
      { h.whole t .rangeEnd c.high with
        field := c.column.name ++ toSuffix, start := split, isDate := true,
        lowValue := some c.low }]
  | .list c =>
    let members := splitMembers c.body
    [{ h.whole t .list (joinMembers members) with members := members }]
  | .comparison c =>
    [{ h.whole t .simple c.value with isDate := isDateLiteral c.value }]

/-- The parameters of a snippet, in the order in which they stand. -/
def parameters (t : Text) : List Parameter :=
  (clauses t).flatMap (Hit.parameters t)

end SqlSnippet
