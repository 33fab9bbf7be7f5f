import SqlSnippet.Text.Literal

/-!
# Filter clauses

A filter clause is kept with all the text it was read from, blanks and keywords
included, so that writing it back gives the very characters of the snippet.  There
are three forms: a range between two literals, a list of members, and a comparison
with one literal.
-/

namespace SqlSnippet

/-- A column, perhaps qualified by the name of its table. -/
structure Column where
  qualifier : Option Text
  name : Text
deriving DecidableEq, Repr

def Column.text (column : Column) : Text :=
  match column.qualifier with
  | some table => table ++ '.' :: column.name
  | none => column.name

/-- The clause `column between 'low' and 'high'`. -/
structure RangeClause where
  column : Column
  gap₁ : Text
  betweenWord : Text
  gap₂ : Text
  low : Text
  gap₃ : Text
  andWord : Text
  gap₄ : Text
  high : Text
deriving DecidableEq, Repr

def RangeClause.lead (c : RangeClause) : Text :=
  c.column.text ++ c.gap₁ ++ c.betweenWord ++ c.gap₂

/-- What stands between the two literals of a range. -/
def RangeClause.middle (c : RangeClause) : Text :=
  c.gap₃ ++ c.andWord ++ c.gap₄

/-- A range up to the closing quote of its first literal. -/
def RangeClause.lowerText (c : RangeClause) : Text :=
  c.lead ++ c.low.enclosed

/-- A range from there to its end. -/
def RangeClause.upperText (c : RangeClause) : Text :=
  c.middle ++ c.high.enclosed

def RangeClause.text (c : RangeClause) : Text :=
  c.lowerText ++ c.upperText

/-- The clause `column in (body)`. -/
structure ListClause where
  column : Column
  gap₁ : Text
  inWord : Text
  gap₂ : Text
  body : Text
deriving DecidableEq, Repr

def ListClause.lead (c : ListClause) : Text :=
  c.column.text ++ c.gap₁ ++ c.inWord ++ c.gap₂

def ListClause.text (c : ListClause) : Text :=
  c.lead ++ '(' :: c.body ++ [')']

/-- The clause `column = 'value'` or `column like 'value'`.  The blanks and the
parenthesis before the literal are its opening, those after it its closing. -/
structure Comparison where
  column : Column
  gap : Text
  operator : Text
  opening : Text
  value : Text
  closing : Text
deriving DecidableEq, Repr

/-- What stands before the literal of a comparison. -/
def Comparison.lead (c : Comparison) : Text :=
  c.column.text ++ c.gap ++ c.operator ++ c.opening

def Comparison.text (c : Comparison) : Text :=
  c.lead ++ c.value.enclosed ++ c.closing

/-- A filter clause of any form. -/
inductive Clause where
  | range (clause : RangeClause)
  | list (clause : ListClause)
  | comparison (clause : Comparison)
deriving DecidableEq, Repr

namespace Clause

def text : Clause → Text
  | range c => c.text
  | list c => c.text
  | comparison c => c.text

def column : Clause → Column
  | range c => c.column
  | list c => c.column
  | comparison c => c.column

end Clause

end SqlSnippet
