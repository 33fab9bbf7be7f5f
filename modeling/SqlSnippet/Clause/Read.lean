import SqlSnippet.Clause.Basic
import SqlSnippet.Text.Search

/-!
# Reading a clause

Each form of clause is read off the front of a text that starts at the beginning
of a word.  Every part of a clause ends where it has to: a run of word characters
or blanks is taken whole, a literal reaches to the next quote, and a list to the
next parenthesis.  The only choice is a comparison whose column has grown together with its
`like`.
-/

namespace SqlSnippet

open Chars

/-- A run of word characters, taken whole. -/
def readWord? (t : Text) : Option (Text × Text) :=
  if (t.takeWhile isWord).isEmpty then none
  else some (t.takeWhile isWord, t.dropWhile isWord)

/-- One blank at least, and all that follow it. -/
def readGap? (t : Text) : Option (Text × Text) :=
  if (t.takeWhile isBlank).isEmpty then none
  else some (t.takeWhile isBlank, t.dropWhile isBlank)

/-- The content of a literal up to the next quote. -/
def readLiteral? : Text → Option (Text × Text)
  | [] => none
  | c :: t =>
    if c = quoteMark then
      match t.dropWhile (· ≠ quoteMark) with
      | _ :: rest => some (t.takeWhile (· ≠ quoteMark), rest)
      | [] => none
    else none

def readFullLiteral? (t : Text) : Option (Text × Text) :=
  (readLiteral? t).filter fun r => !r.1.isEmpty

/-- A column: a word, or two words with a point between them. -/
def Column.read? (t : Text) : Option (Column × Text) := do
  let (first, rest) ← readWord? t
  match rest with
  | '.' :: rest => do
    let (second, rest) ← readWord? rest
    some (⟨some first, second⟩, rest)
  | _ => some (⟨none, first⟩, rest)

def RangeClause.read? (t : Text) : Option (RangeClause × Text) := do
  let (column, t) ← Column.read? t
  let (gap₁, t) ← readGap? t
  let (betweenWord, t) ← Text.readFolded? ['b', 'e', 't', 'w', 'e', 'e', 'n'] t
  let (gap₂, t) ← readGap? t
  let (low, t) ← readFullLiteral? t
  let (gap₃, t) ← readGap? t
  let (andWord, t) ← Text.readFolded? ['a', 'n', 'd'] t
  let (gap₄, t) ← readGap? t
  let (high, t) ← readFullLiteral? t
  some (⟨column, gap₁, betweenWord, gap₂, low, gap₃, andWord, gap₄, high⟩, t)

def readBody? : Text → Option (Text × Text)
  | '(' :: t =>
    match t.dropWhile (· ≠ ')') with
    | _ :: rest => some (t.takeWhile (· ≠ ')'), rest)
    | [] => none
  | _ => none

def ListClause.read? (t : Text) : Option (ListClause × Text) := do
  let (column, t) ← Column.read? t
  let (gap₁, t) ← readGap? t
  let (inWord, t) ← Text.readFolded? ['i', 'n'] t
  let gap₂ := t.takeWhile isBlank
  let (body, t) ← (readBody? (t.dropWhile isBlank)).filter fun r => !r.1.isEmpty
  some (⟨column, gap₁, inWord, gap₂, body⟩, t)

/-- The sign or the word of a comparison. -/
def readOperator? : Text → Option (Text × Text)
  | '=' :: t => some (['='], t)
  | t => Text.readFolded? ['l', 'i', 'k', 'e'] t

/-- The blanks before a literal, with one opening parenthesis among them or none. -/
def readOpening (t : Text) : Text × Text :=
  match t.dropWhile isBlank with
  | '(' :: rest => (t.takeWhile isBlank ++ '(' :: rest.takeWhile isBlank, rest.dropWhile isBlank)
  | rest => (t.takeWhile isBlank, rest)

/-- The blanks after a literal, and a closing parenthesis if one follows them. -/
def readClosing (t : Text) : Text × Text :=
  match t.dropWhile isBlank with
  | ')' :: rest => (t.takeWhile isBlank ++ [')'], rest)
  | rest => (t.takeWhile isBlank, rest)

def Comparison.readAfter? (column : Column) (gap operator t : Text) :
    Option (Comparison × Text) := do
  let (opening, t) := readOpening t
  let (value, t) ← readLiteral? t
  let (closing, t) := readClosing t
  some (⟨column, gap, operator, opening, value, closing⟩, t)

/-- A column whose name ends in `like`, cut into the name before it and the operator. -/
def Column.cutLike? (column : Column) : Option (Column × Text) :=
  let size := column.name.length - 4
  if 4 < column.name.length then
    (Text.readFolded? ['l', 'i', 'k', 'e'] (column.name.drop size)).map fun (operator, _) =>
      (⟨column.qualifier, column.name.take size⟩, operator)
  else none

def Comparison.read? (t : Text) : Option (Comparison × Text) := do
  let (column, t) ← Column.read? t
  let apart := do
    let (operator, rest) ← readOperator? (t.dropWhile isBlank)
    Comparison.readAfter? column (t.takeWhile isBlank) operator rest
  match apart with
  | some found => some found
  | none => do
    let (column, operator) ← column.cutLike?
    Comparison.readAfter? column [] operator t

end SqlSnippet
