import SqlSnippet.Calendar.Date
import SqlSnippet.Calendar.Month
import SqlSnippet.Chars.Case
import SqlSnippet.Chars.Letter

/-!
# Date literals and their styles

Snippets write a date as day, month name and year.  Such a literal has a style: whether
a single digit stands alone for the day, how wide the year is, and how the month
is written.  A new date is rendered in the style of the literal that it replaces.
-/

namespace SqlSnippet

open Chars

/-- How the month of a date literal is written. -/
structure MonthStyle where
  isUpperCase : Bool
  isLowerCase : Bool
  isFullName : Bool
  /-- The month as it stands in the literal. -/
  sample : Text
deriving DecidableEq, Repr

/-- The three segments of a date literal and how its month is written. -/
structure DateStyle where
  day : Text
  month : Text
  year : Text
  monthStyle : MonthStyle
deriving DecidableEq, Repr

/-- How a month segment is written. -/
def MonthStyle.of (month : Text) : MonthStyle where
  isUpperCase := !month.any hasCapital
  isLowerCase := !month.any hasSmall
  isFullName := 3 < month.length
  sample := month

/-- The style of a literal of three segments, the middle one made of letters. -/
def DateStyle.of? (literal : Text) : Option DateStyle :=
  match literal.splitOn '-' with
  | [day, month, year] =>
    if !month.isEmpty && month.all isLetter then
      some ⟨day, month, year, MonthStyle.of month⟩
    else none
  | _ => none

/-- The day in this style: a single digit may stand alone if it did before. -/
def DateStyle.renderDay (style : DateStyle) (day : Nat) : Text :=
  if style.day.length = 1 ∧ day < 10 then [digitChar day] else twoDigits day

/-- The month in this style.  Small letters win over capitals, and a month written
in neither gets a capital first letter. -/
def MonthStyle.render (style : MonthStyle) (month : Nat) : Text :=
  let name := (if style.isFullName then fullMonths else shortMonths).getD (month - 1) []
  if style.isLowerCase then name.map Char.toLower
  else if style.isUpperCase then name
  else capitalized name

/-- The year in this style: four digits, or the last two. -/
def DateStyle.renderYear (style : DateStyle) (year : Nat) : Text :=
  if style.year.length = 4 then fourDigits year else twoDigits year

def DateStyle.render (style : DateStyle) (d : Date) : Text :=
  Text.join ['-']
    [style.renderDay d.day, style.monthStyle.render d.month, style.renderYear d.year]

/-- A segment of decimal digits with one of the given lengths. -/
def isDigits (segment : Text) (lengths : List Nat) : Bool :=
  segment.all isDecimal && lengths.contains segment.length

/-- The segments of a date literal, blanks around it apart: one or two digits, the
name of a month, and two or four digits. -/
def dateSegments? (literal : Text) : Option (Text × Nat × Text) :=
  match literal.strip.splitOn '-' with
  | [day, month, year] =>
    if isDigits day [1, 2] && isDigits year [2, 4] then
      (monthIndex? month).map fun index => (day, index, year)
    else none
  | _ => none

/-- The text looks like a day, a month name and a year. -/
def isDateLiteral (literal : Text) : Bool := (dateSegments? literal).isSome

def yearNumber? (segment : Text) : Option Nat :=
  numberOf? (if segment.length = 2 then '2' :: '0' :: segment else segment)

/-- The date that a literal denotes, in the ISO form or with a month name. -/
def Date.ofLiteral? (literal : Text) : Option Date :=
  match Date.ofIso? literal with
  | some d => some d
  | none => do
    let (day, index, year) ← dateSegments? literal
    let fullYear ← yearNumber? year
    let dayNumber ← numberOf? day
    Date.ofNumbers? fullYear (index + 1) dayNumber

/-- The ISO form of the date that a literal denotes. -/
def toIso? (literal : Text) : Option Text := (Date.ofLiteral? literal).map Date.iso

end SqlSnippet
