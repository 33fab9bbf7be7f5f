import SqlSnippet.Text.Number

/-!
# Dates

A date is a day of the Gregorian calendar in one of the years 1 to 9999.  Its
canonical form is the ISO form with four digits for the year and two each for the
month and the day.  When that form is read, the digits of the year may come from any
script, and so may the last digit of a day from the 10th to the 29th.
-/

namespace SqlSnippet

open Chars

def isLeapYear (year : Nat) : Bool :=
  year % 4 == 0 && (year % 100 != 0 || year % 400 == 0)

/-- The number of days in a month. -/
def daysInMonth (year month : Nat) : Nat :=
  match month with
  | 2 => if isLeapYear year then 29 else 28
  | 4 | 6 | 9 | 11 => 30
  | _ => 31

/-- A day of the calendar. -/
structure Date where
  year : Nat
  month : Nat
  day : Nat
  year_range : 1 ≤ year ∧ year ≤ 9999
  month_range : 1 ≤ month ∧ month ≤ 12
  day_range : 1 ≤ day ∧ day ≤ daysInMonth year month
deriving DecidableEq, Repr

/-- The date with these numbers, if the calendar has one. -/
def Date.ofNumbers? (year month day : Nat) : Option Date :=
  if hy : 1 ≤ year ∧ year ≤ 9999 then
    if hm : 1 ≤ month ∧ month ≤ 12 then
      if hd : 1 ≤ day ∧ day ≤ daysInMonth year month then
        some ⟨year, month, day, hy, hm, hd⟩
      else none
    else none
  else none

theorem daysInMonth_le (year month : Nat) : daysInMonth year month ≤ 31 := by
  unfold daysInMonth
  split <;> try split
  all_goals omega

theorem Date.day_le (d : Date) : d.day ≤ 31 :=
  Nat.le_trans d.day_range.2 (daysInMonth_le _ _)

/-- The ASCII digit for a number below ten. -/
def digitChar (n : Nat) : Char := Char.ofNat (48 + n % 10)

def twoDigits (n : Nat) : Text := [digitChar (n / 10), digitChar n]

def fourDigits (n : Nat) : Text := twoDigits (n / 100) ++ twoDigits n

/-- The canonical form of a date. -/
def Date.iso (d : Date) : Text :=
  fourDigits d.year ++ '-' :: twoDigits d.month ++ '-' :: twoDigits d.day

/-- The two digits of a month, both ASCII. -/
def monthNumber? (a b : Char) : Option Nat :=
  if a = '0' ∧ '1' ≤ b ∧ b ≤ '9' then some (b.toNat - 48)
  else if a = '1' ∧ '0' ≤ b ∧ b ≤ '2' then some (10 + (b.toNat - 48))
  else none

/-- The two digits of a day; only behind a leading 1 or 2 the second one may come
from another script. -/
def dayNumber? (a b : Char) : Option Nat :=
  if a = '0' ∧ '1' ≤ b ∧ b ≤ '9' then some (b.toNat - 48)
  else if a = '1' then (decimalValue? b).map (10 + ·)
  else if a = '2' then (decimalValue? b).map (20 + ·)
  else if a = '3' ∧ '0' ≤ b ∧ b ≤ '1' then some (30 + (b.toNat - 48))
  else none

/-- Read a date in the ISO form, blanks around it apart. -/
def Date.ofIso? (t : Text) : Option Date :=
  match t.strip with
  | [y₁, y₂, y₃, y₄, '-', m₁, m₂, '-', d₁, d₂] => do
    let year ← numberOf? [y₁, y₂, y₃, y₄]
    let month ← monthNumber? m₁ m₂
    let day ← dayNumber? d₁ d₂
    Date.ofNumbers? year month day
  | _ => none

end SqlSnippet
