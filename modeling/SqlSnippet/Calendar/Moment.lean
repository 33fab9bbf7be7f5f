import SqlSnippet.Calendar.Date

/-!
# Moments

A moment is a day with a time of day.  It may say by how much the clock of its zone is ahead of
universal time.  Clocks are compared with each other, and so are moments whose zones are known, but
not a clock with a moment.
-/

namespace SqlSnippet

/-- A day, a time of day, and the lead of a zone in minutes. -/
structure Moment where
  date : Date
  hour : Nat
  minute : Nat
  second : Nat
  microsecond : Nat
  zone : Option Int
  time_range : hour < 24 ∧ minute < 60 ∧ second < 60 ∧ microsecond < 1000000
  zone_range : (zone.all fun lead => lead.natAbs < 24 * 60) = true
deriving DecidableEq, Repr

namespace Moment

def ofNumbers? (date : Date) (hour minute second microsecond : Nat) (zone : Option Int) :
    Option Moment :=
  if ht : hour < 24 ∧ minute < 60 ∧ second < 60 ∧ microsecond < 1000000 then
    if hz : (zone.all fun lead => lead.natAbs < 24 * 60) = true then
      some ⟨date, hour, minute, second, microsecond, zone, ht, hz⟩
    else none
  else none

def sixDigits (n : Nat) : Text := twoDigits (n / 10000) ++ fourDigits n

/-- A lead with its sign, in hours and minutes. -/
def zoneText (lead : Int) : Text :=
  (if lead < 0 then '-' else '+') ::
    twoDigits (lead.natAbs / 60) ++ ':' :: twoDigits (lead.natAbs % 60)

/-- The time of day; microseconds are left out if there are none. -/
def timeText (m : Moment) : Text :=
  twoDigits m.hour ++ ':' :: twoDigits m.minute ++ ':' :: twoDigits m.second ++
    if m.microsecond = 0 then [] else '.' :: sixDigits m.microsecond

def text (m : Moment) : Text :=
  m.date.iso ++ ' ' :: m.timeText ++
    match m.zone with
    | some lead => zoneText lead
    | none => []

end Moment

/-- The number of a day, counted from the first day of the year 1. -/
def Date.dayNumber (d : Date) : Nat :=
  let years := d.year - 1
  let days := 365 * years + years / 4 + years / 400 - years / 100
  let months := (List.range (d.month - 1)).foldl (fun n m => n + daysInMonth d.year (m + 1)) 0
  days + months + d.day

/-- The microseconds that a clock of the zone has counted. -/
def Moment.clock (m : Moment) : Int :=
  (((m.date.dayNumber * 24 + m.hour) * 60 + m.minute) * 60 + m.second : Nat) * 1000000 +
    m.microsecond

end SqlSnippet
