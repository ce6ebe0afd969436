/-!
# Days and times

Days of the calendar and times on them. A time can be given together with how far its zone is ahead
of the common one, and then two times are the same if they are the same moment.
-/

namespace LiteralMarkdown

/-- A day of the calendar. -/
structure Day where
  year : Nat
  month : Nat
  day : Nat
deriving DecidableEq, Repr

namespace Day

/-- Whether a year has a day more than others. -/
def isLeapYear (year : Nat) : Bool := year % 4 == 0 && (year % 100 != 0 || year % 400 == 0)

/-- The number of days of a month. -/
def daysIn (year month : Nat) : Nat :=
  if month = 2 then (if isLeapYear year then 29 else 28)
  else if [4, 6, 9, 11].contains month then 30
  else 31

/-- Whether there is such a day. Years have four digits and begin with the first. -/
def exists? (d : Day) : Bool :=
  1 ≤ d.year && d.year ≤ 9999 && 1 ≤ d.month && d.month ≤ 12 && 1 ≤ d.day &&
    d.day ≤ daysIn d.year d.month

/-- The number of days up to a day, from the first day of the first year on. -/
def ordinal (d : Day) : Nat :=
  let years := d.year - 1
  let months := (List.range (d.month - 1)).foldl (fun n month => n + daysIn d.year (month + 1)) 0
  years * 365 + years / 4 - years / 100 + years / 400 + months + d.day

end Day

/-- A time on a day, and how many minutes its zone is ahead of the common one, if that is given. -/
structure Moment where
  day : Day
  hour : Nat
  minute : Nat
  second : Nat
  microsecond : Nat
  offset : Option Int
deriving DecidableEq, Repr

namespace Moment

/-- Whether there is such a time. A zone is less than a day ahead or behind. -/
def exists? (t : Moment) : Bool :=
  t.day.exists? && t.hour < 24 && t.minute < 60 && t.second < 60 && t.microsecond < 1000000 &&
    t.offset.all fun minutes => minutes.natAbs < 24 * 60

/-- The number of seconds up to a time, as the common zone counts them. -/
def commonSecond (t : Moment) : Int :=
  (((t.day.ordinal * 24 + t.hour) * 60 + t.minute : Nat) - t.offset.getD 0) * 60 + t.second

/-- Whether two times are the same: the same moment if both zones are given, and the same time on
the same day if none is. -/
def same (t u : Moment) : Bool :=
  t.offset.isSome == u.offset.isSome && t.commonSecond == u.commonSecond &&
    t.microsecond == u.microsecond

end Moment

end LiteralMarkdown
