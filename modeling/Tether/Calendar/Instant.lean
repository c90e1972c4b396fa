import Tether.Calendar.Date

/-!
# Tether.Calendar.Instant — moments in universal time

An instant is a date and a time of day in universal time.  The second 60 is a leap second; a clock may also
report fractions of a second.  Instants are compared by their `stamp`, the full second and the fraction in it,
where a leap second counts as a second fraction of second 59.
-/

namespace Tether.Calendar

/-- A moment in universal time. -/
structure Instant where
  /-- The day. -/
  date : Date
  /-- Minute of the day. -/
  minute : Fin 1440
  /-- Second of the minute; 60 is a leap second. -/
  second : Fin 61
  /-- Fraction of the second. -/
  nanosecond : Fin 1000000000
deriving DecidableEq

/-- A full second along the calendar and the nanoseconds after it. -/
structure Stamp where
  /-- Full seconds since the start of day 0. -/
  seconds : Int
  /-- Nanoseconds after them; 10^9 and more within a leap second. -/
  nanoseconds : Nat
deriving DecidableEq

/-- Earlier: by the seconds, and within one second by the fraction. -/
def Stamp.before (a b : Stamp) : Bool :=
  a.seconds < b.seconds || (a.seconds == b.seconds && a.nanoseconds < b.nanoseconds)

namespace Instant

/-- The place of an instant along the calendar. -/
def stamp (t : Instant) : Stamp where
  seconds := t.date.ordinal * 86400 + (t.minute.val * 60 + min t.second.val 59 : Nat)
  nanoseconds := t.nanosecond.val + (if t.second.val = 60 then 1000000000 else 0)

/-- The fraction of a full second. -/
def noFraction : Fin 1000000000 := 0

/-- The same second without its fraction. -/
def wholeSecond (t : Instant) : Instant :=
  { t with nanosecond := noFraction }

/-- The instant `minutes` earlier, for less than a day in either direction. -/
def minusMinutes (t : Instant) (minutes : Int) : Instant :=
  let m := (t.minute.val : Int) - minutes
  let minute : Fin 1440 := Fin.ofNat 1440 (m % 1440).toNat
  if m < 0 then { t with date := t.date.previous, minute }
  else if 1440 ≤ m then { t with date := t.date.next, minute }
  else { t with minute }

/-- The first day that clocks are able to show: 1 January of the year -262143. -/
def firstDay : Date :=
  ⟨-262143, 1, 1, by decide⟩

end Instant

/-- The longest window that can be taken off an instant, in seconds: 2^63 milliseconds, less one. -/
def longestWindow : Nat := 9223372036854775

/-- The end of a window that reaches back from some instant. -/
inductive Cutoff where
  /-- The window is longer than any that can be taken off an instant. -/
  | unbounded
  /-- The window reaches back before the first day that clocks are able to show. -/
  | beforeCalendar
  /-- The window starts here. -/
  | opens (start : Stamp)
deriving DecidableEq

/-- Where a window of `seconds` that ends at `now` starts.  Going back from within a leap second leaves it. -/
def Cutoff.back (now : Instant) (seconds : Nat) : Cutoff :=
  if longestWindow < seconds then .unbounded
  else
    let s := now.stamp
    let start : Stamp :=
      if 1000000000 ≤ s.nanoseconds ∧ 0 < seconds then ⟨s.seconds + 1 - seconds, s.nanoseconds - 1000000000⟩
      else ⟨s.seconds - seconds, s.nanoseconds⟩
    if start.seconds < Instant.firstDay.ordinal * 86400 then .beforeCalendar else .opens start

end Tether.Calendar
