/-!
# Tether.Calendar.Date — days of the Gregorian calendar

A date is a year, a month and a day that the month has; years run without end in both directions and year 0 is
the year before year 1.  `next` and `previous` step by one day, `ordinal` counts days along the calendar.
-/

namespace Tether.Calendar

/-- Every fourth year, of the full hundreds only every fourth. -/
def isLeapYear (year : Int) : Bool :=
  year % 4 = 0 ∧ (year % 100 ≠ 0 ∨ year % 400 = 0)

/-- Days of a month; 0 for a number that is no month. -/
def daysIn (year : Int) (month : Nat) : Nat :=
  match month with
  | 1 => 31
  | 2 => if isLeapYear year then 29 else 28
  | 3 => 31
  | 4 => 30
  | 5 => 31
  | 6 => 30
  | 7 => 31
  | 8 => 31
  | 9 => 30
  | 10 => 31
  | 11 => 30
  | 12 => 31
  | _ => 0

/-- A day of the calendar. -/
structure Date where
  /-- Counted through zero into the negative. -/
  year : Int
  /-- 1 to 12. -/
  month : Nat
  /-- 1 up to the length of the month. -/
  day : Nat
  /-- The month has such a day. -/
  valid : 1 ≤ month ∧ month ≤ 12 ∧ 1 ≤ day ∧ day ≤ daysIn year month
deriving DecidableEq

namespace Date

/-- The date with these numbers, if there is such a day. -/
def of? (year : Int) (month day : Nat) : Option Date :=
  if h : 1 ≤ month ∧ month ≤ 12 ∧ 1 ≤ day ∧ day ≤ daysIn year month then some ⟨year, month, day, h⟩ else none

theorem one_le_daysIn (year : Int) {month : Nat} (h₁ : 1 ≤ month) (h₂ : month ≤ 12) : 1 ≤ daysIn year month := by
  have : month = 1 ∨ month = 2 ∨ month = 3 ∨ month = 4 ∨ month = 5 ∨ month = 6 ∨ month = 7 ∨ month = 8 ∨
      month = 9 ∨ month = 10 ∨ month = 11 ∨ month = 12 := by omega
  rcases this with rfl | rfl | rfl | rfl | rfl | rfl | rfl | rfl | rfl | rfl | rfl | rfl <;> simp only [daysIn]
  all_goals try split
  all_goals decide

/-- The day after. -/
def next (d : Date) : Date :=
  if h : d.day < daysIn d.year d.month then
    ⟨d.year, d.month, d.day + 1, d.valid.1, d.valid.2.1, Nat.le_add_left 1 d.day, h⟩
  else if h : d.month < 12 then
    ⟨d.year, d.month + 1, 1, Nat.le_add_left 1 d.month, h, Nat.le_refl 1,
      one_le_daysIn _ (Nat.le_add_left 1 d.month) h⟩
  else ⟨d.year + 1, 1, 1, by decide, by decide, by decide, by simp [daysIn]⟩

/-- The day before. -/
def previous (d : Date) : Date :=
  if h : 1 < d.day then
    ⟨d.year, d.month, d.day - 1, d.valid.1, d.valid.2.1, Nat.le_sub_one_of_lt h,
      Nat.le_trans (Nat.sub_le _ _) d.valid.2.2.2⟩
  else if h : 1 < d.month then
    ⟨d.year, d.month - 1, daysIn d.year (d.month - 1), Nat.le_sub_one_of_lt h,
      Nat.le_trans (Nat.sub_le _ _) d.valid.2.1,
      one_le_daysIn _ (Nat.le_sub_one_of_lt h) (Nat.le_trans (Nat.sub_le _ _) d.valid.2.1), Nat.le_refl _⟩
  else ⟨d.year - 1, 12, 31, by decide, by decide, by decide, by simp [daysIn]⟩

/-- Days of the year before the first of a month. -/
def daysBefore (year : Int) : Nat → Nat
  | 0 => 0
  | month + 1 => daysBefore year month + daysIn year month

/-- Number of the day along the calendar; 1 January of year 1 is day 1. -/
def ordinal (d : Date) : Int :=
  let y := d.year - 1
  365 * y + y / 4 - y / 100 + y / 400 + (daysBefore d.year d.month : Int) + (d.day : Int)

end Date

end Tether.Calendar
