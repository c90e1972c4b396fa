import Tether.Calendar.Instant

/-!
# Tether.Proofs.Calendar.Instant — steps along the calendar

The day after has the next number along the calendar and the day before the one before (`Date.ordinal_next`,
`Date.ordinal_previous`), over the ends of months and years and over leap days, and no two days have one number
(`Date.ordinal_injective`).  So the instant that comes some minutes before another one, at the same second of its
minute, is the one that going back by these minutes leads to (`Instant.earlier_iff`).
-/

namespace Tether.Calendar

namespace Date

theorem of?_eq_some_iff {year : Int} {month day : Nat} {d : Date} :
    of? year month day = some d ↔ d.year = year ∧ d.month = month ∧ d.day = day := by
  unfold of?
  constructor
  · intro h
    split at h
    · obtain rfl := Option.some.inj h
      exact ⟨rfl, rfl, rfl⟩
    · cases h
  · rintro ⟨rfl, rfl, rfl⟩
    exact dif_pos d.valid

theorem day_le (d : Date) : d.day ≤ 31 := by
  refine Nat.le_trans d.valid.2.2.2 ?_
  unfold daysIn
  split
  -- only February is not of one length
  case h_2 => split <;> decide
  all_goals decide

/-- Days of a year. -/
theorem daysBefore_thirteen (year : Int) : daysBefore year 13 = if isLeapYear year then 366 else 365 := by
  simp only [daysBefore, daysIn]
  split <;> rfl

/-- The first of January is as many days along the calendar as the years before have. -/
theorem yearDays (year : Int) :
    365 * year + year / 4 - year / 100 + year / 400 =
      365 * (year - 1) + (year - 1) / 4 - (year - 1) / 100 + (year - 1) / 400 + (daysBefore year 13 : Int) := by
  rw [daysBefore_thirteen]
  split
  · rename_i hleap
    simp only [isLeapYear, decide_eq_true_eq] at hleap
    omega
  · rename_i hleap
    simp only [isLeapYear, decide_eq_true_eq] at hleap
    omega

theorem daysBefore_succ (year : Int) (month : Nat) :
    daysBefore year (month + 1) = daysBefore year month + daysIn year month := rfl

theorem daysBefore_one (year : Int) : daysBefore year 1 = 0 := rfl

/-- The day after has the next number. -/
theorem ordinal_next (d : Date) : d.next.ordinal = d.ordinal + 1 := by
  obtain ⟨year, month, day, hvalid⟩ := d
  unfold next
  dsimp only
  split
  · simp only [ordinal]
    omega
  · rename_i hlast
    have hday : day = daysIn year month := Nat.le_antisymm hvalid.2.2.2 (Nat.le_of_not_lt hlast)
    split
    · -- the first of the month after
      simp only [ordinal, daysBefore_succ]
      omega
    · rename_i hdecember
      obtain rfl : month = 12 := Nat.le_antisymm hvalid.2.1 (Nat.le_of_not_lt hdecember)
      have hyear := yearDays year
      have hsum : daysBefore year 13 = daysBefore year 12 + 31 := rfl
      have hlength : daysIn year 12 = 31 := rfl
      simp only [ordinal, daysBefore_one, Int.add_sub_cancel]
      omega

/-- The day before has the number before. -/
theorem ordinal_previous (d : Date) : d.previous.ordinal = d.ordinal - 1 := by
  obtain ⟨year, month, day, hvalid⟩ := d
  unfold previous
  dsimp only
  split
  · simp only [ordinal]
    omega
  · rename_i hfirst
    have hday : day = 1 := Nat.le_antisymm (Nat.le_of_not_lt hfirst) hvalid.2.2.1
    split
    · -- the last of the month before
      rename_i hmonth
      obtain ⟨before, rfl⟩ : ∃ before, month = before + 1 := ⟨month - 1, by omega⟩
      simp only [ordinal, Nat.add_sub_cancel, daysBefore_succ]
      omega
    · rename_i hjanuary
      obtain rfl : month = 1 := Nat.le_antisymm (Nat.le_of_not_lt hjanuary) hvalid.1
      have hyear := yearDays (year - 1)
      have hsum : daysBefore (year - 1) 13 = daysBefore (year - 1) 12 + 31 := rfl
      simp only [ordinal, daysBefore_one]
      omega

theorem daysBefore_mono (year : Int) {month month' : Nat} (h : month ≤ month') :
    daysBefore year month ≤ daysBefore year month' := by
  induction h with
  | refl => exact Nat.le_refl _
  | step _ ih => exact Nat.le_trans ih (Nat.le_add_right _ _)

/-- A day of a year comes before every day of a later one. -/
theorem ordinal_lt_of_year {d d' : Date} (h : d.year < d'.year) : d.ordinal < d'.ordinal := by
  have hyear := yearDays d.year
  have hend : daysBefore d.year d.month + daysIn d.year d.month ≤ daysBefore d.year 13 :=
    daysBefore_mono d.year (Nat.succ_le_succ d.valid.2.1)
  have hday := d.valid.2.2.2
  have hday' := d'.valid.2.2.1
  simp only [ordinal]
  omega

/-- A day of a month comes before every day of a later one of the same year. -/
theorem ordinal_lt_of_month {d d' : Date} (hyear : d.year = d'.year) (h : d.month < d'.month) :
    d.ordinal < d'.ordinal := by
  have hend : daysBefore d.year d.month + daysIn d.year d.month ≤ daysBefore d.year d'.month :=
    daysBefore_mono d.year h
  have hday := d.valid.2.2.2
  have hday' := d'.valid.2.2.1
  simp only [ordinal, ← hyear]
  omega

/-- No two days have one number. -/
theorem ordinal_injective {d d' : Date} (h : d.ordinal = d'.ordinal) : d = d' := by
  have hyear : d.year = d'.year := by
    rcases Int.lt_trichotomy d.year d'.year with hlt | heq | hlt
    · exact absurd h (Int.ne_of_lt (ordinal_lt_of_year hlt))
    · exact heq
    · exact absurd h.symm (Int.ne_of_lt (ordinal_lt_of_year hlt))
  have hmonth : d.month = d'.month := by
    rcases Nat.lt_trichotomy d.month d'.month with hlt | heq | hlt
    · exact absurd h (Int.ne_of_lt (ordinal_lt_of_month hyear hlt))
    · exact heq
    · exact absurd h.symm (Int.ne_of_lt (ordinal_lt_of_month hyear.symm hlt))
  have hday : d.day = d'.day := by
    simp only [ordinal, hyear, hmonth] at h
    omega
  obtain ⟨year, month, day, hvalid⟩ := d
  obtain ⟨year', month', day', hvalid'⟩ := d'
  subst hyear hmonth hday
  rfl

end Date

namespace Instant

/-- One instant comes so many minutes before another one, at the same second of its minute. -/
structure Earlier (there : Instant) (minutes : Int) (t : Instant) : Prop where
  seconds : t.stamp.seconds = there.stamp.seconds - 60 * minutes
  second : t.second = there.second
  nanosecond : t.nanosecond = there.nanosecond

theorem eq_of_seconds {t t' : Instant} (h : t.stamp.seconds = t'.stamp.seconds) (hs : t.second = t'.second)
    (hn : t.nanosecond = t'.nanosecond) : t = t' := by
  obtain ⟨date, minute, second, nanosecond⟩ := t
  obtain ⟨date', minute', second', nanosecond'⟩ := t'
  dsimp only at hs hn
  subst hs hn
  simp only [stamp] at h
  have hminute := minute.isLt
  have hminute' := minute'.isLt
  obtain rfl : date = date' := Date.ordinal_injective (by omega)
  obtain rfl : minute = minute' := Fin.ext (by omega)
  rfl

/-- Going back by less than a day leads so many minutes back. -/
theorem earlier_minusMinutes (t : Instant) {minutes : Int} (hlow : -1440 < minutes) (hhigh : minutes < 1440) :
    Earlier t minutes (t.minusMinutes minutes) := by
  have hminute := t.minute.isLt
  have hmod : ∀ m : Int, (Fin.ofNat 1440 (m % 1440).toNat).val = (m % 1440).toNat := by
    intro m
    have hlt : (m % 1440).toNat < 1440 := by omega
    exact Nat.mod_eq_of_lt hlt
  unfold minusMinutes
  dsimp only
  split
  · refine ⟨?_, rfl, rfl⟩
    simp only [stamp, Date.ordinal_previous, hmod]
    omega
  · split
    · refine ⟨?_, rfl, rfl⟩
      simp only [stamp, Date.ordinal_next, hmod]
      omega
    · refine ⟨?_, rfl, rfl⟩
      simp only [stamp, hmod]
      omega

theorem earlier_iff {there t : Instant} {minutes : Int} (hlow : -1440 < minutes) (hhigh : minutes < 1440) :
    Earlier there minutes t ↔ t = there.minusMinutes minutes := by
  have hback := earlier_minusMinutes there hlow hhigh
  constructor
  · intro h
    exact eq_of_seconds (h.seconds.trans hback.seconds.symm) (h.second.trans hback.second.symm)
      (h.nanosecond.trans hback.nanosecond.symm)
  · rintro rfl
    exact hback

end Instant

end Tether.Calendar
