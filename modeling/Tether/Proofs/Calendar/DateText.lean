import Mathlib.Tactic.IntervalCases
import Tether.Calendar.DateText
import Tether.Proofs.Calendar.Instant
import Tether.Proofs.Text.Digits

/-!
# Tether.Proofs.Calendar.DateText — a date is read as the instant it was written for

A date of the years 0 to 9999 is written as fifteen characters: digits, fourteen of them, and the letter T.  None
of them is a blank, so nothing is trimmed; every number in the date fills its width, so each field is read off
without a look at the next one (`digits_fixed`), and nothing is left over for tenths or for an offset.  What is
read is the instant itself, as long as it is at a whole second (`parse_format`).
-/

namespace Tether.Calendar.DateText

open Tether.Text

/-! ## Numbers of a fixed width -/

/-- The last `w` decimal digits of a number. -/
def fixed : Nat → Nat → List Char
  | 0, _ => []
  | w + 1, n => fixed w (n / 10) ++ [(n % 10).digitChar]

theorem fixed_zero (w : Nat) : fixed w 0 = List.replicate w '0' := by
  induction w with
  | zero => rfl
  | succ w ih =>
    have hlast : fixed (w + 1) 0 = fixed w 0 ++ ['0'] := rfl
    rw [hlast, ih, List.replicate_succ']

theorem length_fixed (w n : Nat) : (fixed w n).length = w := by
  induction w generalizing n with
  | zero => rfl
  | succ w ih => rw [fixed, List.length_append, ih, List.length_singleton]

/-- The digits of a number with zeros before them are those of its field. -/
theorem replicate_append_toDigits {w n : Nat} (hw : 0 < w) (hn : n < 10 ^ w) :
    List.replicate (w - (Nat.toDigits 10 n).length) '0' ++ Nat.toDigits 10 n = fixed w n := by
  induction w generalizing n with
  | zero => omega
  | succ w ih =>
    rw [Nat.toDigits_eq_if (by omega)]
    split
    · rename_i hsmall
      have hdiv : n / 10 = 0 := by omega
      have hmod : n % 10 = n := by omega
      rw [fixed, hdiv, hmod, fixed_zero, List.length_singleton, Nat.add_sub_cancel]
    · rename_i hlarge
      have hpos : 0 < w := by
        rcases w with _ | w
        · simp at hn
          omega
        · omega
      have hdiv : n / 10 < 10 ^ w := by
        rw [Nat.pow_succ] at hn
        omega
      rw [fixed, List.length_append, List.length_singleton, Nat.add_sub_add_right, ← List.append_assoc,
        ih hpos hdiv]

theorem toList_decimal {w n : Nat} (hw : 0 < w) (hn : n < 10 ^ w) : (decimal w n).toList = fixed w n := by
  have hlength : (natural n).length = (Nat.toDigits 10 n).length := by
    rw [natural, ← String.length_toList, String.toList_ofList]
  rw [decimal, padZero, String.toList_append, String.toList_ofList, hlength, natural, String.toList_ofList]
  exact replicate_append_toDigits hw hn

/-- A field of a number holds digits only. -/
theorem exists_digit_of_mem_fixed {w n : Nat} {c : Char} (h : c ∈ fixed w n) : ∃ d < 10, c = d.digitChar := by
  induction w generalizing n with
  | zero => simp [fixed] at h
  | succ w ih =>
    rw [fixed, List.mem_append, List.mem_singleton] at h
    rcases h with h | h
    · exact ih h
    · exact ⟨n % 10, by omega, h⟩

/-- A field that is not empty begins with a digit. -/
theorem exists_fixed_eq_cons (w n : Nat) : ∃ d < 10, ∃ cs, fixed (w + 1) n = d.digitChar :: cs := by
  induction w generalizing n with
  | zero => exact ⟨n % 10, by omega, [], rfl⟩
  | succ w ih =>
    obtain ⟨d, hd, cs, h⟩ := ih (n / 10)
    exact ⟨d, hd, cs ++ [(n % 10).digitChar], by rw [fixed, h, List.cons_append]⟩

/-! ## Reading a field -/

theorem digits_width_zero (n : Nat) (cs : List Char) : digits 0 n cs = (n, cs) := by
  cases cs <;> rfl

theorem digits_digitChar (w n : Nat) {d : Nat} (h : d < 10) (cs : List Char) :
    digits (w + 1) n (d.digitChar :: cs) = digits w (10 * n + d) cs := by
  conv_lhs => unfold digits
  rw [digit?_digitChar h]

/-- A field is read on after a number, and what is behind it is read on after that. -/
theorem digits_fixed (w v k n : Nat) (rest : List Char) (hn : n < 10 ^ w) :
    digits (w + v) k (fixed w n ++ rest) = digits v (k * 10 ^ w + n) rest := by
  induction w generalizing n v rest with
  | zero =>
    have hzero : n = 0 := by simpa using hn
    simp [fixed, hzero]
  | succ w ih =>
    have hdiv : n / 10 < 10 ^ w := by
      rw [Nat.pow_succ] at hn
      omega
    have hwidth : w + 1 + v = w + (v + 1) := by omega
    have hvalue : 10 * (k * 10 ^ w + n / 10) + n % 10 = k * 10 ^ (w + 1) + n := by
      rw [Nat.pow_succ, Nat.mul_add, ← Nat.mul_assoc, Nat.mul_comm 10 k, Nat.mul_assoc, Nat.mul_comm 10 (10 ^ w)]
      omega
    rw [fixed, List.append_assoc, List.singleton_append, hwidth, ih (v + 1) (n / 10) _ hdiv,
      digits_digitChar v _ (by omega), hvalue]

theorem number_fixed {w n : Nat} (hn : n < 10 ^ (w + 1)) (rest : List Char) :
    number (w + 1) (fixed (w + 1) n ++ rest) = some (n, rest) := by
  have hdigits := digits_fixed (w + 1) 0 0 n rest hn
  rw [Nat.add_zero, digits_width_zero, Nat.zero_mul, Nat.zero_add] at hdigits
  obtain ⟨d, hd, cs, hcs⟩ := exists_fixed_eq_cons w n
  rw [hcs, List.cons_append] at hdigits ⊢
  rw [number, digit?_digitChar hd, Option.isSome_some, if_pos rfl, hdigits]

theorem isBlank_digitChar {d : Nat} (h : d < 10) : isBlank d.digitChar = false := by
  interval_cases d <;> decide

theorem trimStart_fixed (w n : Nat) (rest : List Char) :
    trimStart (fixed (w + 1) n ++ rest) = fixed (w + 1) n ++ rest := by
  obtain ⟨d, hd, cs, hcs⟩ := exists_fixed_eq_cons w n
  rw [hcs, List.cons_append, trimStart, List.dropWhile_cons_of_neg]
  rw [isBlank_digitChar hd]
  decide

theorem twoDigits_fixed {n : Nat} (hn : n < 100) (rest : List Char) :
    twoDigits (fixed 2 n ++ rest) = some (n, rest) := by
  rw [twoDigits, trimStart_fixed 1 n rest]
  exact number_fixed hn rest

theorem year_fixed {n : Nat} (hn : n < 10000) (rest : List Char) :
    year (fixed 4 n ++ rest) = some ((n : Int), rest) := by
  have hnumber := number_fixed (w := 3) hn rest
  obtain ⟨d, hd, cs, hcs⟩ := exists_fixed_eq_cons 3 n
  have hminus : d.digitChar ≠ '-' := by interval_cases d <;> decide
  have hplus : d.digitChar ≠ '+' := by interval_cases d <;> decide
  rw [year, trimStart_fixed 3 n rest]
  rw [hcs, List.cons_append] at hnumber ⊢
  split
  · rename_i h
    exact absurd (List.cons.inj h).1 hminus
  · rename_i h
    exact absurd (List.cons.inj h).1 hplus
  · rw [hnumber]
    rfl

/-! ## Dates -/

/-- The characters of a date and a time with two digits for each number and four for the year. -/
def numerals (year month day hour minute second : Nat) : List Char :=
  fixed 4 year ++ (fixed 2 month ++ (fixed 2 day ++ 'T' :: (fixed 2 hour ++ (fixed 2 minute ++ fixed 2 second))))

/-- The characters of an instant that is written with four digits for its year. -/
theorem toList_format {t : Instant} (h₀ : 0 ≤ t.date.year) (h₁ : t.date.year ≤ 9999) :
    (format t).toList = numerals t.date.year.toNat t.date.month t.date.day (t.minute.val / 60) (t.minute.val % 60)
      t.second.val := by
  have hmonth := t.date.valid.2.1
  have hday := t.date.day_le
  have hminute := t.minute.isLt
  have hsecond := t.second.isLt
  have hyear : yearText t.date.year = decimal 4 t.date.year.toNat := if_pos ⟨h₀, h₁⟩
  rw [format, hyear]
  simp only [String.toList_append]
  rw [toList_decimal (by omega) (by omega), toList_decimal (by omega) (by omega),
    toList_decimal (by omega) (by omega), toList_decimal (by omega) (by omega),
    toList_decimal (by omega) (by omega), toList_decimal (by omega) (by omega)]
  simp [numerals]

/-- A written date holds digits and one letter. -/
theorem mem_format {t : Instant} (h₀ : 0 ≤ t.date.year) (h₁ : t.date.year ≤ 9999) {c : Char}
    (h : c ∈ (format t).toList) : c = 'T' ∨ ∃ d < 10, c = d.digitChar := by
  rw [toList_format h₀ h₁, numerals] at h
  simp only [List.mem_append, List.mem_cons] at h
  rcases h with h | h | h | h | h | h | h
  · exact .inr (exists_digit_of_mem_fixed h)
  · exact .inr (exists_digit_of_mem_fixed h)
  · exact .inr (exists_digit_of_mem_fixed h)
  · exact .inl h
  · exact .inr (exists_digit_of_mem_fixed h)
  · exact .inr (exists_digit_of_mem_fixed h)
  · exact .inr (exists_digit_of_mem_fixed h)

theorem length_format {t : Instant} (h₀ : 0 ≤ t.date.year) (h₁ : t.date.year ≤ 9999) :
    (format t).toList.length = 15 := by
  rw [toList_format h₀ h₁, numerals]
  simp [length_fixed]

/-- What is said of the letter and of every digit is said of all characters of a written date. -/
theorem forall_mem_format {P : Char → Prop} {t : Instant} (h₀ : 0 ≤ t.date.year) (h₁ : t.date.year ≤ 9999)
    (hletter : P 'T') (hdigit : ∀ d < 10, P d.digitChar) : ∀ c ∈ (format t).toList, P c := by
  intro c hc
  rcases mem_format h₀ h₁ hc with rfl | ⟨d, hd, rfl⟩
  · exact hletter
  · exact hdigit d hd

/-- A text is split behind a front of its own. -/
theorem splitBytes_append {n : Nat} {a b : List Char} (h : (a.map Char.utf8Size).sum = n) :
    splitBytes n (a ++ b) = some (a, b) := by
  induction a generalizing n with
  | nil =>
    obtain rfl : 0 = n := h
    rw [List.nil_append, splitBytes]
  | cons c a ih =>
    have hpos := c.utf8Size_pos
    rw [List.map_cons, List.sum_cons] at h
    obtain ⟨m, rfl⟩ : ∃ m, n = m + 1 := ⟨n - 1, by omega⟩
    have hrest : splitBytes (m + 1 - c.utf8Size) (a ++ b) = some (a, b) := ih (by omega)
    rw [List.cons_append, splitBytes, if_pos (by omega), hrest]
    rfl

/-- A text of as many characters as bytes has nothing behind its last byte. -/
theorem splitBytes_of_forall {cs : List Char} (h : ∀ c ∈ cs, c.utf8Size = 1) :
    splitBytes cs.length cs = some (cs, []) := by
  have hsum : (cs.map Char.utf8Size).sum = cs.length := by
    rw [List.map_congr_left h, List.map_const', List.sum_replicate_nat, Nat.mul_one]
  have hsplit : splitBytes cs.length (cs ++ []) = some (cs, []) := splitBytes_append hsum
  rwa [List.append_nil] at hsplit

theorem minusMinutes_zero (t : Instant) : t.minusMinutes 0 = t := by
  have hminute := t.minute.isLt
  have hmod : ((t.minute.val : Int) % 1440).toNat = t.minute.val := by omega
  have hfin : Fin.ofNat 1440 t.minute.val = t.minute := Fin.ext (Nat.mod_eq_of_lt hminute)
  unfold Instant.minusMinutes
  dsimp only
  rw [Int.sub_zero, if_neg (by omega), if_neg (by omega), hmod, hfin]

/-- The instant is at this second of universal time. -/
structure Shows (t : Instant) (year month day hour minute second : Nat) : Prop where
  year : t.date.year = year
  month : t.date.month = month
  day : t.date.day = day
  hour_lt : hour < 24
  minute_lt : minute < 60
  ofDay : t.minute.val = hour * 60 + minute
  second : t.second.val = second
  whole : t.nanosecond = Instant.noFraction

/-- Digits are read off their fields: as the day that they tell, if there is one, and as a time of day. -/
theorem base_numerals_eq_some_iff {year month day hour minute second : Nat} {t : Instant} (hyear : year < 10000)
    (hmonth : month < 100) (hday : day < 100) (hhour : hour < 100) (hminute : minute < 100)
    (hsecond : second < 100) :
    base (numerals year month day hour minute second) = some t ↔ Shows t year month day hour minute second := by
  have hlast : twoDigits (fixed 2 second) = some (second, []) := by
    have h := twoDigits_fixed hsecond []
    rwa [List.append_nil] at h
  unfold base numerals
  simp only [Option.bind_eq_bind, year_fixed hyear, twoDigits_fixed hmonth, twoDigits_fixed hday, separator,
    twoDigits_fixed hhour, twoDigits_fixed hminute, hlast, Option.bind_some, Option.bind_eq_some_iff]
  constructor
  · rintro ⟨date, hdate, h⟩
    obtain ⟨hy, hm, hd⟩ := Date.of?_eq_some_iff.mp hdate
    split at h
    · rename_i htime
      obtain rfl := Option.some.inj h
      exact ⟨hy, hm, hd, htime.1, htime.2.1, rfl, rfl, rfl⟩
    · cases h
  · rintro ⟨hy, hm, hd, hh, hmin, hminute, hsec, hnano⟩
    have hlt := t.second.isLt
    refine ⟨t.date, Date.of?_eq_some_iff.mpr ⟨hy, hm, hd⟩, ?_⟩
    rw [dif_pos ⟨hh, hmin, hsec ▸ hlt, trivial⟩]
    refine congrArg some ?_
    obtain ⟨date, minute', second', nanosecond⟩ := t
    obtain rfl : nanosecond = Instant.noFraction := hnano
    simp only [Instant.mk.injEq, Fin.ext_iff, true_and, and_true]
    exact ⟨hminute.symm, hsec.symm⟩

/-- The digits of a second that there is are read as that second. -/
theorem base_of_shows {t : Instant} {year month day hour minute second : Nat} (hyear : year < 10000)
    (h : Shows t year month day hour minute second) :
    base (numerals year month day hour minute second) = some t := by
  have hmonth := t.date.valid.2.1
  have hday := t.date.day_le
  have hsecond := t.second.isLt
  rw [h.month] at hmonth
  rw [h.day] at hday
  rw [h.second] at hsecond
  have hhour := h.hour_lt
  have hminute := h.minute_lt
  exact (base_numerals_eq_some_iff hyear (by omega) (by omega) (by omega) (by omega) (by omega)).mpr h

/-- Date and time of day are read off what is written for them. -/
theorem base_format {t : Instant} (h₀ : 0 ≤ t.date.year) (h₁ : t.date.year ≤ 9999)
    (hwhole : t.nanosecond = Instant.noFraction) : base (format t).toList = some t := by
  have hminute := t.minute.isLt
  have hfields : t.minute.val = t.minute.val / 60 * 60 + t.minute.val % 60 := by omega
  rw [toList_format h₀ h₁]
  exact base_of_shows (by omega)
    ⟨(Int.toNat_of_nonneg h₀).symm, rfl, rfl, by omega, by omega, hfields, rfl, hwhole⟩

/-- A date of the years 0 to 9999 is read as the whole second that it was written for. -/
theorem parse_format {t : Instant} (h₀ : 0 ≤ t.date.year) (h₁ : t.date.year ≤ 9999)
    (hwhole : t.nanosecond = Instant.noFraction) : parse (format t) = some t := by
  have hblank : ∀ c ∈ (format t).toList, isBlank c = false :=
    forall_mem_format h₀ h₁ (by decide) fun d hd => isBlank_digitChar hd
  have hbyte : ∀ c ∈ (format t).toList, c.utf8Size = 1 :=
    forall_mem_format h₀ h₁ (by decide) fun d hd => by interval_cases d <;> decide
  have hsplit := splitBytes_of_forall hbyte
  rw [length_format h₀ h₁] at hsplit
  unfold parse
  rw [trim_of_forall hblank, hsplit]
  simp only [Option.bind_eq_bind, Option.bind_some, base_format h₀ h₁ hwhole, skipTenths, zone, minusMinutes_zero]

end Tether.Calendar.DateText
