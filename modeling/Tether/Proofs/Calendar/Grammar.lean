import Tether.Proofs.Calendar.DateText
import Tether.Proofs.Calendar.Instant

/-!
# Tether.Proofs.Calendar.Grammar — which texts are dates, and of which instants

A text is a date when, without the blanks around it, it is fifteen bytes of date and time, tenths of a second or
none, and a zone: nothing, `Z`, or a sign with four digits for less than a day (`Denotes Zone`).  The reader also
takes texts in which a sign stands for the first of the two digits of the hours or of the minutes (`SignedZone`),
and no others: it reads exactly the dates where that is not so (`parse_denotes`).

Every part of a text ends where the next one begins, because a zone begins neither with a digit nor with a point.
-/

namespace Tether.Calendar.DateText

open Tether.Text

/-! ## The parts of a date -/

/-- A point with any number of digits behind it, or nothing. -/
inductive Tenths : List Char → Prop
  | none : Tenths []
  | point {ds : List Char} : (∀ d ∈ ds, (digit? d).isSome = true) → Tenths ('.' :: ds)

/-- Two digits and their number. -/
inductive Pair : Char → Char → Int → Prop
  | digits {c d : Char} {m n : Nat} : digit? c = some m → digit? d = some n → Pair c d ((10 * m + n : Nat) : Int)

/-- A digit behind a sign and their number. -/
inductive SignedPair : Char → Char → Int → Prop
  | plus {d : Char} {n : Nat} : digit? d = some n → SignedPair '+' d (n : Int)
  | minus {d : Char} {n : Nat} : digit? d = some n → SignedPair '-' d (-(n : Int))

/-- A sign and its factor. -/
inductive Sign : Char → Int → Prop
  | plus : Sign '+' 1
  | minus : Sign '-' (-1)

/-- The end of a date and its offset from universal time, in minutes. -/
inductive Zone : List Char → Int → Prop
  | none : Zone [] 0
  | utc : Zone ['Z'] 0
  | offset {sign h₁ h₂ m₁ m₂ : Char} {factor hours minutes : Int} : Sign sign factor → Pair h₁ h₂ hours →
      Pair m₁ m₂ minutes → hours * 60 + minutes < 1440 →
      Zone [sign, h₁, h₂, m₁, m₂] (factor * (hours * 60 + minutes))

/-- The end of a text in which a sign stands for a digit of the offset, and the offset that is read. -/
inductive SignedZone : List Char → Int → Prop
  | offset {sign h₁ h₂ m₁ m₂ : Char} {factor hours minutes : Int} : Sign sign factor →
      (SignedPair h₁ h₂ hours ∧ (Pair m₁ m₂ minutes ∨ SignedPair m₁ m₂ minutes) ∨
        Pair h₁ h₂ hours ∧ SignedPair m₁ m₂ minutes) →
      -1440 < hours * 60 + minutes → hours * 60 + minutes < 1440 →
      SignedZone [sign, h₁, h₂, m₁, m₂] (factor * (hours * 60 + minutes))

/-- Without the blanks around it the text is a date and a time, tenths of a second or none, and one of the zones;
the instant is the date and the time in universal time less the offset. -/
inductive Denotes (zones : List Char → Int → Prop) (text : String) (t : Instant) : Prop
  | mk {head tenths zone : List Char} {there : Instant} {minutes : Int} :
      trim text.toList = head ++ (tenths ++ zone) → (head.map Char.utf8Size).sum = 15 → base head = some there →
      Tenths tenths → zones zone minutes → Instant.Earlier there minutes t → Denotes zones text t

/-! ## Bytes -/

theorem of_splitBytes {n : Nat} {cs a b : List Char} (h : splitBytes n cs = some (a, b)) :
    cs = a ++ b ∧ (a.map Char.utf8Size).sum = n := by
  fun_induction splitBytes n cs generalizing a with
  | case1 cs =>
    cases h
    exact ⟨rfl, rfl⟩
  | case2 => cases h
  | case3 n c cs hle ih =>
    obtain ⟨⟨a', b'⟩, hsplit, heq⟩ := Option.map_eq_some_iff.mp h
    cases heq
    obtain ⟨rfl, hsum⟩ := ih hsplit
    refine ⟨rfl, ?_⟩
    rw [List.map_cons, List.sum_cons, hsum]
    omega
  | case4 => cases h

/-- A text is split behind a front of so many bytes, if it has one. -/
theorem splitBytes_eq_some_iff {n : Nat} {cs a b : List Char} :
    splitBytes n cs = some (a, b) ↔ cs = a ++ b ∧ (a.map Char.utf8Size).sum = n := by
  refine ⟨of_splitBytes, ?_⟩
  rintro ⟨rfl, hsum⟩
  exact splitBytes_append hsum

/-! ## Tenths -/

/-- A text goes on behind its tenths of a second. -/
theorem exists_tenths (rest : List Char) : ∃ tenths, Tenths tenths ∧ rest = tenths ++ skipTenths rest := by
  unfold skipTenths
  split
  · rename_i rest
    refine ⟨'.' :: rest.takeWhile fun c => (digit? c).isSome, .point fun d hd => ?_, ?_⟩
    · exact List.all_eq_true.mp List.all_takeWhile d hd
    · rw [List.cons_append, List.takeWhile_append_dropWhile]
  · exact ⟨[], .none, rfl⟩

/-- What begins neither with a digit nor with a point is not taken for tenths of a second. -/
theorem skipTenths_append {tenths zone : List Char} (ht : Tenths tenths)
    (hz : ∀ c ∈ zone.head?, digit? c = none ∧ c ≠ '.') : skipTenths (tenths ++ zone) = zone := by
  cases ht with
  | none =>
    rw [List.nil_append]
    unfold skipTenths
    split
    · exact absurd rfl (hz '.' rfl).2
    · rfl
  | @point ds hds =>
    show (ds ++ zone).dropWhile (fun c => (digit? c).isSome) = zone
    rw [List.dropWhile_append_of_pos hds]
    cases zone with
    | nil => rfl
    | cons c zone =>
      have hc : digit? c = none := (hz c rfl).1
      rw [List.dropWhile_cons_of_neg (by rw [hc]; decide)]

/-! ## Zones -/

theorem readUnsigned_singleton (d : Char) : readUnsigned [d] = digit? d := by
  show ((digit? d).bind fun n => some (10 * 0 + n)) = digit? d
  cases digit? d with
  | none => rfl
  | some n => exact congrArg some (Nat.zero_add n)

theorem readUnsigned_pair (c d : Char) :
    readUnsigned [c, d] = (digit? c).bind fun m => (digit? d).map fun n => 10 * m + n := by
  show ((digit? c).bind fun m => (digit? d).bind fun n => some (10 * (10 * 0 + m) + n)) = _
  cases digit? c with
  | none => rfl
  | some m =>
    cases digit? d with
    | none => rfl
    | some n =>
      show some (10 * (10 * 0 + m) + n) = some (10 * m + n)
      rw [Nat.mul_zero, Nat.zero_add]

theorem Pair.nonneg {c d : Char} {n : Int} (h : Pair c d n) : 0 ≤ n := by
  cases h with
  | digits _ _ => exact Int.natCast_nonneg _

/-- No digits begin with a sign. -/
theorem not_pair {c d : Char} {n : Int} (hc : digit? c = none) : ¬ Pair c d n := by
  rintro ⟨hdigit, -⟩
  rw [hc] at hdigit
  cases hdigit

theorem Pair.not_signed {c d : Char} {n n' : Int} (h : Pair c d n) : ¬ SignedPair c d n' := by
  intro hsigned
  cases hsigned with
  | plus _ => exact not_pair (by decide) h
  | minus _ => exact not_pair (by decide) h

/-- Two characters are read as an integer when they are two digits, or a sign and a digit. -/
theorem readInteger_pair_iff {c d : Char} {n : Int} :
    readInteger [c, d] = some n ↔ Pair c d n ∨ SignedPair c d n := by
  unfold readInteger
  split
  · rename_i heq
    obtain ⟨rfl, rfl⟩ := List.cons.inj heq
    rw [readUnsigned_singleton, Option.map_eq_some_iff, or_iff_right (not_pair (by decide))]
    constructor
    · rintro ⟨k, hk, rfl⟩
      exact .plus hk
    · intro hsigned
      cases hsigned with
      | plus hd => exact ⟨_, hd, rfl⟩
  · rename_i heq
    obtain ⟨rfl, rfl⟩ := List.cons.inj heq
    rw [readUnsigned_singleton, Option.map_eq_some_iff, or_iff_right (not_pair (by decide))]
    constructor
    · rintro ⟨k, hk, rfl⟩
      exact .minus hk
    · intro hsigned
      cases hsigned with
      | minus hd => exact ⟨_, hd, rfl⟩
  · rename_i hplus hminus
    have hsigned : ¬ SignedPair c d n := by
      intro hsigned
      cases hsigned with
      | plus _ => exact hplus _ rfl
      | minus _ => exact hminus _ rfl
    rw [readUnsigned_pair, Option.map_eq_some_iff, or_iff_left hsigned]
    constructor
    · rintro ⟨k, hk, rfl⟩
      obtain ⟨m, hm, hk⟩ := Option.bind_eq_some_iff.mp hk
      obtain ⟨n, hn, rfl⟩ := Option.map_eq_some_iff.mp hk
      exact .digits hm hn
    · rintro ⟨hc, hd⟩
      exact ⟨_, Option.bind_eq_some_iff.mpr ⟨_, hc, Option.map_eq_some_iff.mpr ⟨_, hd, rfl⟩⟩, rfl⟩

/-- An offset is read from two numbers that make less than a day, with the sign in front. -/
theorem offset_eq_some_iff {negative : Bool} {h₁ h₂ m₁ m₂ : Char} {total : Int} :
    offset negative [h₁, h₂] [m₁, m₂] = some total ↔
      ∃ hours minutes, readInteger [h₁, h₂] = some hours ∧ readInteger [m₁, m₂] = some minutes ∧
        -1440 < hours * 60 + minutes ∧ hours * 60 + minutes < 1440 ∧
        total = (if negative then -1 else 1) * (hours * 60 + minutes) := by
  unfold offset
  simp only [Option.bind_eq_bind, Option.bind_eq_some_iff]
  constructor
  · rintro ⟨hours, hh, minutes, hm, htotal⟩
    refine ⟨hours, minutes, hh, hm, ?_⟩
    cases negative with
    | false =>
      rw [if_neg Bool.false_ne_true] at htotal ⊢
      split at htotal
      · rename_i hrange
        cases htotal
        exact ⟨hrange.1, hrange.2, (Int.one_mul _).symm⟩
      · cases htotal
    | true =>
      rw [if_pos rfl] at htotal ⊢
      split at htotal
      · rename_i hrange
        cases htotal
        exact ⟨by omega, by omega, by omega⟩
      · cases htotal
  · rintro ⟨hours, minutes, hh, hm, hlow, hhigh, rfl⟩
    refine ⟨hours, hh, minutes, hm, ?_⟩
    cases negative with
    | false => rw [if_neg Bool.false_ne_true, if_neg Bool.false_ne_true, if_pos ⟨hlow, hhigh⟩, Int.one_mul]
    | true =>
      rw [if_pos rfl, if_pos rfl, if_pos (by omega)]
      exact congrArg some (by omega)

/-- The reader of zones knows these, and those with a sign for a digit. -/
theorem zone_eq_some_iff {cs : List Char} {minutes : Int} :
    zone cs = some minutes ↔ Zone cs minutes ∨ SignedZone cs minutes := by
  constructor
  · intro hzone
    unfold zone at hzone
    split at hzone
    · cases hzone
      exact .inl .none
    · cases hzone
      exact .inl .utc
    · rename_i sign h₁ h₂ m₁ m₂
      -- both signs lead to the same four characters
      have hread : ∀ negative : Bool, Sign sign (if negative then -1 else 1) →
          offset negative [h₁, h₂] [m₁, m₂] = some minutes →
            Zone [sign, h₁, h₂, m₁, m₂] minutes ∨ SignedZone [sign, h₁, h₂, m₁, m₂] minutes := by
        intro negative hsign hoffset
        obtain ⟨hours, ms, hh, hm, hlow, hhigh, rfl⟩ := offset_eq_some_iff.mp hoffset
        rcases readInteger_pair_iff.mp hh with hh | hh
        · rcases readInteger_pair_iff.mp hm with hm | hm
          · exact .inl (.offset hsign hh hm hhigh)
          · exact .inr (.offset hsign (.inr ⟨hh, hm⟩) hlow hhigh)
        · exact .inr (.offset hsign (.inl ⟨hh, readInteger_pair_iff.mp hm⟩) hlow hhigh)
      split at hzone
      · rename_i heq
        exact hread false (heq ▸ .plus) hzone
      · split at hzone
        · rename_i heq
          exact hread true (heq ▸ .minus) hzone
        · cases hzone
    · cases hzone
  · have hwrite : ∀ {sign h₁ h₂ m₁ m₂ : Char} {factor hours ms : Int}, Sign sign factor →
        readInteger [h₁, h₂] = some hours → readInteger [m₁, m₂] = some ms → -1440 < hours * 60 + ms →
        hours * 60 + ms < 1440 → zone [sign, h₁, h₂, m₁, m₂] = some (factor * (hours * 60 + ms)) := by
      intro sign h₁ h₂ m₁ m₂ factor hours ms hsign hh hm hlow hhigh
      cases hsign with
      | plus => exact offset_eq_some_iff.mpr ⟨hours, ms, hh, hm, hlow, hhigh, rfl⟩
      | minus => exact offset_eq_some_iff.mpr ⟨hours, ms, hh, hm, hlow, hhigh, rfl⟩
    rintro (hzone | hzone)
    · cases hzone with
      | none => rfl
      | utc => rfl
      | offset hsign hh hm hhigh =>
        have hpositive := hh.nonneg
        have hpositive' := hm.nonneg
        exact hwrite hsign (readInteger_pair_iff.mpr (.inl hh)) (readInteger_pair_iff.mpr (.inl hm))
          (by omega) hhigh
    · cases hzone with
      | offset hsign hpairs hlow hhigh =>
        rcases hpairs with ⟨hh, hm⟩ | ⟨hh, hm⟩
        · exact hwrite hsign (readInteger_pair_iff.mpr (.inr hh)) (readInteger_pair_iff.mpr hm) hlow hhigh
        · exact hwrite hsign (readInteger_pair_iff.mpr (.inl hh)) (readInteger_pair_iff.mpr (.inr hm)) hlow hhigh

/-- A zone begins neither with a digit nor with a point. -/
theorem head_of_zone {cs : List Char} {minutes : Int} (h : Zone cs minutes ∨ SignedZone cs minutes) :
    ∀ c ∈ cs.head?, digit? c = none ∧ c ≠ '.' := by
  have hsign : ∀ {sign : Char} {factor : Int} {rest : List Char}, Sign sign factor →
      ∀ c ∈ (sign :: rest).head?, digit? c = none ∧ c ≠ '.' := by
    intro sign factor rest hsign c hc
    obtain rfl := Option.some.inj hc
    cases hsign <;> decide
  rcases h with h | h
  · cases h with
    | none => intro c hc; cases hc
    | utc =>
      intro c hc
      obtain rfl := Option.some.inj hc
      decide
    | offset hs _ _ _ => exact hsign hs
  · cases h with
    | offset hs _ _ _ => exact hsign hs

/-- An offset is shorter than a day. -/
theorem within_day {cs : List Char} {minutes : Int} (h : Zone cs minutes ∨ SignedZone cs minutes) :
    -1440 < minutes ∧ minutes < 1440 := by
  have hsign : ∀ {sign : Char} {factor total : Int}, Sign sign factor → -1440 < total → total < 1440 →
      -1440 < factor * total ∧ factor * total < 1440 := by
    intro sign factor total hs hlow hhigh
    cases hs <;> omega
  rcases h with h | h
  · cases h with
    | none => decide
    | utc => decide
    | offset hs hh hm hhigh =>
      have hpositive := hh.nonneg
      have hpositive' := hm.nonneg
      exact hsign hs (by omega) hhigh
  · cases h with
    | offset hs _ hlow hhigh => exact hsign hs hlow hhigh

/-- No zone is one with a sign for a digit. -/
theorem Zone.not_signed {cs : List Char} {minutes minutes' : Int} (h : Zone cs minutes) :
    ¬ SignedZone cs minutes' := by
  intro hsigned
  cases hsigned with
  | offset _ hpairs _ _ =>
    cases h with
    | offset _ hh hm _ =>
      rcases hpairs with ⟨hh', -⟩ | ⟨-, hm'⟩
      · exact hh.not_signed hh'
      · exact hm.not_signed hm'

/-! ## Dates -/

/-- A text is read by going through its parts. -/
theorem parse_eq_some_iff {text : String} {t : Instant} :
    parse text = some t ↔ Denotes Zone text t ∨ Denotes SignedZone text t := by
  unfold parse
  simp only [Option.bind_eq_bind, Option.bind_eq_some_iff, Option.some.injEq]
  constructor
  · rintro ⟨⟨head, rest⟩, hsplit, there, hbase, minutes, hzone, rfl⟩
    obtain ⟨htext, hbytes⟩ := splitBytes_eq_some_iff.mp hsplit
    obtain ⟨tenths, htenths, hrest⟩ := exists_tenths rest
    have htrim : trim text.toList = head ++ (tenths ++ skipTenths rest) := by rw [← hrest, htext]
    have hzones := zone_eq_some_iff.mp hzone
    have hearlier := Instant.earlier_minusMinutes there (within_day hzones).1 (within_day hzones).2
    exact hzones.imp (.mk htrim hbytes hbase htenths · hearlier) (.mk htrim hbytes hbase htenths · hearlier)
  · have hread : ∀ {zones : List Char → Int → Prop}, (∀ {cs m}, zones cs m → Zone cs m ∨ SignedZone cs m) →
        Denotes zones text t → ∃ split, splitBytes 15 (trim text.toList) = some split ∧
          ∃ there, base split.1 = some there ∧ ∃ minutes, zone (skipTenths split.2) = some minutes ∧
            there.minusMinutes minutes = t := by
      rintro zones hzones ⟨htext, hbytes, hbase, htenths, hzone, hearlier⟩
      have hday := within_day (hzones hzone)
      refine ⟨(_, _), splitBytes_eq_some_iff.mpr ⟨htext, hbytes⟩, _, hbase, _, ?_,
        ((Instant.earlier_iff hday.1 hday.2).mp hearlier).symm⟩
      rw [skipTenths_append htenths (head_of_zone (hzones hzone))]
      exact zone_eq_some_iff.mpr (hzones hzone)
    rintro (h | h)
    · exact hread .inl h
    · exact hread .inr h

/-- A text has one end behind its date, its time and its tenths of a second. -/
theorem Denotes.not_signed {text : String} {t t' : Instant} (h : Denotes Zone text t) :
    ¬ Denotes SignedZone text t' := by
  rintro ⟨htext', hbytes', -, htenths', hzone', -⟩
  obtain ⟨htext, hbytes, -, htenths, hzone, -⟩ := h
  have hsame := splitBytes_eq_some_iff.mpr ⟨htext, hbytes⟩
  rw [splitBytes_eq_some_iff.mpr ⟨htext', hbytes'⟩] at hsame
  have hrest := congrArg skipTenths (Prod.mk.inj (Option.some.inj hsame)).2
  rw [skipTenths_append htenths (head_of_zone (.inl hzone)),
    skipTenths_append htenths' (head_of_zone (.inr hzone'))] at hrest
  subst hrest
  exact hzone.not_signed hzone'

theorem nanosecond_of_base {cs : List Char} {t : Instant} (h : base cs = some t) :
    t.nanosecond = Instant.noFraction := by
  unfold base at h
  simp only [Option.bind_eq_bind, Option.bind_eq_some_iff] at h
  obtain ⟨_, _, _, _, _, _, _, _, _, _, _, _, _, _, date, _, h⟩ := h
  split at h
  · obtain rfl := Option.some.inj h
    rfl
  · cases h

/-- What is read is a whole second. -/
theorem nanosecond_of_parse {text : String} {t : Instant} (h : parse text = some t) :
    t.nanosecond = Instant.noFraction := by
  rcases parse_eq_some_iff.mp h with ⟨-, -, hbase, -, -, hearlier⟩ | ⟨-, -, hbase, -, -, hearlier⟩
  · exact hearlier.nanosecond.trans (nanosecond_of_base hbase)
  · exact hearlier.nanosecond.trans (nanosecond_of_base hbase)

/-- The reader takes the dates, and besides them the texts with a sign for a digit of the offset; so it reads
exactly the dates where there is no such sign.  Fourteen digits around the letter are the second that they tell,
if there is one.  And a date that was read is written so that it is read again, if its year has four digits. -/
theorem parse_denotes (text : String) :
    (∀ t, parse text = some t ↔ Denotes Zone text t ∨ Denotes SignedZone text t) ∧
    ((∀ t, parse text = some t ↔ Denotes Zone text t) ↔ ∀ t, ¬ Denotes SignedZone text t) ∧
    (∀ (year : Fin 10000) (month day hour minute second : Fin 100) (t : Instant),
      base (numerals year month day hour minute second) = some t ↔ Shows t year month day hour minute second) ∧
    ∀ t, parse text = some t → 0 ≤ t.date.year → t.date.year ≤ 9999 → parse (format t) = some t := by
  refine ⟨fun t => parse_eq_some_iff, ⟨fun h t hsigned => ?_, fun hno t => ?_⟩, ?_, ?_⟩
  · exact ((h t).mp (parse_eq_some_iff.mpr (.inr hsigned))).not_signed hsigned
  · exact parse_eq_some_iff.trans (or_iff_left (hno t))
  · intro year month day hour minute second t
    exact base_numerals_eq_some_iff year.isLt month.isLt day.isLt hour.isLt minute.isLt second.isLt
  · intro t h hlow hhigh
    exact parse_format hlow hhigh (nanosecond_of_parse h)

/-- A leap second on the last afternoon of 2024. -/
def newYearsEve : Instant where
  date := ⟨2024, 12, 31, by decide⟩
  minute := ⟨1050, by decide⟩
  second := ⟨60, by decide⟩
  nanosecond := Instant.noFraction

/-- A leap second with tenths and an offset over the end of a year is read and read again as it is written. -/
theorem parse_denotes_newYearsEve :
    parse "20250101T000060.5+0630 " = some newYearsEve ∧ parse (format newYearsEve) = some newYearsEve := by
  have hread : parse "20250101T000060.5+0630 " = some newYearsEve := by
    have hbase : base (numerals 2025 1 1 0 0 60) = some ⟨⟨2025, 1, 1, by decide⟩, 0, 60, Instant.noFraction⟩ :=
      base_of_shows (by decide) ⟨rfl, rfl, rfl, by decide, by decide, rfl, rfl, rfl⟩
    refine ((parse_denotes _).1 _).mpr (.inl (@Denotes.mk _ _ _ _ ['.', '5'] ['+', '0', '6', '3', '0'] _ 390
      (by decide) (by decide) hbase (.point (List.forall_mem_singleton.mpr rfl)) ?_ ⟨by decide, rfl, rfl⟩))
    exact .offset .plus (.digits (m := 0) (n := 6) rfl rfl) (.digits (m := 3) (n := 0) rfl rfl) (by decide)
  exact ⟨hread, (parse_denotes _).2.2.2 _ hread (by decide) (by decide)⟩

/-- A sign stands for a digit of the hours and one for a digit of the minutes, and an offset of minus 61 minutes
is read. -/
theorem parse_sign_for_digit :
    ¬ ∀ t, parse "20240315T120000+-1-1" = some t ↔ Denotes Zone "20240315T120000+-1-1" t := by
  intro h
  have hsigned : Denotes SignedZone "20240315T120000+-1-1" ⟨⟨2024, 3, 15, by decide⟩, 781, 0,
      Instant.noFraction⟩ := by
    have hbase : base (numerals 2024 3 15 12 0 0) = some ⟨⟨2024, 3, 15, by decide⟩, 720, 0, Instant.noFraction⟩ :=
      base_of_shows (by decide) ⟨rfl, rfl, rfl, by decide, by decide, rfl, rfl, rfl⟩
    refine @Denotes.mk _ _ _ _ [] ['+', '-', '1', '-', '1'] _ (-61) (by decide) (by decide) hbase .none ?_
      ⟨by decide, rfl, rfl⟩
    exact .offset .plus (.inl ⟨.minus (n := 1) rfl, .inr (.minus (n := 1) rfl)⟩) (by decide) (by decide)
  exact ((h _).mp (parse_eq_some_iff.mpr (.inr hsigned))).not_signed hsigned

end Tether.Calendar.DateText
