import Tether.Proofs.Calendar.Grammar

/-!
# Tether.Proofs.Calendar.SignedYear — years that are not of four digits

Such a year is written behind a sign, and the month behind it without a blank.  A reader takes all the digits
behind a sign for the year, so it comes to the letter where it looks for the month and reads no date
(`base_signed`).  It does not matter where the text is cut off (`parse_take_format`).
-/

namespace Tether.Calendar.DateText

open Tether.Text

/-- A number is written in digits. -/
theorem isSome_digit?_of_mem_decimal {w n : Nat} {c : Char} (h : c ∈ (decimal w n).toList) :
    (digit? c).isSome = true := by
  rw [decimal, padZero, natural, String.toList_append, String.toList_ofList, String.toList_ofList,
    List.mem_append] at h
  rcases h with hzero | hdigit
  · rw [List.eq_of_mem_replicate hzero]
    decide
  · rw [digit?_of_isDigit (Nat.isDigit_of_mem_toDigits (by decide) (by decide) hdigit), Option.isSome_some]

theorem toNat_of_digit {c : Char} (h : (digit? c).isSome = true) : 48 ≤ c.toNat ∧ c.toNat ≤ 57 := by
  unfold digit? at h
  split at h
  · rename_i hrange
    exact hrange
  · cases h

/-! ## A year behind a sign -/

section Signed

variable {ds rest : List Char} (hds : ∀ d ∈ ds, (digit? d).isSome = true) (hrest : ∀ c ∈ rest.head?, c = 'T')

include hds hrest in
/-- All digits are read, if the width suffices. -/
theorem snd_digits_append {w : Nat} (n : Nat) (hw : ds.length ≤ w) : (digits w n (ds ++ rest)).2 = rest := by
  induction ds generalizing w n with
  | nil =>
    cases rest with
    | nil => cases w <;> rfl
    | cons c rest =>
      obtain rfl := hrest c rfl
      cases w <;> rfl
  | cons d ds ih =>
    obtain ⟨v, rfl⟩ : ∃ v, w = v + 1 := Nat.exists_eq_add_one.mpr (Nat.zero_lt_of_lt hw)
    obtain ⟨k, hk⟩ := Option.isSome_iff_exists.mp (hds d List.mem_cons_self)
    have hmore := ih (fun e he => hds e (List.mem_cons_of_mem d he)) (w := v) (10 * n + k)
        (Nat.le_of_succ_le_succ hw)
    rw [List.cons_append]
    conv_lhs => unfold digits
    rw [hk]
    exact hmore

include hrest in
/-- No number begins with the letter, or with nothing. -/
theorem number_letter (w : Nat) : number w rest = none := by
  cases rest with
  | nil => rfl
  | cons c rest =>
    obtain rfl := hrest c rfl
    rfl

include hrest in
theorem twoDigits_letter : twoDigits rest = none := by
  have htrim : trimStart rest = rest := by
    cases rest with
    | nil => rfl
    | cons c rest =>
      obtain rfl := hrest c rfl
      rfl
  rw [twoDigits, htrim, number_letter hrest]

include hds hrest in
/-- What a number leaves over begins with the letter. -/
theorem number_append {m : Nat} {left : List Char}
    (h : number (ds ++ rest).length (ds ++ rest) = some (m, left)) : left = rest := by
  have hleft := snd_digits_append hds hrest 0 (w := (ds ++ rest).length) (by rw [List.length_append]; omega)
  unfold number at h
  split at h
  · split at h
    · rw [← hleft, Option.some.inj h]
    · cases h
  · cases h

include hds hrest in
/-- Behind a sign all digits belong to the year, and then there is no month. -/
theorem base_signed {sign : Char} (hsign : sign = '-' ∨ sign = '+') : base (sign :: (ds ++ rest)) = none := by
  have hyear : ∀ {y : Int} {left : List Char}, year (sign :: (ds ++ rest)) = some (y, left) → left = rest := by
    intro y left h
    rcases hsign with rfl | rfl
    · obtain ⟨⟨m, left'⟩, hnumber, heq⟩ := Option.map_eq_some_iff.mp h
      rw [← number_append hds hrest hnumber]
      exact (Prod.mk.inj heq).2.symm
    · obtain ⟨⟨m, left'⟩, hnumber, heq⟩ := Option.map_eq_some_iff.mp h
      rw [← number_append hds hrest hnumber]
      exact (Prod.mk.inj heq).2.symm
  rw [base, Option.bind_eq_bind, Option.bind_eq_none_iff]
  rintro ⟨y, left⟩ h
  obtain rfl := hyear h
  simp only [twoDigits_letter hrest, Option.bind_eq_bind, Option.bind_none]

end Signed

/-! ## Dates of such a year -/

/-- The characters of an instant whose year is not of four digits. -/
theorem toList_format_signed {t : Instant} (h : ¬ (0 ≤ t.date.year ∧ t.date.year ≤ 9999)) :
    ∃ sign ds rest, (format t).toList = sign :: (ds ++ 'T' :: rest) ∧ (sign = '-' ∨ sign = '+') ∧
      (∀ d ∈ ds, (digit? d).isSome = true) ∧ ∀ c ∈ rest, (digit? c).isSome = true := by
  have hyear : yearText t.date.year = (if t.date.year < 0 then "-" else "+") ++ decimal 4 t.date.year.natAbs :=
    if_neg h
  have hsign : ∃ sign : Char, (sign = '-' ∨ sign = '+') ∧
      (if t.date.year < 0 then "-" else "+" : String).toList = [sign] := by
    split
    · exact ⟨'-', .inl rfl, rfl⟩
    · exact ⟨'+', .inr rfl, rfl⟩
  obtain ⟨sign, hsign, htext⟩ := hsign
  refine ⟨sign, (decimal 4 t.date.year.natAbs).toList ++ (decimal 2 t.date.month).toList ++
    (decimal 2 t.date.day).toList,
    (decimal 2 (t.minute.val / 60)).toList ++ (decimal 2 (t.minute.val % 60)).toList ++
      (decimal 2 t.second.val).toList,
    ?_, hsign, ?_, ?_⟩
  · rw [format, hyear]
    simp only [String.toList_append, htext]
    simp
  · simp only [List.mem_append]
    rintro d ((hd | hd) | hd) <;> exact isSome_digit?_of_mem_decimal hd
  · simp only [List.mem_append]
    rintro c ((hc | hc) | hc) <;> exact isSome_digit?_of_mem_decimal hc

/-- Such a text is of characters that can be seen. -/
theorem visible_of_mem_format {t : Instant} (h : ¬ (0 ≤ t.date.year ∧ t.date.year ≤ 9999)) {c : Char}
    (hc : c ∈ (format t).toList) : 0x20 < c.toNat ∧ c.toNat < 0x80 := by
  obtain ⟨sign, ds, rest, hformat, hsign, hds, hrest⟩ := toList_format_signed h
  rw [hformat, List.mem_cons, List.mem_append, List.mem_cons] at hc
  rcases hc with rfl | hd | rfl | hd
  · rcases hsign with rfl | rfl <;> decide
  · have := toNat_of_digit (hds c hd)
    omega
  · decide
  · have := toNat_of_digit (hrest c hd)
    omega

theorem isBlank_of_visible {c : Char} (h : 0x20 < c.toNat ∧ c.toNat < 0x80) : isBlank c = false := by
  simp only [isBlank, Bool.or_eq_false_iff, Bool.and_eq_false_iff, decide_eq_false_iff_not, beq_eq_false_iff_ne]
  omega

/-- No first part of what is written for such an instant is read as a date. -/
theorem parse_take_format {t : Instant} (h : ¬ (0 ≤ t.date.year ∧ t.date.year ≤ 9999)) (n : Nat) :
    parse (String.ofList ((format t).toList.take n)) = none := by
  obtain ⟨sign, ds, rest, hformat, hsign, hds, -⟩ := toList_format_signed h
  -- a first part of the text is a sign with digits behind it, and then the letter if anything more
  have hpart : ∀ k, base ((format t).toList.take k) = none := by
    intro k
    cases k with
    | zero => rfl
    | succ k =>
      rw [hformat, List.take_succ_cons, List.take_append]
      refine base_signed (fun d hd => hds d (List.mem_of_mem_take hd)) (fun c hc => ?_) hsign
      rw [List.head?_take] at hc
      split at hc
      · cases hc
      · exact (Option.some.inj hc).symm
  have hblank : ∀ c ∈ (format t).toList.take n, isBlank c = false := fun c hc =>
    isBlank_of_visible (visible_of_mem_format h (List.mem_of_mem_take hc))
  unfold parse
  rw [String.toList_ofList, trim_of_forall hblank, Option.bind_eq_bind, Option.bind_eq_none_iff]
  rintro ⟨head, more⟩ hsplit
  obtain ⟨htext, -⟩ := splitBytes_eq_some_iff.mp hsplit
  have hhead : head = (format t).toList.take (min head.length n) := by
    rw [← List.take_take, htext, List.take_left]
  have hbase := hpart (min head.length n)
  rw [← hhead] at hbase
  simp only [hbase, Option.bind_eq_bind, Option.bind_none]

end Tether.Calendar.DateText
