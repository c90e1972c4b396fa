import Mathlib.Tactic.IntervalCases
import Tether.Text.Blank
import Tether.Text.Number

/-!
# Tether.Proofs.Text.Digits — numbers are read as they were written

A number is written in decimal digits.  A digit is no blank, so nothing of the number is trimmed, and its digits
are read as the number itself (`readNatural_natural`), with or without a limit that is above it.
-/

namespace Tether.Text

/-! ## Digits -/

theorem digit?_digitChar {d : Nat} (h : d < 10) : digit? d.digitChar = some d := by
  interval_cases d <;> decide

theorem digit?_of_isDigit {c : Char} (h : c.isDigit = true) : digit? c = some (c.toNat - '0'.toNat) := by
  have hval : 48 ≤ c.val ∧ c.val ≤ 57 := by simpa [Char.isDigit] using h
  have hrange : '0' ≤ c ∧ c ≤ '9' := hval
  rw [digit?, if_pos hrange]

/-- Digits stand in a row, and there is no blank among them. -/
theorem isBlank_of_isDigit {c : Char} (h : c.isDigit = true) : isBlank c = false := by
  have hval : 48 ≤ c.val ∧ c.val ≤ 57 := by simpa [Char.isDigit] using h
  have hlow : 48 ≤ c.toNat := UInt32.le_iff_toNat_le.mp hval.1
  have hhigh : c.toNat ≤ 57 := UInt32.le_iff_toNat_le.mp hval.2
  generalize hn : c.toNat = n at hlow hhigh
  unfold isBlank
  rw [hn]
  interval_cases n <;> rfl

/-! ## Texts without blanks -/

/-- Nothing is trimmed off a text without blanks. -/
theorem trim_of_forall {cs : List Char} (h : ∀ c ∈ cs, isBlank c = false) : trim cs = cs := by
  have hstart : ∀ {ds : List Char}, (∀ c ∈ ds, isBlank c = false) → ds.dropWhile isBlank = ds := by
    intro ds hds
    cases ds with
    | nil => rfl
    | cons c ds =>
      refine List.dropWhile_cons_of_neg ?_
      rw [hds c List.mem_cons_self]
      decide
  have hback : ∀ c ∈ cs.reverse, isBlank c = false := fun c hc => h c (List.mem_reverse.mp hc)
  rw [trim, trimStart, hstart h, trimEnd, hstart hback, List.reverse_reverse]

/-! ## Numbers -/

/-- Digits are read on after a number, up to the end. -/
theorem readDigits_of_forall (n : Nat) {cs : List Char} (h : ∀ c ∈ cs, c.isDigit = true) :
    readDigits n cs = some (Nat.ofDigitChars 10 cs n) := by
  induction cs generalizing n with
  | nil => rfl
  | cons c cs ih =>
    have hc : c.isDigit = true := h c List.mem_cons_self
    have hrest := ih (10 * n + (c.toNat - '0'.toNat)) fun d hd => h d (List.mem_cons_of_mem c hd)
    rw [readDigits, digit?_of_isDigit hc, Option.bind_some, hrest, Nat.ofDigitChars_cons]

/-- The digits of a written number. -/
theorem isDigit_of_mem_natural {n : Nat} {c : Char} (h : c ∈ (natural n).toList) : c.isDigit = true := by
  rw [natural, String.toList_ofList] at h
  exact Nat.isDigit_of_mem_toDigits (by decide) (by decide) h

theorem readUnsigned_natural (n : Nat) : readUnsigned (natural n).toList = some n := by
  have hdigits : ∀ c ∈ Nat.toDigits 10 n, c.isDigit = true := fun c hc =>
    Nat.isDigit_of_mem_toDigits (by decide) (by decide) hc
  have hread := readDigits_of_forall 0 hdigits
  rw [Nat.ofDigitChars_ten_toDigits] at hread
  rw [natural, String.toList_ofList]
  unfold readUnsigned
  split
  · rename_i hnil
    exact absurd hnil Nat.toDigits_ne_nil
  · exact hread

/-- A number below the limit is read as itself: its first digit is no plus sign. -/
theorem readNatural_natural {limit n : Nat} (h : n < limit) : readNatural limit (natural n).toList = some n := by
  have hread := readUnsigned_natural n
  unfold readNatural
  split
  · rename_i rest hplus
    have hdigit := isDigit_of_mem_natural (n := n) (c := '+') (by rw [hplus]; exact List.mem_cons_self)
    exact absurd hdigit (by decide)
  · dsimp only
    rw [hread, Option.filter_some, if_pos (decide_eq_true h)]

end Tether.Text
