import Tether.Text.Utf16

/-!
# Tether.Proofs.Text.Utf16 — units read back as the text they were written for

No character is a surrogate, so a character of one unit is never taken for half of a pair, and the two units of
any other character are a pair.  Reading the units of a text therefore gives the text back (`decode_encode`).
-/

namespace Tether.Text.Utf16

/-- The code of a character lies outside the surrogates. -/
theorem toNat_lt_or_le (c : Char) : c.toNat < 0xD800 ∨ 0xE000 ≤ c.toNat := by
  rcases c.valid with h | ⟨h, -⟩
  · exact .inl h
  · exact .inr h

theorem toNat_lt (c : Char) : c.toNat < 0x110000 := by
  rcases c.valid with h | ⟨-, h⟩
  · have hc : c.toNat < 0xD800 := h
    omega
  · exact h

theorem isHigh_eq_false {u : UInt16} (h : u.toNat < 0xD800 ∨ 0xDC00 ≤ u.toNat) : isHigh u = false := by
  simp only [isHigh, UInt16.le_iff_toNat_le, UInt16.reduceToNat, Bool.and_eq_false_iff, decide_eq_false_iff_not]
  omega

theorem isLow_eq_false {u : UInt16} (h : u.toNat < 0xDC00 ∨ 0xE000 ≤ u.toNat) : isLow u = false := by
  simp only [isLow, UInt16.le_iff_toNat_le, UInt16.reduceToNat, Bool.and_eq_false_iff, decide_eq_false_iff_not]
  omega

theorem isHigh_eq_true {u : UInt16} (h : 0xD800 ≤ u.toNat) (h' : u.toNat < 0xDC00) : isHigh u = true := by
  simp only [isHigh, UInt16.le_iff_toNat_le, UInt16.reduceToNat, Bool.and_eq_true, decide_eq_true_eq]
  omega

theorem isLow_eq_true {u : UInt16} (h : 0xDC00 ≤ u.toNat) (h' : u.toNat < 0xE000) : isLow u = true := by
  simp only [isLow, UInt16.le_iff_toNat_le, UInt16.reduceToNat, Bool.and_eq_true, decide_eq_true_eq]
  omega

/-- A unit that is no surrogate is a character by itself, whatever comes behind it. -/
theorem decode_cons {u : UInt16} (hhigh : isHigh u = false) (hlow : isLow u = false) (rest : List UInt16) :
    decode (u :: rest) = Char.ofNat u.toNat :: decode rest := by
  cases rest with
  | nil => simp [decode, hhigh, hlow]
  | cons v rest => simp [decode, hhigh, hlow]

theorem decode_pair {u v : UInt16} (hu : isHigh u = true) (hv : isLow v = true) (rest : List UInt16) :
    decode (u :: v :: rest) = pair u v :: decode rest := by
  simp [decode, hu, hv]

/-- The units of a character are read as the character, whatever comes behind them. -/
theorem decode_unitsOf (c : Char) (rest : List UInt16) : decode (unitsOf c ++ rest) = c :: decode rest := by
  have hlt := toNat_lt c
  unfold unitsOf
  split
  · rename_i hshort
    have hword : c.toNat.toUInt16.toNat = c.toNat := UInt16.toNat_ofNat_of_lt' hshort
    have hhigh : isHigh c.toNat.toUInt16 = false := by
      refine isHigh_eq_false ?_
      have := toNat_lt_or_le c
      omega
    have hlow : isLow c.toNat.toUInt16 = false := by
      refine isLow_eq_false ?_
      have := toNat_lt_or_le c
      omega
    rw [List.singleton_append, decode_cons hhigh hlow, hword, Char.ofNat_toNat]
  · rename_i hlong
    have hhigh : (0xD800 + (c.toNat - 0x10000) / 0x400).toUInt16.toNat = 0xD800 + (c.toNat - 0x10000) / 0x400 :=
      UInt16.toNat_ofNat_of_lt' (by show _ < 2 ^ 16; omega)
    have hlow : (0xDC00 + (c.toNat - 0x10000) % 0x400).toUInt16.toNat = 0xDC00 + (c.toNat - 0x10000) % 0x400 :=
      UInt16.toNat_ofNat_of_lt' (by show _ < 2 ^ 16; omega)
    dsimp only [List.cons_append, List.nil_append]
    rw [decode_pair (isHigh_eq_true (by omega) (by omega)) (isLow_eq_true (by omega) (by omega)), pair,
      hhigh, hlow]
    have hcode : 0x10000 + (0xD800 + (c.toNat - 0x10000) / 0x400 - 0xD800) * 0x400 +
        (0xDC00 + (c.toNat - 0x10000) % 0x400 - 0xDC00) = c.toNat := by omega
    rw [hcode, Char.ofNat_toNat]

theorem encode_cons (c : Char) (cs : List Char) : encode (c :: cs) = unitsOf c ++ encode cs :=
  rfl

theorem encode_append (cs ds : List Char) : encode (cs ++ ds) = encode cs ++ encode ds :=
  List.flatMap_append

/-- The units of a text are read as the text, whatever comes behind them. -/
theorem decode_encode_append (cs : List Char) (units : List UInt16) :
    decode (encode cs ++ units) = cs ++ decode units := by
  induction cs with
  | nil => rfl
  | cons c cs ih => rw [encode_cons, List.append_assoc, decode_unitsOf, ih, List.cons_append]

/-- The units of a text are read as the text. -/
theorem decode_encode (cs : List Char) : decode (encode cs) = cs := by
  have happend := decode_encode_append cs []
  rw [List.append_nil, decode, List.append_nil] at happend
  exact happend

/-- Of the units of a character only those of NUL are 0. -/
theorem eq_nul_of_zero_mem {c : Char} (h : 0 ∈ unitsOf c) : c = '\x00' := by
  unfold unitsOf at h
  split at h
  · rename_i hshort
    have hword : c.toNat.toUInt16.toNat = c.toNat := UInt16.toNat_ofNat_of_lt' hshort
    rw [← List.mem_singleton.mp h] at hword
    rw [← Char.ofNat_toNat c, ← hword]
    rfl
  · rename_i hlong
    have hlt := toNat_lt c
    simp only [List.mem_cons, List.not_mem_nil, or_false] at h
    rcases h with h | h
    · have hword := congrArg UInt16.toNat h
      rw [Nat.toUInt16, UInt16.toNat_ofNat_of_lt' (by show _ < 2 ^ 16; omega)] at hword
      rw [show (0 : UInt16).toNat = 0 from rfl] at hword
      omega
    · have hword := congrArg UInt16.toNat h
      rw [Nat.toUInt16, UInt16.toNat_ofNat_of_lt' (by show _ < 2 ^ 16; omega)] at hword
      rw [show (0 : UInt16).toNat = 0 from rfl] at hword
      omega

/-- The units of a text end in 0 only where the text ends in NUL. -/
theorem getLast?_encode_ne_zero {cs : List Char} (h : cs.getLast? ≠ some '\x00') :
    (encode cs).getLast? ≠ some 0 := by
  rcases List.eq_nil_or_concat cs with rfl | ⟨front, c, rfl⟩
  · simp [encode]
  · intro hlast
    rw [List.concat_eq_append, encode_append] at hlast
    have hunits : encode [c] = unitsOf c := List.append_nil _
    have hne : unitsOf c ≠ [] := by
      unfold unitsOf
      split <;> simp
    rw [hunits, List.getLast?_append, List.getLast?_eq_some_getLast hne, Option.some_or] at hlast
    rw [← List.getLast?_eq_some_getLast hne] at hlast
    have hnul := eq_nul_of_zero_mem (List.mem_of_getLast? hlast)
    rw [hnul] at h
    simp at h

/-! ## Units that are no text's -/

theorem length_unitsOf_short {c : Char} (h : c.toNat < 0x10000) : (unitsOf c).length = 1 := by
  unfold unitsOf
  rw [if_pos h]
  rfl

/-- A character of two units begins with the first half of a pair. -/
theorem unitsOf_long {c : Char} (h : ¬ c.toNat < 0x10000) : ∃ u v, unitsOf c = [u, v] ∧ isHigh u = true := by
  have hlt := toNat_lt c
  have hhigh : (0xD800 + (c.toNat - 0x10000) / 0x400).toUInt16.toNat = 0xD800 + (c.toNat - 0x10000) / 0x400 :=
    UInt16.toNat_ofNat_of_lt' (by show _ < 2 ^ 16; omega)
  exact ⟨_, _, if_neg h, isHigh_eq_true (by omega) (by omega)⟩

theorem length_unitsOf_long {c : Char} (h : ¬ c.toNat < 0x10000) : (unitsOf c).length = 2 := by
  obtain ⟨u, v, huv, -⟩ := unitsOf_long h
  rw [huv]
  rfl

/-- A unit is read as a character of one unit; the character is NUL only for 0. -/
theorem alone (u : UInt16) :
    (unitsOf (if isHigh u || isLow u then replacement else Char.ofNat u.toNat)).length = 1 ∧
      ((if isHigh u || isLow u then replacement else Char.ofNat u.toNat) = '\x00' → u = 0) := by
  split
  · exact ⟨by decide, fun h => absurd h (by decide)⟩
  · rename_i hno
    have hlt := u.toNat_lt
    have hvalid : u.toNat.isValidChar := by
      by_cases hlow : u.toNat < 0xD800
      · exact .inl hlow
      · refine .inr ⟨Decidable.byContradiction fun hsurrogate => ?_, by omega⟩
        rw [Bool.or_eq_true, not_or, Bool.not_eq_true, Bool.not_eq_true] at hno
        by_cases hmid : u.toNat < 0xDC00
        · rw [isHigh_eq_true (by omega) hmid] at hno
          cases hno.1
        · rw [isLow_eq_true (by omega) (by omega)] at hno
          cases hno.2
    have hcode : (Char.ofNat u.toNat).toNat = u.toNat := by
      rw [Char.ofNat, dif_pos hvalid]
      rfl
    refine ⟨length_unitsOf_short (by omega), fun hnul => ?_⟩
    rw [hnul] at hcode
    exact UInt16.toNat_inj.mp hcode.symm

theorem code_pair {u v : UInt16} (hu : isHigh u = true) (hv : isLow v = true) : 0x10000 ≤ (pair u v).toNat := by
  simp only [isHigh, isLow, UInt16.le_iff_toNat_le, UInt16.reduceToNat, Bool.and_eq_true,
    decide_eq_true_eq] at hu hv
  have hvalid : (0x10000 + (u.toNat - 0xD800) * 0x400 + (v.toNat - 0xDC00)).isValidChar :=
    .inr ⟨by omega, by omega⟩
  have hcode : (pair u v).toNat = 0x10000 + (u.toNat - 0xD800) * 0x400 + (v.toNat - 0xDC00) := by
    rw [pair, Char.ofNat, dif_pos hvalid]
    rfl
  omega

/-- A text that was read is written in as many units. -/
theorem length_encode_decode (units : List UInt16) : (encode (decode units)).length = units.length := by
  fun_induction decode units with
  | case1 => rfl
  | case2 u => exact (congrArg List.length (List.append_nil _)).trans (alone u).1
  | case3 u v rest hu hv ih =>
    have hlong := length_unitsOf_long (Nat.not_lt.mpr (code_pair hu hv))
    rw [encode_cons, List.length_append, hlong, ih, List.length_cons, List.length_cons]
    omega
  | case4 u v rest hu hv ih =>
    rw [encode_cons, List.length_append, ih, show (unitsOf replacement).length = 1 by decide]
    exact Nat.add_comm 1 _
  | case5 u v rest hu ih =>
    have hone := (alone u).1
    rw [Bool.not_eq_true] at hu
    rw [hu, Bool.false_or] at hone
    rw [encode_cons, List.length_append, ih, hone]
    exact Nat.add_comm 1 _

/-- A text that was read ends in NUL only where the units end in 0. -/
theorem getLast?_decode_ne_nul {units : List UInt16} (h : units.getLast? ≠ some 0) :
    (decode units).getLast? ≠ some '\x00' := by
  -- the last character is that of the last units, or the first one where there are no more units
  have hcons : ∀ {c : Char} {cs : List Char}, cs.getLast? ≠ some '\x00' → (cs = [] → c ≠ '\x00') →
      (c :: cs).getLast? ≠ some '\x00' := by
    intro c cs hlast hnil heq
    rw [List.getLast?_cons] at heq
    cases hcs : cs.getLast? with
    | none =>
      rw [hcs] at heq
      exact hnil (List.getLast?_eq_none_iff.mp hcs) (Option.some.inj heq)
    | some d =>
      rw [hcs] at heq
      exact hlast (hcs.trans heq)
  have hrest : ∀ {u : UInt16} {us : List UInt16}, (u :: us).getLast? ≠ some 0 → us.getLast? ≠ some 0 := by
    intro u us hlast heq
    rw [List.getLast?_cons, heq] at hlast
    exact hlast rfl
  fun_induction decode units with
  | case1 => simp
  | case2 u =>
    refine hcons (by simp) fun _ hnul => h ?_
    rw [(alone u).2 hnul]
    rfl
  | case3 u v rest hu hv ih =>
    refine hcons (ih (hrest (hrest h))) fun _ hnul => ?_
    have hcode := code_pair hu hv
    rw [hnul] at hcode
    exact absurd hcode (by decide)
  | case4 u v rest hu hv ih => exact hcons (ih (hrest h)) fun _ => by decide
  | case5 u v rest hu ih =>
    refine hcons (ih (hrest h)) fun hnil => ?_
    have hlength := length_encode_decode (v :: rest)
    rw [hnil] at hlength
    cases hlength

/-! ## Units and bytes -/

/-- A character takes no more units than bytes, and as many just when it is one of ASCII. -/
theorem length_unitsOf_le (c : Char) : (unitsOf c).length ≤ c.utf8Size ∧
    ((unitsOf c).length = c.utf8Size ↔ c.toNat < 0x80) := by
  by_cases hshort : c.toNat < 0x10000
  · rw [length_unitsOf_short hshort]
    refine ⟨c.utf8Size_pos, eq_comm.trans (Char.utf8Size_eq_one_iff.trans ?_)⟩
    rw [UInt32.le_iff_toNat_le]
    exact Nat.lt_succ_iff.symm
  · have hbytes : c.utf8Size = 4 := by
      rw [Char.utf8Size_eq_four_iff, UInt32.lt_iff_toNat_lt]
      exact Nat.not_lt.mp hshort
    rw [length_unitsOf_long hshort, hbytes]
    omega

/-- So it is with a text. -/
theorem length_encode_le (cs : List Char) : (encode cs).length ≤ (String.ofList cs).utf8ByteSize ∧
    ((encode cs).length = (String.ofList cs).utf8ByteSize ↔ ∀ c ∈ cs, c.toNat < 0x80) := by
  induction cs with
  | nil => simp [encode]
  | cons c cs ih =>
    have hone : (String.ofList [c]).utf8ByteSize = c.utf8Size := by simp
    have hbytes : (String.ofList (c :: cs)).utf8ByteSize = c.utf8Size + (String.ofList cs).utf8ByteSize := by
      rw [← List.singleton_append, String.ofList_append, String.utf8ByteSize_append, hone]
    obtain ⟨hle, heq⟩ := length_unitsOf_le c
    rw [encode_cons, List.length_append, hbytes, List.forall_mem_cons, ← heq, ← ih.2]
    omega

/-- A text has no more characters than units. -/
theorem length_le_encode (cs : List Char) : cs.length ≤ (encode cs).length := by
  induction cs with
  | nil => exact Nat.le_refl _
  | cons c cs ih =>
    have hpos : 1 ≤ (unitsOf c).length := by
      unfold unitsOf
      split <;> simp
    rw [encode_cons, List.length_append, List.length_cons]
    omega

/-- Where each character takes one unit, there are as many units as characters. -/
theorem length_encode_short {cs : List Char} (h : ∀ c ∈ cs, c.toNat < 0x10000) :
    (encode cs).length = cs.length := by
  induction cs with
  | nil => rfl
  | cons c cs ih =>
    have hrest := ih fun d hd => h d (List.mem_cons_of_mem c hd)
    rw [encode_cons, List.length_append, length_unitsOf_short (h c List.mem_cons_self), hrest, List.length_cons,
      Nat.add_comm]

/-- Where each character takes one unit, the first units are those of the first characters. -/
theorem encode_take {cs : List Char} (h : ∀ c ∈ cs, c.toNat < 0x10000) (n : Nat) :
    (encode cs).take n = encode (cs.take n) := by
  induction cs generalizing n with
  | nil => simp [encode]
  | cons c cs ih =>
    cases n with
    | zero => rfl
    | succ n =>
      obtain ⟨u, hu⟩ := List.length_eq_one_iff.mp (length_unitsOf_short (h c List.mem_cons_self))
      have hrest := ih (fun d hd => h d (List.mem_cons_of_mem c hd)) n
      rw [List.take_succ_cons, encode_cons, encode_cons, hu, List.singleton_append, List.singleton_append,
        List.take_succ_cons, hrest]

end Tether.Text.Utf16
