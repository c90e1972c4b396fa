import Mathlib.Data.List.DropRight
import Tether.Proofs.Ptp.Dataset

/-!
# Tether.Proofs.Ptp.Shortening — what a dataset leaves of a text

A dataset has room for a number of units, and a text is made of characters of one unit or two.  So a text for
which there is not enough room is cut between two characters, or one unit is left for a character of two.  In the
first case the characters in front of the cut are read, up to the NULs at their end; in the second case the
replacement character is read behind them, and what is read is no longer the front of the text
(`Dataset.whole_or_halved`).
-/

namespace Tether

namespace Text.Utf16

/-! ## Where a text is cut -/

/-- There is room for what stands in front, and not for another character. -/
structure Cut (room : Nat) (front back : List Char) : Prop where
  fits : (encode front).length ≤ room
  full : ∀ c ∈ back.head?, room < (encode front).length + (unitsOf c).length

/-- Every text is cut somewhere. -/
theorem exists_cut (room : Nat) (cs : List Char) : ∃ front back, cs = front ++ back ∧ Cut room front back := by
  induction cs generalizing room with
  | nil => exact ⟨[], [], rfl, Nat.zero_le _, nofun⟩
  | cons c cs ih =>
    by_cases hroom : (unitsOf c).length ≤ room
    · obtain ⟨front, back, hcs, hcut⟩ := ih (room - (unitsOf c).length)
      have hlength : (encode (c :: front)).length = (unitsOf c).length + (encode front).length := by
        rw [encode_cons, List.length_append]
      refine ⟨c :: front, back, by rw [hcs, List.cons_append], ?_, fun d hd => ?_⟩
      · have := hcut.fits
        omega
      · have := hcut.full d hd
        omega
    · refine ⟨[], c :: cs, rfl, Nat.zero_le _, fun d hd => ?_⟩
      obtain rfl : c = d := Option.some.inj hd
      show room < 0 + _
      omega

namespace Cut

variable {room : Nat} {front back : List Char}

/-- One unit is left for a character of two. -/
theorem of_long {c : Char} (hleft : (encode front).length + 1 = room) (hlong : ¬ c.toNat < 0x10000) :
    Cut room front (c :: back) := by
  have hlength := length_unitsOf_long hlong
  refine ⟨by omega, fun d hd => ?_⟩
  obtain rfl : c = d := Option.some.inj hd
  omega

/-- At the cut there is no room left, unless there is one unit left for a character of two. -/
theorem left (h : Cut room front back) :
    (encode front).length = room ∨ back = [] ∨
      ∃ c rest, back = c :: rest ∧ (encode front).length + 1 = room ∧ ¬ c.toNat < 0x10000 := by
  have hfits := h.fits
  cases back with
  | nil => exact .inr (.inl rfl)
  | cons c rest =>
    have hfull := h.full c rfl
    by_cases hshort : c.toNat < 0x10000
    · rw [length_unitsOf_short hshort] at hfull
      exact .inl (by omega)
    · rw [length_unitsOf_long hshort] at hfull
      by_cases hroom : (encode front).length = room
      · exact .inl hroom
      · exact .inr (.inr ⟨c, rest, rfl, by omega, hshort⟩)

/-- The units for which there is room are those of the front and as many of what comes behind it as there is room
left for. -/
theorem take_encode (h : Cut room front back) :
    (encode (front ++ back)).take room = encode front ++ (encode back).take (room - (encode front).length) := by
  rw [encode_append, List.take_append, List.take_of_length_le h.fits]

end Cut

end Text.Utf16

namespace Ptp.Dataset

open Text.Utf16 (Cut encode decode replacement)

/-- One of the units that a dataset has room for is left for a character of two. -/
def Halves (s : String) : Prop :=
  ∃ front c rest, s.toList = front ++ c :: rest ∧ (encode front).length + 1 = maxTextUnits ∧ ¬ c.toNat < 0x10000

/-! ## What is told of a text -/

/-- NULs at the end of the units are NULs at the end of the text. -/
theorem dropNuls_encode (cs : List Char) : dropNuls (encode cs) = encode (cs.rdropWhile (· == '\x00')) := by
  induction cs using List.reverseRecOn with
  | nil => rfl
  | append_singleton cs c ih =>
    by_cases hnul : c = '\x00'
    · have hunits : encode ['\x00'] = [0] := rfl
      rw [hnul, Text.Utf16.encode_append, hunits, dropNuls_concat, ih, List.rdropWhile_concat_pos _ _ _ rfl]
    · have hlast : (cs ++ [c]).getLast? ≠ some '\x00' := by
        rw [List.getLast?_concat]
        exact fun h => hnul (Option.some.inj h)
      rw [dropNuls_of_getLast? (Text.Utf16.getLast?_encode_ne_zero hlast),
        List.rdropWhile_concat_neg _ _ _ (by simpa using hnul)]

/-- Where no character is halved, the front is told up to the NULs at its end. -/
theorem told_of_not_halves {s : String} {front back : List Char} (hs : s.toList = front ++ back)
    (hcut : Cut maxTextUnits front back) (hno : ¬ Halves s) :
    told s = String.ofList (front.rdropWhile (· == '\x00')) := by
  have hnone : (encode back).take (maxTextUnits - (encode front).length) = [] := by
    rcases hcut.left with hroom | rfl | ⟨c, rest, rfl, hleft, hlong⟩
    · rw [hroom, Nat.sub_self, List.take_zero]
    · exact List.take_nil
    · exact absurd ⟨front, c, rest, hs, hleft, hlong⟩ hno
  rw [told, hs, hcut.take_encode, hnone, List.append_nil, dropNuls_encode, Text.Utf16.decode_encode]

/-- Where a character is halved, the replacement character is told behind the front. -/
theorem told_of_halves {s : String} {front rest : List Char} {c : Char} (hs : s.toList = front ++ c :: rest)
    (hleft : (encode front).length + 1 = maxTextUnits) (hlong : ¬ c.toNat < 0x10000) :
    told s = String.ofList (front ++ [replacement]) := by
  obtain ⟨u, v, hunits, hhigh⟩ := Text.Utf16.unitsOf_long hlong
  have hone : (encode (c :: rest)).take (maxTextUnits - (encode front).length) = [u] := by
    rw [← hleft, Nat.add_sub_cancel_left, Text.Utf16.encode_cons, hunits]
    rfl
  have hlast : (encode front ++ [u]).getLast? ≠ some 0 := by
    rw [List.getLast?_concat]
    rintro ⟨⟩
    exact absurd hhigh (by decide)
  have halone : decode [u] = [replacement] := by
    rw [decode, hhigh]
    rfl
  rw [told, hs, (Cut.of_long hleft hlong).take_encode, hone, dropNuls_of_getLast? hlast,
    Text.Utf16.decode_encode_append, halone]

/-- A dataset tells all of a text just when the text fits. -/
theorem told_eq_self_iff {s : String} : told s = s ↔ TextFits s :=
  ⟨fun h => h ▸ textFits_told s, told_of_fits⟩

/-- A character of two units is not the one that is read for half of it. -/
theorem not_prefix_of_long {front rest : List Char} {c : Char} (hlong : ¬ c.toNat < 0x10000) :
    ¬ front ++ [replacement] <+: front ++ c :: rest := by
  rw [List.prefix_append_right_inj, List.cons_prefix_cons]
  rintro ⟨rfl, -⟩
  exact hlong (by decide)

/-! ## What is read of it -/

/-- Every text is cut where there is no room for another character.  What is read off exactly the bytes that were
written is a front of the text, unless a character is halved, and it is all of the text just when that has room
and no NUL at its end.  More precisely it is what stands in front of the cut: up to the NULs at its end, or with
the replacement character behind it for the character that is halved. -/
theorem whole_or_halved (field s : String) :
    ∃ kept front back, s.toList = front ++ back ∧ Cut maxTextUnits front back ∧
      (text field).Takes (ofText s) (String.ofList kept) ∧
      (kept <+: s.toList ↔ ¬ Halves s) ∧
      (String.ofList kept = s ↔ TextFits s) ∧
      (¬ Halves s ∧ kept = front.rdropWhile (· == '\x00') ∨ Halves s ∧ kept = front ++ [replacement]) := by
  have htakes := takes_text field s
  have hself := @told_eq_self_iff s
  by_cases hhalves : Halves s
  · obtain ⟨front, c, rest, hs, hleft, hlong⟩ := id hhalves
    rw [told_of_halves hs hleft hlong] at htakes hself
    refine ⟨_, front, c :: rest, hs, .of_long hleft hlong, htakes, ?_, hself, .inr ⟨hhalves, rfl⟩⟩
    rw [hs]
    exact iff_of_false (not_prefix_of_long hlong) (not_not_intro hhalves)
  · obtain ⟨front, back, hs, hcut⟩ := Text.Utf16.exists_cut maxTextUnits s.toList
    rw [told_of_not_halves hs hcut hhalves] at htakes hself
    refine ⟨_, front, back, hs, hcut, htakes, ?_, hself, .inl ⟨hhalves, rfl⟩⟩
    rw [hs]
    exact iff_of_true ((List.rdropWhile_prefix _ _).trans (List.prefix_append _ _)) hhalves

/-- A text of 255 units whose last character takes two of them: another character is read instead. -/
theorem last_character_halved :
    ∃ kept, text "Filename" (ofText (String.ofList (List.replicate 253 'A' ++ ['🙂']))) =
      (.ok (String.ofList kept), []) ∧
      kept = List.replicate 253 'A' ++ ['\uFFFD'] ∧ ¬ kept <+: List.replicate 253 'A' ++ ['🙂'] := by
  have hshort : ∀ c ∈ List.replicate 253 'A', c.toNat < 0x10000 := fun c hc => by
    rw [List.eq_of_mem_replicate hc]
    decide
  have hleft : (encode (List.replicate 253 'A')).length + 1 = maxTextUnits := by
    rw [Text.Utf16.length_encode_short hshort, List.length_replicate]
    rfl
  have hlong : ¬ ('🙂').toNat < 0x10000 := by decide
  have hread := (takes_text "Filename" (String.ofList (List.replicate 253 'A' ++ ['🙂']))).whole []
  rw [List.append_nil, told_of_halves String.toList_ofList hleft hlong] at hread
  exact ⟨_, hread, rfl, not_prefix_of_long hlong⟩

end Ptp.Dataset

end Tether
