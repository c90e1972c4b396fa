import Tether.Proofs.Calendar.DateText
import Tether.Proofs.Ptp.Frame
import Tether.Proofs.Text.Utf16
import Tether.Ptp.Dataset

/-!
# Tether.Proofs.Ptp.Dataset — the fields of a dataset end where they say

`d.Takes bytes a` says that the decoder `d` takes `a` off the front of whatever begins with `bytes`, and that it
fails on everything shorter.  It holds of a word and the bytes of the word, and a decoder of two fields takes the
bytes of the one and then those of the other (`Takes.bind`), so a dataset is read by going through its fields
once.

A text is read as it is told: without what stands behind its first 254 units and without NULs at its end.
-/

namespace Tether

namespace Bytes

theorem u64_ofU64 (w : UInt64) : u64 w.toUInt32 (w >>> 32).toUInt32 = w := by
  have hw := w.toNat_lt
  apply UInt64.toNat_inj.mp
  simp only [u64, UInt64.toNat_or, UInt64.toNat_shiftLeft, UInt32.toNat_toUInt64, UInt64.toNat_toUInt32,
    UInt64.toNat_shiftRight, UInt64.reduceToNat, Nat.reduceMod, Nat.shiftRight_eq_div_pow]
  have hhigh : (w.toNat / 2 ^ 32 % 2 ^ 32) <<< 32 % 2 ^ 64 = (w.toNat / 2 ^ 32 % 2 ^ 32) <<< 32 := by
    rw [Nat.shiftLeft_eq]
    omega
  rw [hhigh, lor_shiftLeft (by omega)]
  omega

theorem toU16s_ofU16s (ws : List UInt16) : toU16s (ofU16s ws) = ws := by
  induction ws with
  | nil => rfl
  | cons w ws ih =>
    show u16 _ _ :: toU16s (ofU16s ws) = _
    rw [u16_ofU16, ih]

theorem length_ofU16s (ws : List UInt16) : (ofU16s ws).length = ws.length * 2 := by
  induction ws with
  | nil => rfl
  | cons w ws ih =>
    have hcons : ofU16s (w :: ws) = ofU16 w ++ ofU16s ws := rfl
    rw [hcons, List.length_append, length_ofU16, ih, List.length_cons]
    omega

end Bytes

namespace Decoder

variable {α β : Type}

/-- The decoder takes the value off these bytes, whatever comes behind them, and fails when some of them are
missing. -/
structure Takes (d : Decoder α) (bytes : Bytes) (a : α) : Prop where
  /-- All bytes are there. -/
  whole : ∀ rest, d (bytes ++ rest) = (.ok a, rest)
  /-- The last bytes are missing. -/
  part : ∀ front more, bytes = front ++ more → more ≠ [] → ∃ s rest, d front = (.error s, rest)

/-! ## Putting decoders together -/

theorem takes_pure (a : α) : Takes (pure a) [] a := by
  refine ⟨fun rest => rfl, fun front more h hmore => ?_⟩
  exact absurd (List.append_eq_nil_iff.mp h.symm).2 hmore

/-- One field after the other. -/
theorem Takes.bind {x : Decoder α} {f : α → Decoder β} {b₁ b₂ : Bytes} {a : α} {b : β} (hx : x.Takes b₁ a)
    (hf : (f a).Takes b₂ b) : (x >>= f).Takes (b₁ ++ b₂) b := by
  constructor
  · intro rest
    rw [Action.bind_apply, List.append_assoc, hx.whole]
    exact hf.whole rest
  · intro front more h hmore
    rw [Action.bind_apply]
    rcases List.append_eq_append_iff.mp h with ⟨t, hfront, ht⟩ | ⟨t, hb₁, hmore'⟩
    · -- the first field is there, so the second one is cut
      rw [hfront, hx.whole]
      exact hf.part t more ht hmore
    · rcases List.eq_nil_or_concat t with rfl | ⟨_, _, rfl⟩
      · have hfront : front = b₁ ++ [] := by
          rw [List.append_nil] at hb₁ ⊢
          exact hb₁.symm
        rw [hfront, hx.whole]
        exact hf.part [] more (by simpa using hmore'.symm) hmore
      · obtain ⟨s, rest, hs⟩ := hx.part front _ hb₁ (by simp)
        exact ⟨s, rest, by rw [hs]⟩

/-- The last field of a record. -/
theorem Takes.last {x : Decoder α} {f : α → β} {bytes : Bytes} {a : α} (hx : x.Takes bytes a) :
    (x >>= fun a => pure (f a) : Decoder β).Takes bytes (f a) := by
  have h := hx.bind (f := fun a => pure (f a)) (takes_pure (f a))
  rw [List.append_nil] at h
  exact h

/-! ## Words -/

/-- What is cut off bytes that suffice is shorter than they are. -/
theorem length_lt_of_part {bytes front more : Bytes} (h : bytes = front ++ more) (hmore : more ≠ []) :
    front.length < bytes.length := by
  have hpos := List.length_pos_iff.mpr hmore
  rw [h, List.length_append]
  omega

theorem takes_u8 (field : String) (b : UInt8) : (u8 field).Takes [b] b := by
  refine ⟨fun rest => rfl, fun front more h hmore => ?_⟩
  have hlength := length_lt_of_part h hmore
  unfold u8
  split
  · simp at hlength
  · exact ⟨_, _, rfl⟩

theorem takes_u16 (field : String) (w : UInt16) : (u16 field).Takes (Bytes.ofU16 w) w := by
  constructor
  · intro rest
    show (Except.ok (Bytes.u16 _ _), rest) = _
    rw [Bytes.u16_ofU16]
  · intro front more h hmore
    have hlength := length_lt_of_part h hmore
    rw [Bytes.length_ofU16] at hlength
    unfold u16
    split
    · simp only [List.length_cons] at hlength
      omega
    · exact ⟨_, _, rfl⟩

theorem takes_u32 (field : String) (w : UInt32) : (u32 field).Takes (Bytes.ofU32 w) w := by
  constructor
  · intro rest
    show (Except.ok (Bytes.u32 _ _ _ _), rest) = _
    rw [Bytes.u32_ofU32]
  · intro front more h hmore
    have hlength := length_lt_of_part h hmore
    rw [Bytes.length_ofU32] at hlength
    unfold u32
    split
    · simp only [List.length_cons] at hlength
      omega
    · exact ⟨_, _, rfl⟩

theorem takes_u64 (field : String) (w : UInt64) : (u64 field).Takes (Bytes.ofU64 w) w := by
  constructor
  · intro rest
    show (Except.ok (Bytes.u64 (Bytes.u32 _ _ _ _) (Bytes.u32 _ _ _ _)), rest) = _
    rw [Bytes.u32_ofU32, Bytes.u32_ofU32, Bytes.u64_ofU64]
  · intro front more h hmore
    have hlength := length_lt_of_part h hmore
    rw [Bytes.length_ofU64] at hlength
    unfold u64
    split
    · simp only [List.length_cons] at hlength
      omega
    · exact ⟨_, _, rfl⟩

theorem takes_raw (field : String) (bytes : Bytes) : (raw field bytes.length).Takes bytes bytes := by
  constructor
  · intro rest
    have henough : ¬ (bytes ++ rest).length < bytes.length := by
      rw [List.length_append]
      omega
    rw [raw, if_neg henough, List.take_left, List.drop_left]
  · intro front more h hmore
    have hlength := length_lt_of_part h hmore
    exact ⟨_, _, by rw [raw, if_pos hlength]⟩

/-! ## Lists of words -/

theorem takes_u16s (field : String) {ws : List UInt16} (h : ws.length < 2 ^ 32) :
    (u16s field).Takes (Ptp.Dataset.ofU16List ws) ws := by
  have hcount : 2 * (UInt32.ofNat ws.length).toNat = (Bytes.ofU16s ws).length := by
    rw [UInt32.toNat_ofNat_of_lt' h, Bytes.length_ofU16s, Nat.mul_comm]
  have hlast := (takes_raw field (Bytes.ofU16s ws)).last (f := Bytes.toU16s)
  rw [← hcount, Bytes.toU16s_ofU16s] at hlast
  exact (takes_u32 field (UInt32.ofNat ws.length)).bind hlast

theorem takes_u32s (field : String) {ws : List UInt32} (h : ws.length < 2 ^ 32) :
    (u32s field).Takes (Ptp.Dataset.ofU32List ws) ws := by
  have hcount : 4 * (UInt32.ofNat ws.length).toNat = (Bytes.ofU32s ws).length := by
    rw [UInt32.toNat_ofNat_of_lt' h, Bytes.length_ofU32s, Nat.mul_comm]
  have hlast := (takes_raw field (Bytes.ofU32s ws)).last (f := Bytes.toU32s)
  rw [← hcount, Bytes.toU32s_ofU32s] at hlast
  exact (takes_u32 field (UInt32.ofNat ws.length)).bind hlast

end Decoder

namespace Ptp.Dataset

open Calendar (Instant DateText.parse DateText.format)

/-! ## Texts -/

/-- A text as a dataset tells it. -/
def told (s : String) : String :=
  String.ofList (Text.Utf16.decode (dropNuls ((Text.Utf16.encode s.toList).take maxTextUnits)))

/-- A dataset tells all of the text: there is room for it, and its end is not taken for the closing NUL. -/
structure TextFits (s : String) : Prop where
  units : (Text.Utf16.encode s.toList).length ≤ maxTextUnits
  ending : s.toList.getLast? ≠ some '\x00'

theorem dropNuls_concat (units : List UInt16) : dropNuls (units ++ [0]) = dropNuls units := by
  unfold dropNuls
  rw [List.reverse_append, List.reverse_singleton, List.singleton_append, List.dropWhile_cons_of_pos (by decide)]

theorem dropNuls_of_getLast? {units : List UInt16} (h : units.getLast? ≠ some 0) : dropNuls units = units := by
  rcases List.eq_nil_or_concat units with rfl | ⟨front, u, rfl⟩
  · rfl
  · rw [List.concat_eq_append] at h ⊢
    have hu : u ≠ 0 := by simpa using h
    unfold dropNuls
    rw [List.reverse_append, List.reverse_singleton, List.singleton_append,
      List.dropWhile_cons_of_neg (by simpa using hu), List.reverse_cons, List.reverse_reverse]

theorem told_of_fits {s : String} (h : TextFits s) : told s = s := by
  have hlast := Text.Utf16.getLast?_encode_ne_zero h.ending
  rw [told, List.take_of_length_le h.units, dropNuls_of_getLast? hlast, Text.Utf16.decode_encode,
    String.ofList_toList]

/-- Where each character is one unit, as many of them are told as there is room for. -/
theorem told_eq_take {s : String} (hshort : ∀ c ∈ s.toList, c.toNat < 0x10000) (hnul : '\x00' ∉ s.toList) :
    told s = String.ofList (s.toList.take maxTextUnits) := by
  have hending : (s.toList.take maxTextUnits).getLast? ≠ some '\x00' := fun hlast =>
    hnul (List.mem_of_mem_take (List.mem_of_getLast? hlast))
  rw [told, Text.Utf16.encode_take hshort, dropNuls_of_getLast? (Text.Utf16.getLast?_encode_ne_zero hending),
    Text.Utf16.decode_encode]

theorem length_dropNuls_le (units : List UInt16) : (dropNuls units).length ≤ units.length := by
  unfold dropNuls
  rw [List.length_reverse]
  exact Nat.le_trans (List.dropWhile_sublist _).length_le (Nat.le_of_eq List.length_reverse)

theorem getLast?_dropNuls_ne_zero (units : List UInt16) : (dropNuls units).getLast? ≠ some 0 := by
  intro heq
  unfold dropNuls at heq
  rw [List.getLast?_reverse] at heq
  have hhead := List.head?_dropWhile_not (fun u : UInt16 => u == 0) units.reverse
  rw [heq] at hhead
  cases hhead

/-- What was told fits. -/
theorem textFits_told (s : String) : TextFits (told s) := by
  unfold told
  refine ⟨?_, ?_⟩
  · rw [String.toList_ofList, Text.Utf16.length_encode_decode]
    exact Nat.le_trans (length_dropNuls_le _) (List.length_take_le _ _)
  · rw [String.toList_ofList]
    exact Text.Utf16.getLast?_decode_ne_nul (getLast?_dropNuls_ne_zero _)

/-- What was told is told again as it is. -/
theorem told_told (s : String) : told (told s) = told s :=
  told_of_fits (textFits_told s)

/-- Units behind their number are read as a text, closed or not. -/
theorem takes_units (field : String) {units : List UInt16} (h : units.length < 256) :
    (text field).Takes (UInt8.ofNat units.length :: Bytes.ofU16s units)
      (String.ofList (Text.Utf16.decode (dropNuls units))) := by
  have hcount : 2 * (UInt8.ofNat units.length).toNat = (Bytes.ofU16s units).length := by
    rw [UInt8.toNat_ofNat_of_lt' h, Bytes.length_ofU16s, Nat.mul_comm]
  have hlast := (Decoder.takes_raw field (Bytes.ofU16s units)).last
    (f := fun bytes => String.ofList (Text.Utf16.decode (dropNuls (Bytes.toU16s bytes))))
  rw [← hcount, Bytes.toU16s_ofU16s] at hlast
  exact (Decoder.takes_u8 field (UInt8.ofNat units.length)).bind hlast

/-- A text is read as it is told, and ends where its number of units says. -/
theorem takes_text (field : String) (s : String) : (text field).Takes (ofText s) (told s) := by
  unfold ofText told
  split
  · rename_i hnone
    rw [hnone]
    exact @takes_units field [] (by decide)
  · generalize hunits : (Text.Utf16.encode s.toList).take maxTextUnits = units
    have hshort : units.length ≤ 254 := by
      rw [← hunits, List.length_take]
      exact Nat.min_le_left _ _
    have hlength : (units ++ [0]).length = units.length + 1 := by rw [List.length_append, List.length_singleton]
    have hclosed : Bytes.ofU16s units ++ Bytes.ofU16 0 = Bytes.ofU16s (units ++ [0]) := by
      rw [Bytes.ofU16s, Bytes.ofU16s, List.flatMap_append]
      rfl
    rw [hclosed, ← hlength, ← dropNuls_concat]
    exact takes_units field (by omega)

theorem takes_text_of_fits (field : String) {s : String} (h : TextFits s) : (text field).Takes (ofText s) s := by
  have htakes := takes_text field s
  rw [told_of_fits h] at htakes
  exact htakes

theorem textFits_empty : TextFits "" :=
  ⟨by decide, by decide⟩

/-! ## Dates -/

/-- A date as a dataset tells it. -/
def toldDate (d : Option Instant) : Option Instant :=
  DateText.parse (told (d.elim "" DateText.format))

/-- A dataset tells all of the date: a full second of a year of four digits. -/
structure DateFits (t : Instant) : Prop where
  low : 0 ≤ t.date.year
  high : t.date.year ≤ 9999
  second : t.nanosecond = Instant.noFraction

theorem toldDate_none : toldDate none = none := by
  have hempty : told "" = "" := told_of_fits textFits_empty
  have hsplit : Calendar.DateText.splitBytes 15 (Text.trim "".toList) = none := by
    show Calendar.DateText.splitBytes 15 [] = none
    rw [Calendar.DateText.splitBytes]
  rw [toldDate, Option.elim_none, hempty, DateText.parse, hsplit]
  rfl

/-- The text of a date has fifteen characters of one unit each. -/
theorem textFits_format {t : Instant} (h : DateFits t) : TextFits (DateText.format t) := by
  have hshort : ∀ c ∈ (DateText.format t).toList, c.toNat < 0x10000 :=
    Calendar.DateText.forall_mem_format h.low h.high (by decide) fun d hd => by interval_cases d <;> decide
  have hnul : ∀ c ∈ (DateText.format t).toList, c ≠ '\x00' :=
    Calendar.DateText.forall_mem_format h.low h.high (by decide) fun d hd => by interval_cases d <;> decide
  constructor
  · rw [Text.Utf16.length_encode_short hshort, Calendar.DateText.length_format h.low h.high]
    decide
  · intro hlast
    exact hnul _ (List.mem_of_getLast? hlast) rfl

theorem toldDate_of_fits {d : Option Instant} (h : ∀ t ∈ d, DateFits t) : toldDate d = d := by
  cases d with
  | none => exact toldDate_none
  | some t =>
    have ht := h t rfl
    rw [toldDate, Option.elim_some, told_of_fits (textFits_format ht),
      Calendar.DateText.parse_format ht.low ht.high ht.second]

/-- A date is read as it is told. -/
theorem takes_date (field : String) (d : Option Instant) : (date field).Takes (ofDate d) (toldDate d) := by
  have hbytes : ofDate d = ofText (d.elim "" DateText.format) := by
    cases d <;> rfl
  rw [hbytes]
  exact (takes_text field _).last

/-! ## Datasets -/

/-- The reader of a dataset takes these bytes for the record, whatever comes behind them, and refuses any first
part of them. -/
structure Delimits {α : Type} (parse : Bytes → Except PtpError α) (bytes : Bytes) (a : α) : Prop where
  /-- All bytes are there. -/
  whole : ∀ rest, parse (bytes ++ rest) = .ok a
  /-- The last bytes are missing. -/
  part : ∀ front, front <+: bytes → front ≠ bytes → ∃ fault, parse front = .error (.invalidDataset fault)

/-- A dataset ends where its fields end. -/
theorem delimits_of_takes {α : Type} (dataset : String) {decoder : Decoder α} {bytes : Bytes} {a : α}
    (h : decoder.Takes bytes a) : Delimits (parse dataset decoder) bytes a := by
  constructor
  · intro rest
    rw [parse, h.whole]
  · rintro front ⟨more, hmore⟩ hne
    have hrest : more ≠ [] := by
      rintro rfl
      rw [List.append_nil] at hmore
      exact hne hmore
    obtain ⟨s, rest, hs⟩ := h.part front more hmore.symm hrest
    exact ⟨_, by rw [parse, hs]⟩

/-- The reader of a dataset answers what its decoder takes off all of the bytes. -/
theorem parse_of_takes {α : Type} (dataset : String) {decoder : Decoder α} {bytes : Bytes} {a : α}
    (h : decoder.Takes bytes a) : parse dataset decoder bytes = .ok a := by
  have hwhole := (delimits_of_takes dataset h).whole []
  rw [List.append_nil] at hwhole
  exact hwhole

/-- A list of words survives a dataset of its own. -/
theorem parseU32List_ofU32List (what : String) {ws : List UInt32} (h : ws.length < 2 ^ 32) :
    parseU32List what (ofU32List ws) = .ok ws :=
  parse_of_takes what (Decoder.takes_u32s what h)

end Ptp.Dataset

end Tether
