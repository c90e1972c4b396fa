import Tether.Proofs.Calendar.SignedYear
import Tether.Proofs.Ptp.Records

/-!
# Tether.Proofs.Ptp.Reencoding — what was read off a dataset is written again

A dataset is read more widely than it is written.  A text of 255 units is read whole where it is not closed by a
NUL, but only 254 units are written before the NUL.  The offset of a date may lead out of the years of four
digits, and no reader takes what is written for such a year.  Everything else that is read is read again from
what is written for it: the texts have no NUL at their end, a character stands for each surrogate alone, the
dates are full seconds, every format is under its name and the lists can be counted.  So a record comes back as
it was just when its texts have room and its dates have four digits for the year (`reencoding`), and what came
back once comes back unchanged.
-/

namespace Tether

theorem Bytes.length_toU16s (bytes : Bytes) : (toU16s bytes).length = bytes.length / 2 := by
  fun_induction toU16s bytes with
  | case1 b₀ b₁ rest ih =>
    rw [List.length_cons, ih, List.length_cons, List.length_cons]
    omega
  | case2 bytes hshort =>
    match bytes, hshort with
    | [], _ => rfl
    | [_], _ => exact (Nat.div_eq_of_lt Nat.one_lt_two).symm
    | b₀ :: b₁ :: rest, hshort => exact absurd rfl (hshort b₀ b₁ rest)

namespace Decoder

variable {α β : Type} {P : α → Prop} {Q : β → Prop}

/-- Whatever is read, it is of this kind. -/
def Gives (d : Decoder α) (P : α → Prop) : Prop :=
  ∀ bytes a rest, d bytes = (.ok a, rest) → P a

theorem gives_any (d : Decoder α) : d.Gives fun _ => True :=
  fun _ _ _ _ => trivial

theorem gives_pure {a : α} (h : P a) : (pure a : Decoder α).Gives P := by
  intro bytes b rest hb
  cases hb
  exact h

theorem Gives.bind {x : Decoder α} {f : α → Decoder β} (hx : x.Gives P) (hf : ∀ a, P a → (f a).Gives Q) :
    (x >>= f).Gives Q := by
  intro bytes b rest h
  rw [Action.bind_apply] at h
  split at h
  · rename_i a left hread
    exact hf a (hx _ _ _ hread) _ _ _ h
  · cases h

theorem gives_raw (field : String) (n : Nat) : (raw field n).Gives fun bytes => bytes.length = n := by
  intro bytes a rest h
  unfold raw at h
  split at h
  · cases h
  · rename_i henough
    cases h
    rw [List.length_take]
    omega

theorem gives_u16s (field : String) : (u16s field).Gives fun ws => ws.length < 2 ^ 32 := by
  refine (gives_any (u32 field)).bind fun count _ => (gives_raw field _).bind fun bytes hbytes => gives_pure ?_
  have hcount := count.toNat_lt
  rw [Bytes.length_toU16s, hbytes]
  omega

end Decoder

namespace Ptp

open Calendar (Instant)
open Decoder (gives_any gives_pure gives_u16s)

namespace Dataset

/-- There is room for the text in a dataset. -/
def HasRoom (s : String) : Prop :=
  (Text.Utf16.encode s.toList).length ≤ maxTextUnits

instance (s : String) : Decidable (HasRoom s) :=
  inferInstanceAs (Decidable ((Text.Utf16.encode s.toList).length ≤ maxTextUnits))

/-- Four digits are enough for the year of the date, if there is a date. -/
def FourDigits (d : Option Instant) : Prop :=
  ∀ t ∈ d, 0 ≤ t.date.year ∧ t.date.year ≤ 9999

instance (d : Option Instant) : Decidable (FourDigits d) :=
  inferInstanceAs (Decidable (∀ t ∈ d, 0 ≤ t.date.year ∧ t.date.year ≤ 9999))

/-! ## What is read as a text or a date -/

/-- What is read has no NUL at its end. -/
theorem gives_text (field : String) : (text field).Gives fun s => s.toList.getLast? ≠ some '\x00' := by
  refine (gives_any _).bind fun _ _ => (gives_any _).bind fun _ _ => gives_pure ?_
  rw [String.toList_ofList]
  exact Text.Utf16.getLast?_decode_ne_nul (getLast?_dropNuls_ne_zero _)

theorem gives_date (field : String) : (date field).Gives fun d => ∀ t ∈ d, t.nanosecond = Instant.noFraction := by
  refine (gives_any _).bind fun _ _ => gives_pure fun t ht => ?_
  exact Calendar.DateText.nanosecond_of_parse ht

/-! ## What a dataset tells again -/

/-- A text without a NUL at its end is told as it is where there is room for it. -/
theorem told_eq_iff {s : String} (h : s.toList.getLast? ≠ some '\x00') : told s = s ↔ HasRoom s := by
  constructor
  · intro heq
    have hfits := textFits_told s
    rw [heq] at hfits
    exact hfits.units
  · intro hroom
    exact told_of_fits ⟨hroom, h⟩

/-- Nothing but a text that is no date is told of a year that is not of four digits. -/
theorem toldDate_signed {t : Instant} (h : ¬ (0 ≤ t.date.year ∧ t.date.year ≤ 9999)) :
    toldDate (some t) = none := by
  have hvisible : ∀ {c}, c ∈ (Calendar.DateText.format t).toList → 0x20 < c.toNat ∧ c.toNat < 0x80 :=
    Calendar.DateText.visible_of_mem_format h
  have hshort : ∀ c ∈ (Calendar.DateText.format t).toList, c.toNat < 0x10000 := by
    intro c hc
    have := hvisible hc
    omega
  have hnul : '\x00' ∉ (Calendar.DateText.format t).toList := fun hmem => absurd (hvisible hmem).1 (by decide)
  rw [toldDate, Option.elim_some, told_eq_take hshort hnul]
  exact Calendar.DateText.parse_take_format h maxTextUnits

/-- A full second is told or lost. -/
theorem toldDate_eq {d : Option Instant} (h : ∀ t ∈ d, t.nanosecond = Instant.noFraction) :
    toldDate d = d ∧ FourDigits d ∨ toldDate d = none ∧ ¬ FourDigits d := by
  by_cases hfour : FourDigits d
  · exact .inl ⟨toldDate_of_fits fun t ht => ⟨(hfour t ht).1, (hfour t ht).2, h t ht⟩, hfour⟩
  · cases d with
    | none => exact absurd (fun t ht => by cases ht) hfour
    | some t =>
      refine .inr ⟨toldDate_signed fun hyear => hfour ?_, hfour⟩
      rintro _ ⟨⟩
      exact hyear

theorem toldDate_eq_iff {d : Option Instant} (h : ∀ t ∈ d, t.nanosecond = Instant.noFraction) :
    toldDate d = d ↔ FourDigits d := by
  rcases toldDate_eq h with ⟨heq, hfour⟩ | ⟨hnone, hfour⟩
  · exact iff_of_true heq hfour
  · refine iff_of_false (fun heq => hfour ?_) hfour
    rw [← heq, hnone]
    intro t ht
    cases ht

/-- What was told of a date is told again as it is. -/
theorem toldDate_toldDate {d : Option Instant} (h : ∀ t ∈ d, t.nanosecond = Instant.noFraction) :
    toldDate (toldDate d) = toldDate d := by
  rcases toldDate_eq h with ⟨heq, -⟩ | ⟨hnone, -⟩
  · rw [heq, heq]
  · rw [hnone, toldDate_none]

/-- What a reader of datasets answers is what its decoder reads. -/
theorem of_parse {α : Type} {dataset : String} {decoder : Decoder α} {P : α → Prop} (hgives : decoder.Gives P)
    {payload : Bytes} {a : α} (h : parse dataset decoder payload = .ok a) : P a := by
  unfold parse at h
  split at h
  · rename_i hread
    cases h
    exact hgives _ _ _ hread
  · cases h

end Dataset

open Decoder (takes_u16 takes_u32)
open Dataset (HasRoom FourDigits)
open Dataset (gives_text gives_date told_eq_iff toldDate_eq_iff takes_text_of_fits textFits_empty)

theorem ObjectFormat.canonical_ofCode (code : UInt16) : (ofCode code).Canonical := by
  intro other h
  have hcode := ObjectFormat.code_ofCode code
  rw [h] at hcode
  obtain rfl : other = code := hcode
  exact h

/-! ## The records -/

/-- A record that was read is read again off what is written for it: as it is told, which is as it was just where
nothing of it is too large for a dataset.  What came back comes back as it is. -/
structure Relays {α : Type} (parse : Bytes → Except PtpError α) (encode : α → Bytes) (record told : α)
    (small : Prop) :
    Prop where
  once : parse (encode record) = .ok told
  twice : parse (encode told) = .ok told
  same : told = record ↔ small

namespace DeviceInfo

/-- All texts of the record. -/
def texts (info : DeviceInfo) : List String :=
  [info.vendorExtensionDesc, info.manufacturer, info.model, info.deviceVersion, info.serialNumber]

/-- What is read as a record. -/
structure Read (info : DeviceInfo) : Prop where
  countable : info.Countable
  endings : ∀ s ∈ info.texts, s.toList.getLast? ≠ some '\x00'

theorem gives_decoder : decoder.Gives Read := by
  refine (gives_any _).bind fun _ _ => (gives_any _).bind fun _ _ => (gives_any _).bind fun _ _ =>
    (gives_text _).bind fun _ hdesc => (gives_any _).bind fun _ _ => ?_
  refine (gives_u16s _).bind fun _ hoperations => (gives_u16s _).bind fun _ hevents =>
      (gives_u16s _).bind fun _ hproperties =>
    (gives_u16s _).bind fun _ hcapture => (gives_u16s _).bind fun _ himage => ?_
  refine (gives_text _).bind fun _ hmanufacturer => (gives_text _).bind fun _ hmodel =>
      (gives_text _).bind fun _ hversion =>
    (gives_text _).bind fun _ hserial => gives_pure ⟨⟨hoperations, hevents, hproperties, hcapture, himage⟩, ?_⟩
  simp only [texts, List.forall_mem_cons]
  exact ⟨hdesc, hmanufacturer, hmodel, hversion, hserial, List.forall_mem_nil _⟩

/-- The lists are told as they are. -/
theorem countable_told {info : DeviceInfo} (h : info.Countable) : info.told.Countable := by
  simpa only [Countable, told] using h

theorem told_told (info : DeviceInfo) : info.told.told = info.told := by
  simp only [told, Dataset.told_told]

theorem told_eq_self_iff {info : DeviceInfo} (h : info.Read) : info.told = info ↔ ∀ s ∈ info.texts, HasRoom s := by
  have hendings := h.endings
  simp only [texts, List.forall_mem_cons] at hendings ⊢
  obtain ⟨hdesc, hmanufacturer, hmodel, hversion, hserial, -⟩ := hendings
  rw [← told_eq_iff hdesc, ← told_eq_iff hmanufacturer, ← told_eq_iff hmodel, ← told_eq_iff hversion,
    ← told_eq_iff hserial]
  constructor
  · intro heq
    have hfields : ∀ {β : Type} (field : DeviceInfo → β), field info.told = field info :=
      fun field => congrArg field heq
    exact ⟨hfields vendorExtensionDesc, hfields manufacturer, hfields model, hfields deviceVersion,
      hfields serialNumber, List.forall_mem_nil _⟩
  · rintro ⟨hdesc, hmanufacturer, hmodel, hversion, hserial, -⟩
    rw [told, hdesc, hmanufacturer, hmodel, hversion, hserial]

end DeviceInfo

namespace StorageInfo

/-- All texts of the record. -/
def texts (info : StorageInfo) : List String :=
  [info.description, info.volumeLabel]

/-- What is read as a record. -/
def Read (info : StorageInfo) : Prop :=
  ∀ s ∈ info.texts, s.toList.getLast? ≠ some '\x00'

theorem gives_decoder : decoder.Gives Read := by
  refine (gives_any _).bind fun _ _ => (gives_any _).bind fun _ _ => (gives_any _).bind fun _ _ =>
    (gives_any _).bind fun _ _ => (gives_any _).bind fun _ _ => (gives_any _).bind fun _ _ => ?_
  refine (gives_text _).bind fun _ hdescription => (gives_text _).bind fun _ hlabel => gives_pure ?_
  simp only [Read, texts, List.forall_mem_cons]
  exact ⟨hdescription, hlabel, List.forall_mem_nil _⟩

theorem told_told (info : StorageInfo) : info.told.told = info.told := by
  simp only [told, Dataset.told_told]

theorem told_eq_self_iff {info : StorageInfo} (h : info.Read) :
    info.told = info ↔ ∀ s ∈ info.texts, HasRoom s := by
  simp only [Read, texts, List.forall_mem_cons] at h ⊢
  obtain ⟨hdescription, hlabel, -⟩ := h
  rw [← told_eq_iff hdescription, ← told_eq_iff hlabel]
  constructor
  · intro heq
    have hfields : ∀ {β : Type} (field : StorageInfo → β), field info.told = field info :=
      fun field => congrArg field heq
    exact ⟨hfields description, hfields volumeLabel, List.forall_mem_nil _⟩
  · rintro ⟨hdescription, hlabel, -⟩
    rw [told, hdescription, hlabel]

end StorageInfo

namespace ObjectInfo

/-- All texts of the record. -/
def texts (info : ObjectInfo) : List String :=
  [info.filename, info.keywords]

/-- All dates of the record. -/
def dates (info : ObjectInfo) : List (Option Instant) :=
  [info.captureDate, info.modificationDate]

/-- What is read as a record. -/
structure Read (info : ObjectInfo) : Prop where
  format : info.format.Canonical
  endings : ∀ s ∈ info.texts, s.toList.getLast? ≠ some '\x00'
  seconds : ∀ d ∈ info.dates, ∀ t ∈ d, t.nanosecond = Instant.noFraction

theorem gives_decoder : decoder.Gives Read := by
  refine (gives_any _).bind fun _ _ => (gives_any _).bind fun format _ => (gives_any _).bind fun _ _ =>
    (gives_any _).bind fun _ _ => (gives_any _).bind fun _ _ => (gives_any _).bind fun _ _ =>
    (gives_any _).bind fun _ _ => (gives_any _).bind fun _ _ => ?_
  refine (gives_any _).bind fun _ _ => (gives_any _).bind fun _ _ => (gives_any _).bind fun _ _ =>
    (gives_any _).bind fun _ _ => (gives_any _).bind fun _ _ => (gives_any _).bind fun _ _ =>
    (gives_any _).bind fun _ _ => ?_
  refine (gives_text _).bind fun _ hname => (gives_date _).bind fun _ hcaptured =>
      (gives_date _).bind fun _ hmodified =>
    (gives_text _).bind fun _ hkeywords => gives_pure ⟨ObjectFormat.canonical_ofCode format, ?_, ?_⟩
  · simp only [texts, List.forall_mem_cons]
    exact ⟨hname, hkeywords, List.forall_mem_nil _⟩
  · simp only [dates, List.forall_mem_cons]
    exact ⟨hcaptured, hmodified, List.forall_mem_nil _⟩

theorem told_told {info : ObjectInfo} (h : info.Read) : info.told.told = info.told := by
  have hseconds := h.seconds
  simp only [dates, List.forall_mem_cons] at hseconds
  simp only [told, Dataset.told_told, ObjectFormat.code_ofCode, Dataset.toldDate_toldDate hseconds.1,
    Dataset.toldDate_toldDate hseconds.2.1]

theorem told_eq_self_iff {info : ObjectInfo} (h : info.Read) :
    info.told = info ↔ (∀ s ∈ info.texts, HasRoom s) ∧ ∀ d ∈ info.dates, FourDigits d := by
  have hformat := ObjectFormat.ofCode_code h.format
  have hendings := h.endings
  have hseconds := h.seconds
  simp only [texts, dates, List.forall_mem_cons] at hendings hseconds ⊢
  rw [← told_eq_iff hendings.1, ← told_eq_iff hendings.2.1, ← toldDate_eq_iff hseconds.1,
    ← toldDate_eq_iff hseconds.2.1]
  constructor
  · intro heq
    have hfields : ∀ {β : Type} (field : ObjectInfo → β), field info.told = field info :=
      fun field => congrArg field heq
    exact ⟨⟨hfields filename, hfields keywords, List.forall_mem_nil _⟩, hfields captureDate,
      hfields modificationDate, List.forall_mem_nil _⟩
  · rintro ⟨⟨hname, hkeywords, -⟩, hcaptured, hmodified, -⟩
    rw [told, hformat, hname, hkeywords, hcaptured, hmodified]

end ObjectInfo

/-! ## Datasets of a name and a date -/

namespace ObjectInfo

/-- The dataset of an object of which only a name is told, in these units, and when it was taken, in this text. -/
def sketch (units : List UInt16) (date : String) : Bytes :=
  ({} : ObjectInfo).encode.take 52 ++ ((UInt8.ofNat units.length :: Bytes.ofU16s units) ++
    (Dataset.ofText date ++ (Dataset.ofDate none ++ Dataset.ofText "")))

theorem parse_sketch (units : List UInt16) {date : String} (hunits : units.length < 256)
    (hdate : Dataset.TextFits date) :
    parse (sketch units date) = .ok { filename := String.ofList (Text.Utf16.decode (Dataset.dropNuls units))
                                      captureDate := Calendar.DateText.parse date } := by
  have hmodified := Dataset.takes_date "ModificationDate" none
  rw [Dataset.toldDate_none] at hmodified
  refine Dataset.parse_of_takes "ObjectInfo" ?_
  unfold decoder
  refine (takes_u32 _ 0).bind <| (takes_u16 _ 0).bind <| (takes_u16 _ 0).bind <| (takes_u32 _ 0).bind <|
    (takes_u16 _ 0).bind <| (takes_u32 _ 0).bind <| (takes_u32 _ 0).bind <| (takes_u32 _ 0).bind ?_
  refine (takes_u32 _ 0).bind <| (takes_u32 _ 0).bind <| (takes_u32 _ 0).bind <| (takes_u32 _ 0).bind <|
    (takes_u16 _ 0).bind <| (takes_u32 _ 0).bind <| (takes_u32 _ 0).bind ?_
  exact (Dataset.takes_units _ hunits).bind <| (takes_text_of_fits _ hdate).last.bind <| hmodified.bind
    (takes_text_of_fits _ textFits_empty).last

end ObjectInfo

/-! ## Reading and writing -/

/-- What was read off a dataset is written as a dataset that is read again: the same record just when all of its
texts have room in a dataset and all of its dates four digits for the year. -/
theorem reencoding (bytes : Bytes) :
    (∀ info, DeviceInfo.parse bytes = .ok info →
      Relays DeviceInfo.parse DeviceInfo.encode info info.told (∀ s ∈ info.texts, HasRoom s)) ∧
    (∀ info, StorageInfo.parse bytes = .ok info →
      Relays StorageInfo.parse StorageInfo.encode info info.told (∀ s ∈ info.texts, HasRoom s)) ∧
    ∀ info, ObjectInfo.parse bytes = .ok info →
      Relays ObjectInfo.parse ObjectInfo.encode info info.told
        ((∀ s ∈ info.texts, HasRoom s) ∧ ∀ d ∈ info.dates, FourDigits d) := by
  refine ⟨fun info h => ?_, fun info h => ?_, fun info h => ?_⟩
  · have hread := Dataset.of_parse DeviceInfo.gives_decoder h
    have htwice := DeviceInfo.parse_encode (DeviceInfo.countable_told hread.countable)
    rw [info.told_told] at htwice
    exact ⟨DeviceInfo.parse_encode hread.countable, htwice, DeviceInfo.told_eq_self_iff hread⟩
  · have htwice := info.told.parse_encode
    rw [info.told_told] at htwice
    exact ⟨info.parse_encode, htwice, StorageInfo.told_eq_self_iff (Dataset.of_parse StorageInfo.gives_decoder h)⟩
  · have hread := Dataset.of_parse ObjectInfo.gives_decoder h
    have htwice := info.told.parse_encode
    rw [ObjectInfo.told_told hread] at htwice
    exact ⟨info.parse_encode, htwice, ObjectInfo.told_eq_self_iff hread⟩

/-- A camera, its card, and a picture: of its name the first unit is half of a pair and the last two are NULs,
and it was taken an hour east of universal time. -/
theorem reencoding_of_half_a_pair :
    (DeviceInfo.parse (DeviceInfo.encode { model := "EOS R5" }) = .ok { model := "EOS R5" } ∧
      DeviceInfo.told { model := "EOS R5" } = { model := "EOS R5" }) ∧
    (StorageInfo.parse (StorageInfo.encode { volumeLabel := "EOS_DIGITAL" }) =
      .ok { volumeLabel := "EOS_DIGITAL" } ∧
      StorageInfo.told { volumeLabel := "EOS_DIGITAL" } = { volumeLabel := "EOS_DIGITAL" }) ∧
    ∃ info, ObjectInfo.parse (ObjectInfo.sketch [0xD800, 0x41, 0, 0] "20240315T120000.5+0100") = .ok info ∧
      info.filename = "\uFFFDA" ∧ info.captureDate = some ⟨⟨2024, 3, 15, by decide⟩, 660, 0, Instant.noFraction⟩ ∧
      ObjectInfo.parse info.encode = .ok info := by
  refine ⟨?_, ?_, ?_⟩
  · have hfits : DeviceInfo.Fits { model := "EOS R5" } :=
      ⟨textFits_empty, by decide, by decide, by decide, by decide, by decide,
        textFits_empty, ⟨by decide, by decide⟩, textFits_empty, textFits_empty⟩
    have hread := DeviceInfo.parse_encode hfits.countable
    rw [DeviceInfo.told_of_fits hfits] at hread
    exact ⟨hread, ((reencoding _).1 _ hread).same.mpr (by decide)⟩
  · have hfits : StorageInfo.Fits { volumeLabel := "EOS_DIGITAL" } := ⟨textFits_empty, ⟨by decide, by decide⟩⟩
    have hread := StorageInfo.parse_encode { volumeLabel := "EOS_DIGITAL" }
    rw [StorageInfo.told_of_fits hfits] at hread
    exact ⟨hread, ((reencoding _).2.1 _ hread).same.mpr (by decide)⟩
  · have hdate : Calendar.DateText.parse "20240315T120000.5+0100" =
        some ⟨⟨2024, 3, 15, by decide⟩, 660, 0, Instant.noFraction⟩ := by
      have hnoon : Calendar.DateText.base (Calendar.DateText.numerals 2024 3 15 12 0 0) =
          some ⟨⟨2024, 3, 15, by decide⟩, 720, 0, Instant.noFraction⟩ :=
        Calendar.DateText.base_of_shows (by decide) ⟨rfl, rfl, rfl, by decide, by decide, rfl, rfl, rfl⟩
      refine Calendar.DateText.parse_eq_some_iff.mpr (.inl (@Calendar.DateText.Denotes.mk _ _ _ _ ['.', '5']
        ['+', '0', '1', '0', '0'] _ 60 (by decide) (by decide) hnoon
          (.point (List.forall_mem_singleton.mpr rfl)) ?_
        ⟨by decide, rfl, rfl⟩))
      exact .offset .plus (.digits (m := 0) (n := 1) rfl rfl) (.digits (m := 0) (n := 0) rfl rfl) (by decide)
    have hread := ObjectInfo.parse_sketch [0xD800, 0x41, 0, 0] (by decide)
      (show Dataset.TextFits "20240315T120000.5+0100" from ⟨by decide, by decide⟩)
    have hrelays := (reencoding _).2.2 _ hread
    have hsame := hrelays.same.mpr ⟨by decide, ?_⟩
    · refine ⟨_, hread, by decide, hdate, ?_⟩
      have honce := hrelays.once
      rw [hsame] at honce
      exact honce
    · rw [hdate]
      decide

/-- A name of 255 units that is not closed loses the last of them, and a date that the offset takes to the year
before year 0 is lost. -/
theorem name_and_date_altered :
    ∃ info, ObjectInfo.parse (ObjectInfo.sketch (List.replicate 255 65) "00000101T000000+0100") = .ok info ∧
      ∃ back, ObjectInfo.parse info.encode = .ok back ∧ back.filename ≠ info.filename ∧
        back.captureDate ≠ info.captureDate := by
  have hdate : Calendar.DateText.parse "00000101T000000+0100" =
      some ⟨⟨-1, 12, 31, by decide⟩, 1380, 0, Instant.noFraction⟩ := by
    have hfirst : Calendar.DateText.base (Calendar.DateText.numerals 0 1 1 0 0 0) =
        some ⟨⟨0, 1, 1, by decide⟩, 0, 0, Instant.noFraction⟩ :=
      Calendar.DateText.base_of_shows (by decide) ⟨rfl, rfl, rfl, by decide, by decide, rfl, rfl, rfl⟩
    refine Calendar.DateText.parse_eq_some_iff.mpr (.inl (@Calendar.DateText.Denotes.mk _ _ _ _ []
      ['+', '0', '1', '0', '0'] _ 60 (by decide) (by decide) hfirst .none ?_ ⟨by decide, rfl, rfl⟩))
    exact .offset .plus (.digits (m := 0) (n := 1) rfl rfl) (.digits (m := 0) (n := 0) rfl rfl) (by decide)
  have hlength : (List.replicate 255 (65 : UInt16)).length = 255 := List.length_replicate
  have hread := ObjectInfo.parse_sketch (List.replicate 255 65) (by rw [hlength]; decide)
    (show Dataset.TextFits "00000101T000000+0100" from ⟨by decide, by decide⟩)
  rw [hdate] at hread
  have hclosed : Dataset.dropNuls (List.replicate 255 65) = List.replicate 255 65 :=
    Dataset.dropNuls_of_getLast? (by rw [List.getLast?_replicate]; decide)
  rw [hclosed] at hread
  refine ⟨_, hread, _, ObjectInfo.parse_encode _, fun hname => ?_, ?_⟩
  · have hroom := (Dataset.textFits_told (String.ofList (Text.Utf16.decode (List.replicate 255 65)))).units
    rw [show Dataset.told _ = _ from hname, String.toList_ofList, Text.Utf16.length_encode_decode,
      List.length_replicate] at hroom
    exact absurd hroom (by decide)
  · show Dataset.toldDate _ ≠ _
    rw [Dataset.toldDate_signed (by decide)]
    exact nofun

end Ptp

end Tether
