import Tether.Proofs.Ptp.Dataset
import Tether.Ptp.DeviceInfo
import Tether.Ptp.ObjectInfo
import Tether.Ptp.StorageInfo

/-!
# Tether.Proofs.Ptp.Records — the three records survive encoding

A record fits its dataset when a dataset tells all of its texts and dates and when its lists can be counted.
Going through the fields in their order then shows that the dataset is read as the record and that no first part
of it is read at all (`records_survive`).

The description of an object is read as it is told also where it does not fit (`ObjectInfo.takes_encode`): a
camera may be given longer names than it can report.
-/

namespace Tether.Ptp

open Calendar (Instant)
open Dataset (TextFits DateFits Delimits)
open Decoder (takes_u16 takes_u32 takes_u64 takes_u16s)
open Dataset (takes_text takes_date told_of_fits toldDate_of_fits delimits_of_takes parse_of_takes)

/-- A format is held under its name if it has one. -/
def ObjectFormat.Canonical (format : ObjectFormat) : Prop :=
  ∀ code, format = .other code → ofCode code = .other code

theorem ObjectFormat.ofCode_code {format : ObjectFormat} (h : format.Canonical) : ofCode format.code = format := by
  cases format with
  | other code => exact h code rfl
  | _ => rfl

/-- A text takes few bytes in a dataset, however long it is. -/
theorem Dataset.length_ofText_le (s : String) : (ofText s).length ≤ 511 := by
  have htake : ((Text.Utf16.encode s.toList).take maxTextUnits).length ≤ maxTextUnits := List.length_take_le _ _
  unfold ofText
  split
  · exact Nat.le_of_ble_eq_true rfl
  · have hwords := Bytes.length_ofU16s ((Text.Utf16.encode s.toList).take maxTextUnits)
    rw [List.length_cons, List.length_append, hwords]
    show _ * 2 + 2 + 1 ≤ 511
    have hmax : maxTextUnits = 254 := rfl
    omega

/-! ## Cameras -/

namespace DeviceInfo

/-- A dataset tells all of the record. -/
structure Fits (info : DeviceInfo) : Prop where
  vendorExtensionDesc : TextFits info.vendorExtensionDesc
  operations : info.operationsSupported.length < 2 ^ 32
  events : info.eventsSupported.length < 2 ^ 32
  properties : info.devicePropertiesSupported.length < 2 ^ 32
  captureFormats : info.captureFormats.length < 2 ^ 32
  imageFormats : info.imageFormats.length < 2 ^ 32
  manufacturer : TextFits info.manufacturer
  model : TextFits info.model
  deviceVersion : TextFits info.deviceVersion
  serialNumber : TextFits info.serialNumber

/-- The record as a dataset tells it. -/
def told (info : DeviceInfo) : DeviceInfo :=
  { info with
    vendorExtensionDesc := Dataset.told info.vendorExtensionDesc
    manufacturer := Dataset.told info.manufacturer
    model := Dataset.told info.model
    deviceVersion := Dataset.told info.deviceVersion
    serialNumber := Dataset.told info.serialNumber }

theorem told_of_fits {info : DeviceInfo} (h : info.Fits) : info.told = info := by
  rw [told, Dataset.told_of_fits h.vendorExtensionDesc, Dataset.told_of_fits h.manufacturer,
    Dataset.told_of_fits h.model, Dataset.told_of_fits h.deviceVersion, Dataset.told_of_fits h.serialNumber]

/-- The lists of the record can be counted. -/
def Countable (info : DeviceInfo) : Prop :=
  info.operationsSupported.length < 2 ^ 32 ∧ info.eventsSupported.length < 2 ^ 32 ∧
    info.devicePropertiesSupported.length < 2 ^ 32 ∧ info.captureFormats.length < 2 ^ 32 ∧
    info.imageFormats.length < 2 ^ 32

theorem takes_told {info : DeviceInfo} (h : info.Countable) : decoder.Takes info.encode info.told := by
  obtain ⟨hoperations, hevents, hproperties, hcapture, himage⟩ := h
  unfold encode decoder
  simp only [List.append_assoc]
  refine (takes_u16 _ _).bind <| (takes_u32 _ _).bind <| (takes_u16 _ _).bind <| (takes_text _ _).bind <|
    (takes_u16 _ _).bind ?_
  refine (takes_u16s _ hoperations).bind <| (takes_u16s _ hevents).bind <| (takes_u16s _ hproperties).bind <|
    (takes_u16s _ hcapture).bind <| (takes_u16s _ himage).bind ?_
  exact (takes_text _ _).bind <| (takes_text _ _).bind <| (takes_text _ _).bind (takes_text _ _).last

/-- The description of a camera is read as it is told. -/
theorem parse_encode {info : DeviceInfo} (h : info.Countable) : parse info.encode = .ok info.told :=
  parse_of_takes "DeviceInfo" (takes_told h)

theorem Fits.countable {info : DeviceInfo} (h : info.Fits) : info.Countable :=
  ⟨h.operations, h.events, h.properties, h.captureFormats, h.imageFormats⟩

theorem takes_encode {info : DeviceInfo} (h : info.Fits) : decoder.Takes info.encode info := by
  have htakes := takes_told h.countable
  rw [told_of_fits h] at htakes
  exact htakes

end DeviceInfo

/-! ## Storages -/

namespace StorageInfo

/-- A dataset tells all of the record. -/
structure Fits (info : StorageInfo) : Prop where
  description : TextFits info.description
  volumeLabel : TextFits info.volumeLabel

/-- The record as a dataset tells it. -/
def told (info : StorageInfo) : StorageInfo :=
  { info with description := Dataset.told info.description, volumeLabel := Dataset.told info.volumeLabel }

theorem told_of_fits {info : StorageInfo} (h : info.Fits) : info.told = info := by
  rw [told, Dataset.told_of_fits h.description, Dataset.told_of_fits h.volumeLabel]

theorem takes_encode (info : StorageInfo) : decoder.Takes info.encode info.told := by
  unfold encode decoder
  simp only [List.append_assoc]
  exact (takes_u16 _ _).bind <| (takes_u16 _ _).bind <| (takes_u16 _ _).bind <| (takes_u64 _ _).bind <|
    (takes_u64 _ _).bind <| (takes_u32 _ _).bind <| (takes_text _ _).bind (takes_text _ _).last

/-- The description of a storage is read as it is told. -/
theorem parse_encode (info : StorageInfo) : parse info.encode = .ok info.told :=
  parse_of_takes "StorageInfo" info.takes_encode

theorem length_encode_le (info : StorageInfo) : info.encode.length ≤ 1100 := by
  have hdescription := Dataset.length_ofText_le info.description
  have hlabel := Dataset.length_ofText_le info.volumeLabel
  unfold encode
  simp only [List.length_append]
  show 2 + 2 + 2 + 8 + 8 + 4 + _ + _ ≤ 1100
  omega

end StorageInfo

/-! ## Objects -/

namespace ObjectInfo

/-- A dataset tells all of the record. -/
structure Fits (info : ObjectInfo) : Prop where
  format : info.format.Canonical
  filename : TextFits info.filename
  captureDate : ∀ t ∈ info.captureDate, DateFits t
  modificationDate : ∀ t ∈ info.modificationDate, DateFits t
  keywords : TextFits info.keywords

/-- The record as a dataset tells it. -/
def told (info : ObjectInfo) : ObjectInfo :=
  { info with
    format := .ofCode info.format.code
    filename := Dataset.told info.filename
    captureDate := Dataset.toldDate info.captureDate
    modificationDate := Dataset.toldDate info.modificationDate
    keywords := Dataset.told info.keywords }

theorem told_of_fits {info : ObjectInfo} (h : info.Fits) : info.told = info := by
  rw [told, ObjectFormat.ofCode_code h.format, Dataset.told_of_fits h.filename, toldDate_of_fits h.captureDate,
    toldDate_of_fits h.modificationDate, Dataset.told_of_fits h.keywords]

theorem takes_encode (info : ObjectInfo) : decoder.Takes info.encode info.told := by
  unfold encode decoder
  simp only [List.append_assoc]
  refine (takes_u32 _ _).bind <| (takes_u16 _ _).bind <| (takes_u16 _ _).bind <| (takes_u32 _ _).bind <|
    (takes_u16 _ _).bind <| (takes_u32 _ _).bind <| (takes_u32 _ _).bind <| (takes_u32 _ _).bind ?_
  refine (takes_u32 _ _).bind <| (takes_u32 _ _).bind <| (takes_u32 _ _).bind <| (takes_u32 _ _).bind <|
    (takes_u16 _ _).bind <| (takes_u32 _ _).bind <| (takes_u32 _ _).bind ?_
  exact (takes_text _ _).bind <| (takes_date _ _).bind <| (takes_date _ _).bind (takes_text _ _).last

/-- The description of an object is read as it is told. -/
theorem parse_encode (info : ObjectInfo) : parse info.encode = .ok info.told :=
  parse_of_takes "ObjectInfo" info.takes_encode

/-- A description is short, however long its texts are. -/
theorem length_encode_le (info : ObjectInfo) : info.encode.length ≤ 2100 := by
  have htext := Dataset.length_ofText_le
  have hdate : ∀ d, (Dataset.ofDate d).length ≤ 511 := by
    intro d
    cases d with
    | none => exact htext ""
    | some t => exact htext _
  have hname := htext info.filename
  have hkeywords := htext info.keywords
  have hcaptured := hdate info.captureDate
  have hmodified := hdate info.modificationDate
  unfold encode
  simp only [List.length_append]
  show 4 + 2 + 2 + 4 + 2 + 4 + 4 + 4 + 4 + 4 + 4 + 4 + 2 + 4 + 4 + _ + _ + _ + _ ≤ 2100
  omega

end ObjectInfo

/-- Each of the three records that fits its dataset is read back, whatever comes behind the dataset, and of a
first part of the dataset the reader says that it is none. -/
theorem records_survive :
    (∀ info : DeviceInfo, info.Fits → Delimits DeviceInfo.parse info.encode info) ∧
    (∀ info : StorageInfo, info.Fits → Delimits StorageInfo.parse info.encode info) ∧
    (∀ info : ObjectInfo, info.Fits → Delimits ObjectInfo.parse info.encode info) := by
  refine ⟨fun info h => ?_, fun info h => ?_, fun info h => ?_⟩
  · exact delimits_of_takes _ (DeviceInfo.takes_encode h)
  · have htakes := info.takes_encode
    rw [StorageInfo.told_of_fits h] at htakes
    exact delimits_of_takes _ htakes
  · have htakes := info.takes_encode
    rw [ObjectInfo.told_of_fits h] at htakes
    exact delimits_of_takes _ htakes

/-- A camera, its card and a picture on it, whose name has a character of two units. -/
theorem records_of_a_picture :
    Delimits DeviceInfo.parse
      (DeviceInfo.encode { operationsSupported := [0x1001, 0x1002], manufacturer := "Canon Inc.",
                           model := "EOS R5" })
      { operationsSupported := [0x1001, 0x1002], manufacturer := "Canon Inc.", model := "EOS R5" } ∧
    Delimits StorageInfo.parse (StorageInfo.encode { maxCapacity := 64000000000, volumeLabel := "EOS_DIGITAL" })
      { maxCapacity := 64000000000, volumeLabel := "EOS_DIGITAL" } ∧
    Delimits ObjectInfo.parse
      (ObjectInfo.encode { format := .exifJpeg, filename := "🙂.JPG",
                           captureDate := some ⟨⟨2024, 2, 29, by decide⟩, 865, 1, Instant.noFraction⟩ })
      { format := .exifJpeg, filename := "🙂.JPG",
        captureDate := some ⟨⟨2024, 2, 29, by decide⟩, 865, 1, Instant.noFraction⟩ } := by
  have hempty : TextFits "" := ⟨by decide, by decide⟩
  refine ⟨records_survive.1 _ ?_, records_survive.2.1 _ ?_, records_survive.2.2 _ ?_⟩
  · exact ⟨hempty, by decide, by decide, by decide, by decide, by decide,
      ⟨by decide, by decide⟩, ⟨by decide, by decide⟩, hempty, hempty⟩
  · exact ⟨hempty, ⟨by decide, by decide⟩⟩
  · refine ⟨?_, ⟨by decide, by decide⟩, ?_, ?_, hempty⟩
    · intro code h
      cases h
    · intro t ht
      obtain rfl := Option.some.inj ht
      exact ⟨by decide, by decide, rfl⟩
    · intro t ht
      cases ht

end Tether.Ptp
