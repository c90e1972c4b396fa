import Tether.Report.Ptp

/-!
# Tether.Report.Reading — descriptions read back from values

A description is read from a record with the fields that its report has.  A field that is missing, null or of
another form is read as 0, the empty text, the empty list or no date.
-/

namespace Tether

open Report (Value)

namespace Report.Value

/-- The value of a field; null counts as none. -/
def field? (v : Value) (name : String) : Option Value :=
  match v with
  | record fields => ((fields.find? fun f => f.1 = name).map Prod.snd).bind fun
    | null => none
    | w => some w
  | _ => none

/-- The number in a field, if there is one. -/
def number? (v : Value) (name : String) : Option Nat :=
  (v.field? name).bind fun
    | number n => some n
    | _ => none

/-- The text in a field, if there is one. -/
def text? (v : Value) (name : String) : Option String :=
  (v.field? name).bind fun
    | text s => some s
    | _ => none

/-- The truth value in a field, if there is one. -/
def truth? (v : Value) (name : String) : Option Bool :=
  (v.field? name).bind fun
    | truth b => some b
    | _ => none

/-- The items of the list in a field. -/
def itemsAt (v : Value) (name : String) : List Value :=
  match v.field? name with
  | some (list items) => items
  | _ => []

/-- The record in a field. -/
def recordAt (v : Value) (name : String) : Value :=
  (v.field? name).getD (record [])

/-- The number in a field. -/
def numberAt (v : Value) (name : String) : Nat :=
  (v.number? name).getD 0

/-- The 16-bit word in a field. -/
def u16At (v : Value) (name : String) : UInt16 :=
  .ofNat (v.numberAt name)

/-- The 32-bit word in a field. -/
def u32At (v : Value) (name : String) : UInt32 :=
  .ofNat (v.numberAt name)

/-- The 64-bit word in a field. -/
def u64At (v : Value) (name : String) : UInt64 :=
  .ofNat (v.numberAt name)

/-- The text in a field. -/
def textAt (v : Value) (name : String) : String :=
  (v.text? name).getD ""

/-- The truth value in a field. -/
def truthAt (v : Value) (name : String) : Bool :=
  (v.truth? name).getD false

/-- The numbers of the list in a field. -/
def numbersAt (v : Value) (name : String) : List Nat :=
  (v.itemsAt name).filterMap fun
    | number n => some n
    | _ => none

/-- The 16-bit words of the list in a field. -/
def u16sAt (v : Value) (name : String) : List UInt16 :=
  (v.numbersAt name).map .ofNat

/-- The 32-bit words of the list in a field. -/
def u32sAt (v : Value) (name : String) : List UInt32 :=
  (v.numbersAt name).map .ofNat

/-- The date in a field, as datasets write dates. -/
def dateAt (v : Value) (name : String) : Option Calendar.Instant :=
  (v.text? name).bind Calendar.DateText.parse

end Report.Value

namespace Ptp

/-- Reads a camera's description. -/
def DeviceInfo.ofReport (v : Value) : DeviceInfo where
  standardVersion := v.u16At "standardVersion"
  vendorExtensionId := v.u32At "vendorExtensionId"
  vendorExtensionVersion := v.u16At "vendorExtensionVersion"
  vendorExtensionDesc := v.textAt "vendorExtensionDesc"
  functionalMode := v.u16At "functionalMode"
  operationsSupported := v.u16sAt "operationsSupported"
  eventsSupported := v.u16sAt "eventsSupported"
  devicePropertiesSupported := v.u16sAt "devicePropertiesSupported"
  captureFormats := v.u16sAt "captureFormats"
  imageFormats := v.u16sAt "imageFormats"
  manufacturer := v.textAt "manufacturer"
  model := v.textAt "model"
  deviceVersion := v.textAt "deviceVersion"
  serialNumber := v.textAt "serialNumber"

/-- Reads a storage's description. -/
def StorageInfo.ofReport (v : Value) : StorageInfo where
  storageType := v.u16At "storageType"
  filesystemType := v.u16At "filesystemType"
  accessCapability := v.u16At "accessCapability"
  maxCapacity := v.u64At "maxCapacity"
  freeSpaceBytes := v.u64At "freeSpaceBytes"
  freeSpaceImages := v.u32At "freeSpaceImages"
  description := v.textAt "description"
  volumeLabel := v.textAt "volumeLabel"

/-- Reads an object's description. -/
def ObjectInfo.ofReport (v : Value) : ObjectInfo where
  storageId := v.u32At "storageId"
  format := .ofCode (v.u16At "format")
  protectionStatus := v.u16At "protectionStatus"
  compressedSize := v.u32At "compressedSize"
  thumbFormat := v.u16At "thumbFormat"
  thumbCompressedSize := v.u32At "thumbCompressedSize"
  thumbPixWidth := v.u32At "thumbPixWidth"
  thumbPixHeight := v.u32At "thumbPixHeight"
  imagePixWidth := v.u32At "imagePixWidth"
  imagePixHeight := v.u32At "imagePixHeight"
  imageBitDepth := v.u32At "imageBitDepth"
  parent := v.u32At "parent"
  associationType := v.u16At "associationType"
  associationDesc := v.u32At "associationDesc"
  sequenceNumber := v.u32At "sequenceNumber"
  filename := v.textAt "filename"
  captureDate := v.dateAt "captureDate"
  modificationDate := v.dateAt "modificationDate"
  keywords := v.textAt "keywords"

end Ptp

end Tether
