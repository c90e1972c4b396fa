import Tether.Ptp.Dataset

/-!
# Tether.Ptp.DeviceInfo — what a camera tells about itself
-/

namespace Tether.Ptp

/-- Identity and abilities of a camera. -/
structure DeviceInfo where
  standardVersion : UInt16 := 0
  vendorExtensionId : UInt32 := 0
  vendorExtensionVersion : UInt16 := 0
  vendorExtensionDesc : String := ""
  functionalMode : UInt16 := 0
  operationsSupported : List UInt16 := []
  eventsSupported : List UInt16 := []
  devicePropertiesSupported : List UInt16 := []
  captureFormats : List UInt16 := []
  imageFormats : List UInt16 := []
  manufacturer : String := ""
  model : String := ""
  deviceVersion : String := ""
  serialNumber : String := ""
deriving DecidableEq

namespace DeviceInfo

/-- The fields in the order of the dataset. -/
def decoder : Decoder DeviceInfo := do
  let standardVersion ← Decoder.u16 "StandardVersion"
  let vendorExtensionId ← Decoder.u32 "VendorExtensionID"
  let vendorExtensionVersion ← Decoder.u16 "VendorExtensionVersion"
  let vendorExtensionDesc ← Dataset.text "VendorExtensionDesc"
  let functionalMode ← Decoder.u16 "FunctionalMode"
  let operationsSupported ← Decoder.u16s "OperationsSupported"
  let eventsSupported ← Decoder.u16s "EventsSupported"
  let devicePropertiesSupported ← Decoder.u16s "DevicePropertiesSupported"
  let captureFormats ← Decoder.u16s "CaptureFormats"
  let imageFormats ← Decoder.u16s "ImageFormats"
  let manufacturer ← Dataset.text "Manufacturer"
  let model ← Dataset.text "Model"
  let deviceVersion ← Dataset.text "DeviceVersion"
  let serialNumber ← Dataset.text "SerialNumber"
  return { standardVersion, vendorExtensionId, vendorExtensionVersion, vendorExtensionDesc, functionalMode,
           operationsSupported, eventsSupported, devicePropertiesSupported, captureFormats, imageFormats,
           manufacturer, model, deviceVersion, serialNumber }

/-- Reads the dataset. -/
def parse (payload : Bytes) : Except PtpError DeviceInfo :=
  Dataset.parse "DeviceInfo" decoder payload

/-- The dataset as bytes. -/
def encode (info : DeviceInfo) : Bytes :=
  Bytes.ofU16 info.standardVersion ++ Bytes.ofU32 info.vendorExtensionId ++
  Bytes.ofU16 info.vendorExtensionVersion ++ Dataset.ofText info.vendorExtensionDesc ++
  Bytes.ofU16 info.functionalMode ++ Dataset.ofU16List info.operationsSupported ++
  Dataset.ofU16List info.eventsSupported ++ Dataset.ofU16List info.devicePropertiesSupported ++
  Dataset.ofU16List info.captureFormats ++ Dataset.ofU16List info.imageFormats ++
  Dataset.ofText info.manufacturer ++ Dataset.ofText info.model ++ Dataset.ofText info.deviceVersion ++
  Dataset.ofText info.serialNumber

/-- Whether the camera lists an operation. -/
def supports (info : DeviceInfo) (operation : Operation) : Bool :=
  info.operationsSupported.contains operation.code

/-- Whether objects can be sent to the camera, which takes both halves of an upload. -/
def supportsUpload (info : DeviceInfo) : Bool :=
  info.supports .sendObjectInfo && info.supports .sendObject

end DeviceInfo

end Tether.Ptp
