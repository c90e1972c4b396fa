import Tether.Ptp.DeviceInfo
import Tether.Ptp.Event
import Tether.Ptp.ObjectInfo
import Tether.Ptp.StorageInfo
import Tether.Report.Value
import Tether.StorageError

/-!
# Tether.Report.Ptp — datasets, events and failures as values

Codes are shown as numbers.  Failures show the words of their cause where the cause has words.
-/

namespace Tether

open Report (Value)

namespace Ptp

/-- A camera's description as a value. -/
def DeviceInfo.report (info : DeviceInfo) : Value :=
  .record [
    ("standardVersion", .u16 info.standardVersion),
    ("vendorExtensionId", .u32 info.vendorExtensionId),
    ("vendorExtensionVersion", .u16 info.vendorExtensionVersion),
    ("vendorExtensionDesc", .text info.vendorExtensionDesc),
    ("functionalMode", .u16 info.functionalMode),
    ("operationsSupported", .list (info.operationsSupported.map .u16)),
    ("eventsSupported", .list (info.eventsSupported.map .u16)),
    ("devicePropertiesSupported", .list (info.devicePropertiesSupported.map .u16)),
    ("captureFormats", .list (info.captureFormats.map .u16)),
    ("imageFormats", .list (info.imageFormats.map .u16)),
    ("manufacturer", .text info.manufacturer),
    ("model", .text info.model),
    ("deviceVersion", .text info.deviceVersion),
    ("serialNumber", .text info.serialNumber)]

/-- A storage's description as a value. -/
def StorageInfo.report (info : StorageInfo) : Value :=
  .record [
    ("storageType", .u16 info.storageType),
    ("filesystemType", .u16 info.filesystemType),
    ("accessCapability", .u16 info.accessCapability),
    ("maxCapacity", .u64 info.maxCapacity),
    ("freeSpaceBytes", .u64 info.freeSpaceBytes),
    ("freeSpaceImages", .u32 info.freeSpaceImages),
    ("description", .text info.description),
    ("volumeLabel", .text info.volumeLabel)]

/-- An object's description as a value. -/
def ObjectInfo.report (info : ObjectInfo) : Value :=
  .record [
    ("storageId", .u32 info.storageId),
    ("format", .u16 info.format.code),
    ("protectionStatus", .u16 info.protectionStatus),
    ("compressedSize", .u32 info.compressedSize),
    ("thumbFormat", .u16 info.thumbFormat),
    ("thumbCompressedSize", .u32 info.thumbCompressedSize),
    ("thumbPixWidth", .u32 info.thumbPixWidth),
    ("thumbPixHeight", .u32 info.thumbPixHeight),
    ("imagePixWidth", .u32 info.imagePixWidth),
    ("imagePixHeight", .u32 info.imagePixHeight),
    ("imageBitDepth", .u32 info.imageBitDepth),
    ("parent", .u32 info.parent),
    ("associationType", .u16 info.associationType),
    ("associationDesc", .u32 info.associationDesc),
    ("sequenceNumber", .u32 info.sequenceNumber),
    ("filename", .text info.filename),
    ("captureDate", .date info.captureDate),
    ("modificationDate", .date info.modificationDate),
    ("keywords", .text info.keywords)]

/-- An event as a value. -/
def DeviceEvent.report : DeviceEvent → Value
  | .objectAdded handle => .kind "objectAdded" [("handle", .u32 handle)]
  | .objectRemoved handle => .kind "objectRemoved" [("handle", .u32 handle)]
  | .objectInfoChanged handle => .kind "objectInfoChanged" [("handle", .u32 handle)]
  | .storeAdded storage => .kind "storeAdded" [("storage_id", .u32 storage)]
  | .storeRemoved storage => .kind "storeRemoved" [("storage_id", .u32 storage)]
  | .storageInfoChanged storage => .kind "storageInfoChanged" [("storage_id", .u32 storage)]
  | .storeFull storage => .kind "storeFull" [("storage_id", .u32 storage)]
  | .deviceReset => .kind "deviceReset" []
  | .captureComplete => .kind "captureComplete" []
  | .other code parameters => .kind "other" [("code", .u16 code), ("params", .list (parameters.map .u32))]

end Ptp

/-- The kind of a failed transfer as a word. -/
def TransportError.kindName : TransportError → String
  | .timeout => "timeout"
  | .disconnected => "disconnected"
  | .io _ => "io"

/-- A failed transfer as a value. -/
def TransportError.report (e : TransportError) : Value :=
  .kind e.kindName <| match e with
    | .io text => [("message", .text text)]
    | _ => []

/-- The kind of a failed call as a word. -/
def PtpError.kindName : PtpError → String
  | .notConnected => "notConnected"
  | .invalidArgument _ => "invalidArgument"
  | .transport _ => "transport"
  | .framing _ => "framing"
  | .invalidDataset _ => "invalidDataset"
  | .device _ _ => "device"
  | .outOfMemory _ => "outOfMemory"

/-- A failed call as a value. -/
def PtpError.report (e : PtpError) : Value :=
  .kind e.kindName <| match e with
    | .notConnected => []
    | .invalidArgument fault => [("message", .text fault.message)]
    | .transport error => [("error", error.report)]
    | .framing fault => [("message", .text fault.message)]
    | .invalidDataset fault => [("message", .text fault.message)]
    | .device operation code => [("operation", .u16 operation.code), ("code", .u16 code.code)]
    | .outOfMemory bytes => [("bytes", .number bytes)]

/-- The kind of a failure above the protocol as a word. -/
def StorageError.kindName : StorageError → String
  | .notConnected => "notConnected"
  | .timeout => "timeout"
  | .disconnected => "disconnected"
  | .transport _ => "transport"
  | .protocol _ => "protocol"
  | .deviceBusy => "deviceBusy"
  | .storageFull => "storageFull"
  | .writeProtected => "writeProtected"
  | .readOnly => "readOnly"
  | .objectNotFound _ => "objectNotFound"
  | .noSuchDevice _ => "noSuchDevice"
  | .invalidSlot _ => "invalidSlot"
  | .invalidArgument _ => "invalidArgument"
  | .noSuchFile _ => "noSuchFile"
  | .permissionDenied _ => "permissionDenied"
  | .outOfMemory _ => "outOfMemory"
  | .fileTooLarge _ => "fileTooLarge"
  | .io _ => "io"
  | .device _ _ => "device"

/-- A failure above the protocol as a value. -/
def StorageError.report (e : StorageError) : Value :=
  .kind e.kindName <| match e with
    | .transport text | .protocol text | .io text => [("message", .text text)]
    | .objectNotFound handle | .fileTooLarge handle => [("handle", .u32 handle)]
    | .noSuchDevice slot => [("slot", .optional .number slot)]
    | .invalidSlot slot => [("slot", .number slot)]
    | .invalidArgument fault => [("message", .text fault.message)]
    | .noSuchFile name => [("name", .text name)]
    | .permissionDenied operation => [("operation", .text operation)]
    | .outOfMemory bytes => [("bytes", .number bytes)]
    | .device operation code => [("operation", .u16 operation.code), ("code", .u16 code.code)]
    | _ => []

end Tether
