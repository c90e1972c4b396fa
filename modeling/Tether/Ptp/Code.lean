import Tether.Text.Number

/-!
# Tether.Ptp.Code — the code tables of the protocol

Container kinds, operations, responses, events and object formats.  Each table names the codes in use and keeps any
other code as it is, since cameras mix vendor codes freely into the standard ranges.  `ofCode` and `code` convert,
`name` is the bare name and `label` the name with its code, as messages show it.
-/

namespace Tether.Ptp

open Text (hexCapital)

/-- A name with its code in hexadecimal, as in `StoreFull(0x200C)`. -/
def labelled (name : String) (code : UInt16) : String :=
  name ++ "(0x" ++ hexCapital 4 code.toNat ++ ")"

/-- Kind of a container, the second field of its header. -/
inductive ContainerKind where
  | command
  | data
  | response
  | event
  /-- A code that the table does not name. -/
  | other (code : UInt16)
deriving DecidableEq

namespace ContainerKind

/-- The entry with this code. -/
def ofCode : UInt16 → ContainerKind
  | 0x0001 => .command
  | 0x0002 => .data
  | 0x0003 => .response
  | 0x0004 => .event
  | code => .other code

/-- The code of an entry. -/
def code : ContainerKind → UInt16
  | .command => 0x0001
  | .data => 0x0002
  | .response => 0x0003
  | .event => 0x0004
  | .other code => code

/-- The name of an entry, `Other` for a code without one. -/
def name : ContainerKind → String
  | .command => "Command"
  | .data => "Data"
  | .response => "Response"
  | .event => "Event"
  | .other _ => "Other"

/-- The name with the code. -/
def label (x : ContainerKind) : String :=
  labelled x.name x.code

/-- No code is lost in the table. -/
@[simp] theorem code_ofCode (c : UInt16) : (ofCode c).code = c := by
  unfold ofCode
  split <;> rfl

end ContainerKind

/-- Operations that a host asks a camera for. -/
inductive Operation where
  | getDeviceInfo
  | openSession
  | closeSession
  | getStorageIds
  | getStorageInfo
  | getNumObjects
  | getObjectHandles
  | getObjectInfo
  | getObject
  | getThumb
  | deleteObject
  | sendObjectInfo
  | sendObject
  | formatStore
  | getPartialObject
  /-- A vendor's reading of a part, with the parameters of `getPartialObject`. -/
  | canonGetPartialObject
  /-- A code that the table does not name. -/
  | other (code : UInt16)
deriving DecidableEq

namespace Operation

/-- The entry with this code. -/
def ofCode : UInt16 → Operation
  | 0x1001 => .getDeviceInfo
  | 0x1002 => .openSession
  | 0x1003 => .closeSession
  | 0x1004 => .getStorageIds
  | 0x1005 => .getStorageInfo
  | 0x1006 => .getNumObjects
  | 0x1007 => .getObjectHandles
  | 0x1008 => .getObjectInfo
  | 0x1009 => .getObject
  | 0x100A => .getThumb
  | 0x100B => .deleteObject
  | 0x100C => .sendObjectInfo
  | 0x100D => .sendObject
  | 0x100F => .formatStore
  | 0x101B => .getPartialObject
  | 0x9107 => .canonGetPartialObject
  | code => .other code

/-- The code of an entry. -/
def code : Operation → UInt16
  | .getDeviceInfo => 0x1001
  | .openSession => 0x1002
  | .closeSession => 0x1003
  | .getStorageIds => 0x1004
  | .getStorageInfo => 0x1005
  | .getNumObjects => 0x1006
  | .getObjectHandles => 0x1007
  | .getObjectInfo => 0x1008
  | .getObject => 0x1009
  | .getThumb => 0x100A
  | .deleteObject => 0x100B
  | .sendObjectInfo => 0x100C
  | .sendObject => 0x100D
  | .formatStore => 0x100F
  | .getPartialObject => 0x101B
  | .canonGetPartialObject => 0x9107
  | .other code => code

/-- The name of an entry, `Other` for a code without one. -/
def name : Operation → String
  | .getDeviceInfo => "GetDeviceInfo"
  | .openSession => "OpenSession"
  | .closeSession => "CloseSession"
  | .getStorageIds => "GetStorageIds"
  | .getStorageInfo => "GetStorageInfo"
  | .getNumObjects => "GetNumObjects"
  | .getObjectHandles => "GetObjectHandles"
  | .getObjectInfo => "GetObjectInfo"
  | .getObject => "GetObject"
  | .getThumb => "GetThumb"
  | .deleteObject => "DeleteObject"
  | .sendObjectInfo => "SendObjectInfo"
  | .sendObject => "SendObject"
  | .formatStore => "FormatStore"
  | .getPartialObject => "GetPartialObject"
  | .canonGetPartialObject => "CanonGetPartialObject"
  | .other _ => "Other"

/-- The name with the code. -/
def label (x : Operation) : String :=
  labelled x.name x.code

/-- No code is lost in the table. -/
@[simp] theorem code_ofCode (c : UInt16) : (ofCode c).code = c := by
  unfold ofCode
  split <;> rfl

end Operation

/-- Answers of a camera to an operation; only `ok` means success. -/
inductive ResponseCode where
  | ok
  | generalError
  | sessionNotOpen
  | invalidTransactionId
  | operationNotSupported
  | parameterNotSupported
  | incompleteTransfer
  | invalidStorageId
  | invalidObjectHandle
  | devicePropNotSupported
  | invalidObjectFormatCode
  | storeFull
  | objectWriteProtected
  | storeReadOnly
  | accessDenied
  | noThumbnailPresent
  | storeNotAvailable
  | specificationByFormatUnsupported
  | noValidObjectInfo
  | deviceBusy
  | invalidParentObject
  | invalidParameter
  | sessionAlreadyOpen
  | transactionCancelled
  /-- A vendor's own code for a busy camera. -/
  | canonDeviceBusy
  /-- A code that the table does not name. -/
  | other (code : UInt16)
deriving DecidableEq

namespace ResponseCode

/-- The entry with this code. -/
def ofCode : UInt16 → ResponseCode
  | 0x2001 => .ok
  | 0x2002 => .generalError
  | 0x2003 => .sessionNotOpen
  | 0x2004 => .invalidTransactionId
  | 0x2005 => .operationNotSupported
  | 0x2006 => .parameterNotSupported
  | 0x2007 => .incompleteTransfer
  | 0x2008 => .invalidStorageId
  | 0x2009 => .invalidObjectHandle
  | 0x200A => .devicePropNotSupported
  | 0x200B => .invalidObjectFormatCode
  | 0x200C => .storeFull
  | 0x200D => .objectWriteProtected
  | 0x200E => .storeReadOnly
  | 0x200F => .accessDenied
  | 0x2010 => .noThumbnailPresent
  | 0x2013 => .storeNotAvailable
  | 0x2014 => .specificationByFormatUnsupported
  | 0x2015 => .noValidObjectInfo
  | 0x2019 => .deviceBusy
  | 0x201A => .invalidParentObject
  | 0x201D => .invalidParameter
  | 0x201E => .sessionAlreadyOpen
  | 0x201F => .transactionCancelled
  | 0xA108 => .canonDeviceBusy
  | code => .other code

/-- The code of an entry. -/
def code : ResponseCode → UInt16
  | .ok => 0x2001
  | .generalError => 0x2002
  | .sessionNotOpen => 0x2003
  | .invalidTransactionId => 0x2004
  | .operationNotSupported => 0x2005
  | .parameterNotSupported => 0x2006
  | .incompleteTransfer => 0x2007
  | .invalidStorageId => 0x2008
  | .invalidObjectHandle => 0x2009
  | .devicePropNotSupported => 0x200A
  | .invalidObjectFormatCode => 0x200B
  | .storeFull => 0x200C
  | .objectWriteProtected => 0x200D
  | .storeReadOnly => 0x200E
  | .accessDenied => 0x200F
  | .noThumbnailPresent => 0x2010
  | .storeNotAvailable => 0x2013
  | .specificationByFormatUnsupported => 0x2014
  | .noValidObjectInfo => 0x2015
  | .deviceBusy => 0x2019
  | .invalidParentObject => 0x201A
  | .invalidParameter => 0x201D
  | .sessionAlreadyOpen => 0x201E
  | .transactionCancelled => 0x201F
  | .canonDeviceBusy => 0xA108
  | .other code => code

/-- The name of an entry, `Other` for a code without one. -/
def name : ResponseCode → String
  | .ok => "Ok"
  | .generalError => "GeneralError"
  | .sessionNotOpen => "SessionNotOpen"
  | .invalidTransactionId => "InvalidTransactionId"
  | .operationNotSupported => "OperationNotSupported"
  | .parameterNotSupported => "ParameterNotSupported"
  | .incompleteTransfer => "IncompleteTransfer"
  | .invalidStorageId => "InvalidStorageId"
  | .invalidObjectHandle => "InvalidObjectHandle"
  | .devicePropNotSupported => "DevicePropNotSupported"
  | .invalidObjectFormatCode => "InvalidObjectFormatCode"
  | .storeFull => "StoreFull"
  | .objectWriteProtected => "ObjectWriteProtected"
  | .storeReadOnly => "StoreReadOnly"
  | .accessDenied => "AccessDenied"
  | .noThumbnailPresent => "NoThumbnailPresent"
  | .storeNotAvailable => "StoreNotAvailable"
  | .specificationByFormatUnsupported => "SpecificationByFormatUnsupported"
  | .noValidObjectInfo => "NoValidObjectInfo"
  | .deviceBusy => "DeviceBusy"
  | .invalidParentObject => "InvalidParentObject"
  | .invalidParameter => "InvalidParameter"
  | .sessionAlreadyOpen => "SessionAlreadyOpen"
  | .transactionCancelled => "TransactionCancelled"
  | .canonDeviceBusy => "CanonDeviceBusy"
  | .other _ => "Other"

/-- The name with the code. -/
def label (x : ResponseCode) : String :=
  labelled x.name x.code

/-- No code is lost in the table. -/
@[simp] theorem code_ofCode (c : UInt16) : (ofCode c).code = c := by
  unfold ofCode
  split <;> rfl

end ResponseCode

/-- Events that a camera reports on its own. -/
inductive EventCode where
  | cancelTransaction
  | objectAdded
  | objectRemoved
  | storeAdded
  | storeRemoved
  | devicePropChanged
  | objectInfoChanged
  | deviceInfoChanged
  | storeFull
  | deviceReset
  | storageInfoChanged
  | captureComplete
  /-- A code that the table does not name. -/
  | other (code : UInt16)
deriving DecidableEq

namespace EventCode

/-- The entry with this code. -/
def ofCode : UInt16 → EventCode
  | 0x4001 => .cancelTransaction
  | 0x4002 => .objectAdded
  | 0x4003 => .objectRemoved
  | 0x4004 => .storeAdded
  | 0x4005 => .storeRemoved
  | 0x4006 => .devicePropChanged
  | 0x4007 => .objectInfoChanged
  | 0x4008 => .deviceInfoChanged
  | 0x400A => .storeFull
  | 0x400B => .deviceReset
  | 0x400C => .storageInfoChanged
  | 0x400D => .captureComplete
  | code => .other code

/-- The code of an entry. -/
def code : EventCode → UInt16
  | .cancelTransaction => 0x4001
  | .objectAdded => 0x4002
  | .objectRemoved => 0x4003
  | .storeAdded => 0x4004
  | .storeRemoved => 0x4005
  | .devicePropChanged => 0x4006
  | .objectInfoChanged => 0x4007
  | .deviceInfoChanged => 0x4008
  | .storeFull => 0x400A
  | .deviceReset => 0x400B
  | .storageInfoChanged => 0x400C
  | .captureComplete => 0x400D
  | .other code => code

/-- The name of an entry, `Other` for a code without one. -/
def name : EventCode → String
  | .cancelTransaction => "CancelTransaction"
  | .objectAdded => "ObjectAdded"
  | .objectRemoved => "ObjectRemoved"
  | .storeAdded => "StoreAdded"
  | .storeRemoved => "StoreRemoved"
  | .devicePropChanged => "DevicePropChanged"
  | .objectInfoChanged => "ObjectInfoChanged"
  | .deviceInfoChanged => "DeviceInfoChanged"
  | .storeFull => "StoreFull"
  | .deviceReset => "DeviceReset"
  | .storageInfoChanged => "StorageInfoChanged"
  | .captureComplete => "CaptureComplete"
  | .other _ => "Other"

/-- The name with the code. -/
def label (x : EventCode) : String :=
  labelled x.name x.code

/-- No code is lost in the table. -/
@[simp] theorem code_ofCode (c : UInt16) : (ofCode c).code = c := by
  unfold ofCode
  split <;> rfl

end EventCode

/-- Formats of the objects on a card. -/
inductive ObjectFormat where
  | undefined
  | association
  | wav
  | mp3
  | avi
  | mpeg
  | quickTime
  | exifJpeg
  | tiff
  | canonCrw
  | canonCr2
  | canonMov
  | canonCr3
  | canonHeif
  | mp4
  /-- A code that the table does not name. -/
  | other (code : UInt16)
deriving DecidableEq

namespace ObjectFormat

/-- The entry with this code. -/
def ofCode : UInt16 → ObjectFormat
  | 0x3000 => .undefined
  | 0x3001 => .association
  | 0x3008 => .wav
  | 0x3009 => .mp3
  | 0x300A => .avi
  | 0x300B => .mpeg
  | 0x300D => .quickTime
  | 0x3801 => .exifJpeg
  | 0x380D => .tiff
  | 0xB101 => .canonCrw
  | 0xB103 => .canonCr2
  | 0xB104 => .canonMov
  | 0xB108 => .canonCr3
  | 0xB10B => .canonHeif
  | 0xB982 => .mp4
  | code => .other code

/-- The code of an entry. -/
def code : ObjectFormat → UInt16
  | .undefined => 0x3000
  | .association => 0x3001
  | .wav => 0x3008
  | .mp3 => 0x3009
  | .avi => 0x300A
  | .mpeg => 0x300B
  | .quickTime => 0x300D
  | .exifJpeg => 0x3801
  | .tiff => 0x380D
  | .canonCrw => 0xB101
  | .canonCr2 => 0xB103
  | .canonMov => 0xB104
  | .canonCr3 => 0xB108
  | .canonHeif => 0xB10B
  | .mp4 => 0xB982
  | .other code => code

/-- The name of an entry, `Other` for a code without one. -/
def name : ObjectFormat → String
  | .undefined => "Undefined"
  | .association => "Association"
  | .wav => "Wav"
  | .mp3 => "Mp3"
  | .avi => "Avi"
  | .mpeg => "Mpeg"
  | .quickTime => "QuickTime"
  | .exifJpeg => "ExifJpeg"
  | .tiff => "Tiff"
  | .canonCrw => "CanonCrw"
  | .canonCr2 => "CanonCr2"
  | .canonMov => "CanonMov"
  | .canonCr3 => "CanonCr3"
  | .canonHeif => "CanonHeif"
  | .mp4 => "Mp4"
  | .other _ => "Other"

/-- The name with the code. -/
def label (x : ObjectFormat) : String :=
  labelled x.name x.code

/-- No code is lost in the table. -/
@[simp] theorem code_ofCode (c : UInt16) : (ofCode c).code = c := by
  unfold ofCode
  split <;> rfl

end ObjectFormat

/-- Whether a response means success. -/
def ResponseCode.isOk (r : ResponseCode) : Bool :=
  r = .ok

end Tether.Ptp
