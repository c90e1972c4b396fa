import Tether.Ptp.Dataset

/-!
# Tether.Ptp.ObjectInfo — what a camera tells about one of its objects
-/

namespace Tether.Ptp

open Calendar (Instant)

/-- The handle that stands for the root of a storage on the wire. -/
def wireRoot : UInt32 := 0xFFFFFFFF

/-- Description of an object, as a camera reports it and as an upload begins. -/
structure ObjectInfo where
  storageId : UInt32 := 0
  format : ObjectFormat := .other 0
  protectionStatus : UInt16 := 0
  compressedSize : UInt32 := 0
  thumbFormat : UInt16 := 0
  thumbCompressedSize : UInt32 := 0
  thumbPixWidth : UInt32 := 0
  thumbPixHeight : UInt32 := 0
  imagePixWidth : UInt32 := 0
  imagePixHeight : UInt32 := 0
  imageBitDepth : UInt32 := 0
  /-- Handle of the folder around the object; 0 in the root of its storage. -/
  parent : UInt32 := 0
  associationType : UInt16 := 0
  associationDesc : UInt32 := 0
  sequenceNumber : UInt32 := 0
  filename : String := ""
  captureDate : Option Instant := none
  modificationDate : Option Instant := none
  keywords : String := ""
deriving DecidableEq

namespace ObjectInfo

/-- The description with which an upload of `size` bytes begins. -/
def forUpload (storageId parent : UInt32) (filename : String) (format : ObjectFormat)
    (size : UInt32) : ObjectInfo :=
  { storageId, parent, filename, format, compressedSize := size }

/-- The fields in the order of the dataset. -/
def decoder : Decoder ObjectInfo := do
  let storageId ← Decoder.u32 "StorageID"
  let format ← Decoder.u16 "ObjectFormat"
  let protectionStatus ← Decoder.u16 "ProtectionStatus"
  let compressedSize ← Decoder.u32 "ObjectCompressedSize"
  let thumbFormat ← Decoder.u16 "ThumbFormat"
  let thumbCompressedSize ← Decoder.u32 "ThumbCompressedSize"
  let thumbPixWidth ← Decoder.u32 "ThumbPixWidth"
  let thumbPixHeight ← Decoder.u32 "ThumbPixHeight"
  let imagePixWidth ← Decoder.u32 "ImagePixWidth"
  let imagePixHeight ← Decoder.u32 "ImagePixHeight"
  let imageBitDepth ← Decoder.u32 "ImageBitDepth"
  let parent ← Decoder.u32 "ParentObject"
  let associationType ← Decoder.u16 "AssociationType"
  let associationDesc ← Decoder.u32 "AssociationDesc"
  let sequenceNumber ← Decoder.u32 "SequenceNumber"
  let filename ← Dataset.text "Filename"
  let captureDate ← Dataset.date "CaptureDate"
  let modificationDate ← Dataset.date "ModificationDate"
  let keywords ← Dataset.text "Keywords"
  return { storageId, format := .ofCode format, protectionStatus, compressedSize, thumbFormat, thumbCompressedSize,
           thumbPixWidth, thumbPixHeight, imagePixWidth, imagePixHeight, imageBitDepth, parent, associationType,
           associationDesc, sequenceNumber, filename, captureDate, modificationDate, keywords }

/-- Reads the dataset. -/
def parse (payload : Bytes) : Except PtpError ObjectInfo :=
  Dataset.parse "ObjectInfo" decoder payload

/-- The dataset as bytes. -/
def encode (info : ObjectInfo) : Bytes :=
  Bytes.ofU32 info.storageId ++ Bytes.ofU16 info.format.code ++ Bytes.ofU16 info.protectionStatus ++
  Bytes.ofU32 info.compressedSize ++ Bytes.ofU16 info.thumbFormat ++ Bytes.ofU32 info.thumbCompressedSize ++
  Bytes.ofU32 info.thumbPixWidth ++ Bytes.ofU32 info.thumbPixHeight ++ Bytes.ofU32 info.imagePixWidth ++
  Bytes.ofU32 info.imagePixHeight ++ Bytes.ofU32 info.imageBitDepth ++ Bytes.ofU32 info.parent ++
  Bytes.ofU16 info.associationType ++ Bytes.ofU32 info.associationDesc ++ Bytes.ofU32 info.sequenceNumber ++
  Dataset.ofText info.filename ++ Dataset.ofDate info.captureDate ++ Dataset.ofDate info.modificationDate ++
  Dataset.ofText info.keywords

/-- Whether the object is a folder. -/
def isFolder (info : ObjectInfo) : Bool :=
  info.format = .association

end ObjectInfo

end Tether.Ptp
