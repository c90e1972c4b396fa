import Tether.Ptp.Dataset

/-!
# Tether.Ptp.StorageInfo — what a camera tells about one of its storages
-/

namespace Tether.Ptp

/-- Capacity and identity of a storage. -/
structure StorageInfo where
  storageType : UInt16 := 0
  filesystemType : UInt16 := 0
  accessCapability : UInt16 := 0
  maxCapacity : UInt64 := 0
  freeSpaceBytes : UInt64 := 0
  freeSpaceImages : UInt32 := 0
  description : String := ""
  volumeLabel : String := ""
deriving DecidableEq

namespace StorageInfo

/-- Storage type of built-in read-only memory. -/
def fixedRom : UInt16 := 1

/-- Storage type of built-in memory. -/
def fixedRam : UInt16 := 3

/-- Storage type of a card. -/
def removableRam : UInt16 := 4

/-- The fields in the order of the dataset. -/
def decoder : Decoder StorageInfo := do
  let storageType ← Decoder.u16 "StorageType"
  let filesystemType ← Decoder.u16 "FilesystemType"
  let accessCapability ← Decoder.u16 "AccessCapability"
  let maxCapacity ← Decoder.u64 "MaxCapacity"
  let freeSpaceBytes ← Decoder.u64 "FreeSpaceInBytes"
  let freeSpaceImages ← Decoder.u32 "FreeSpaceInImages"
  let description ← Dataset.text "StorageDescription"
  let volumeLabel ← Dataset.text "VolumeLabel"
  return { storageType, filesystemType, accessCapability, maxCapacity, freeSpaceBytes, freeSpaceImages,
           description, volumeLabel }

/-- Reads the dataset. -/
def parse (payload : Bytes) : Except PtpError StorageInfo :=
  Dataset.parse "StorageInfo" decoder payload

/-- The dataset as bytes. -/
def encode (info : StorageInfo) : Bytes :=
  Bytes.ofU16 info.storageType ++ Bytes.ofU16 info.filesystemType ++ Bytes.ofU16 info.accessCapability ++
  Bytes.ofU64 info.maxCapacity ++ Bytes.ofU64 info.freeSpaceBytes ++ Bytes.ofU32 info.freeSpaceImages ++
  Dataset.ofText info.description ++ Dataset.ofText info.volumeLabel

/-- Whether the storage cannot be written; any access other than reading and writing counts. -/
def isReadOnly (info : StorageInfo) : Bool :=
  info.accessCapability ≠ 0

/-- Whether the storage is built in. -/
def isFixed (info : StorageInfo) : Bool :=
  info.storageType = fixedRom || info.storageType = fixedRam

/-- Name of the file system on the storage. -/
def filesystemName (info : StorageInfo) : String :=
  match info.filesystemType with
  | 1 => "generic-flat"
  | 2 => "generic-hierarchical"
  | 3 => "DCF"
  | _ => "unknown"

end StorageInfo

end Tether.Ptp
