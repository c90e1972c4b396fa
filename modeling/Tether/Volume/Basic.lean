import Tether.Calendar.Instant
import Tether.Ptp.StorageInfo

/-!
# Tether.Volume.Basic — what is known about a card slot

A volume is the record of one slot: which storage is in it, how large and how full it is, and whether it is
mounted.  A mounted volume that is full or protected has a status of its own and still counts as mounted.
-/

namespace Tether

open Calendar (Instant)
open Ptp (StorageInfo)

/-- Kind of the storage in a slot. -/
inductive VolumeKind where
  | none
  | cfExpress
  | sd
  | internal
deriving DecidableEq

namespace VolumeKind

/-- The kind of a storage: built in, or by the bay, which is the high half of the id. -/
def classify (storage : UInt32) (info : StorageInfo) : VolumeKind :=
  if info.isFixed then .internal else if storage >>> 16 = 1 then .cfExpress else .sd

/-- The kind as people call it. -/
def name : VolumeKind → String
  | .none => "None"
  | .cfExpress => "CFexpress Type B"
  | .sd => "SD Card"
  | .internal => "Internal Storage"

end VolumeKind

/-- State of a slot. -/
inductive VolumeStatus where
  | empty
  | inserted
  | mounted
  | error
  | writeProtected
  | full
deriving DecidableEq

namespace VolumeStatus

/-- Whether a slot in this state is mounted. -/
def isMounted : VolumeStatus → Bool
  | .mounted | .writeProtected | .full => true
  | _ => false

/-- The state in words. -/
def name : VolumeStatus → String
  | .empty => "Empty"
  | .inserted => "Inserted"
  | .mounted => "Mounted"
  | .error => "Error"
  | .writeProtected => "Write Protected"
  | .full => "Full"

end VolumeStatus

/-- The record of one slot. -/
structure Volume where
  /-- Place of the slot in the table. -/
  slot : Nat
  /-- Id of the storage; 0 in an empty slot. -/
  storageId : UInt32 := 0
  kind : VolumeKind := .none
  status : VolumeStatus := .empty
  label : String := ""
  description : String := ""
  totalBytes : UInt64 := 0
  freeBytes : UInt64 := 0
  filesystem : String := ""
  /-- Bytes in a cluster; 0 since no camera reports it. -/
  clusterSize : UInt32 := 0
  fileCount : UInt32 := 0
  folderCount : UInt32 := 0
  /-- Time of the last mount, selection, format or upload. -/
  lastAccess : Option Instant := none
  /-- Whether writing has to be refused. -/
  writeProtected : Bool := false
  /-- Whether the storage has no file system. -/
  needsFormat : Bool := false
deriving DecidableEq

namespace Volume

/-- The record of an empty slot. -/
def empty (slot : Nat) : Volume :=
  { slot }

/-- Whether the slot is empty. -/
def isEmpty (v : Volume) : Bool :=
  v.status = .empty

/-- Whether the slot is mounted. -/
def isMounted (v : Volume) : Bool :=
  v.status.isMounted

/-- Bytes in use; none where more is free than there is. -/
def usedBytes (v : Volume) : UInt64 :=
  if v.freeBytes ≤ v.totalBytes then v.totalBytes - v.freeBytes else 0

/-- Takes capacity and identity of a storage over.  A camera that takes no uploads has protected storages only. -/
def describe (storage : UInt32) (info : StorageInfo) (uploads : Bool) (v : Volume) : Volume :=
  { v with
    storageId := storage
    kind := .classify storage info
    label := if info.volumeLabel = "" then info.description else info.volumeLabel
    description := info.description
    totalBytes := info.maxCapacity
    freeBytes := min info.freeSpaceBytes info.maxCapacity
    filesystem := info.filesystemName
    writeProtected := info.isReadOnly || !uploads
    needsFormat := info.filesystemType = 0 && info.maxCapacity ≠ 0 }

/-- The state of the volume when it is mounted. -/
def mountedStatus (v : Volume) : VolumeStatus :=
  if v.writeProtected then .writeProtected
  else if v.totalBytes ≠ 0 ∧ v.freeBytes = 0 then .full
  else .mounted

end Volume

end Tether
