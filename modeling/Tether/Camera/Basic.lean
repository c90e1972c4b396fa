import Tether.FileType
import Tether.OrderedMap
import Tether.Ptp.DeviceInfo
import Tether.Ptp.ObjectInfo
import Tether.Ptp.StorageInfo
import Tether.Ptp.Stream

/-!
# Tether.Camera.Basic — a camera held in memory

A `Camera` is a whole camera as a value: storages, objects, the session and everything on its way in either
direction.  Cards and files can be put into it, and faults can be armed that spoil the answer to one later
command.
-/

namespace Tether

open Calendar (Instant)
open Ptp

/-- A way in which one answer goes wrong. -/
inductive Fault where
  /-- The operation is not carried out and answered with this code. -/
  | respond (code : ResponseCode)
  /-- The answer carries another transaction's id. -/
  | mismatch
  /-- The answer is a container of no known kind. -/
  | malformed
  /-- There is no answer. -/
  | noResponse
  /-- The link breaks. -/
  | disconnect
deriving DecidableEq

/-- An object on a camera. -/
structure CameraObject where
  /-- Its description. -/
  info : ObjectInfo
  /-- Its content. -/
  data : Bytes
deriving DecidableEq

/-- An upload whose content is still to come. -/
structure PendingUpload where
  /-- Handle that the object will have. -/
  handle : UInt32
  /-- Description of the object. -/
  info : ObjectInfo
deriving DecidableEq

/-- A camera. -/
structure Camera where
  /-- What the camera tells about itself. -/
  deviceInfo : DeviceInfo
  /-- Time that the camera shows. -/
  clock : Instant
  /-- Whether the link holds. -/
  connected : Bool := true
  /-- Whether a session is open. -/
  sessionOpen : Bool := false
  /-- Storages by their ids. -/
  storages : OrderedMap UInt32 StorageInfo := .empty
  /-- Objects by their handles. -/
  objects : OrderedMap UInt32 CameraObject := .empty
  /-- Handle of the next object. -/
  nextHandle : UInt32 := 1
  /-- Bytes from the host that are no whole container yet. -/
  outbound : Bytes := []
  /-- A command whose data is still to come. -/
  awaitingData : Option Container := none
  /-- An upload whose content is still to come. -/
  pendingUpload : Option PendingUpload := none
  /-- Transfers that wait for the host. -/
  inbound : List Bytes := []
  /-- Most bytes of a transfer to the host. -/
  maxChunk : Nat := 0xFFFFFFFFFFFFFFFF
  /-- Transfers to the host move on. -/
  maxChunk_pos : 0 < maxChunk := by decide
  /-- Armed faults, in the order of their arming. -/
  faults : List (Operation × Fault) := []
  /-- Every command received, with its transaction id. -/
  commands : List (Operation × UInt32) := []
  /-- Number of transfers received. -/
  sends : Nat := 0

namespace Camera

/-- Id of the storage in the first card slot. -/
def cfExpressId : UInt32 := 0x00010001

/-- Id of the storage in the second card slot. -/
def sdId : UInt32 := 0x00020001

/-- Stands for all storages of a camera. -/
def allStorages : UInt32 := 0xFFFFFFFF

/-- The description of a card; it counts 40 MiB for an image. -/
def removableCard (description : String) (capacity free : UInt64) : StorageInfo where
  storageType := StorageInfo.removableRam
  filesystemType := 3
  accessCapability := 0
  maxCapacity := capacity
  freeSpaceBytes := free
  freeSpaceImages := (free / 0x2800000).toUInt32
  description := description
  volumeLabel := "EOS_DIGITAL"

/-- What a camera fresh from the shop tells about itself. -/
def defaultInfo : DeviceInfo where
  standardVersion := 100
  vendorExtensionId := 11
  vendorExtensionVersion := 100
  operationsSupported := List.map Operation.code
    [.getDeviceInfo, .openSession, .closeSession, .getStorageIds, .getStorageInfo, .getNumObjects,
     .getObjectHandles, .getObjectInfo, .getObject, .deleteObject, .sendObjectInfo, .sendObject, .formatStore,
     .getPartialObject]
  manufacturer := "Canon Inc."
  model := "Canon EOS R5"
  deviceVersion := "1.8.1"
  serialNumber := "VIRTUAL0001"

/-- A camera without cards. -/
def bare (clock : Instant) : Camera :=
  { deviceInfo := defaultInfo, clock }

/-- Puts a storage into the camera, in the place of one with the same id. -/
def addStorage (c : Camera) (id : UInt32) (info : StorageInfo) : Camera :=
  { c with storages := c.storages.insert id info }

/-- A camera with an empty card in both slots. -/
def withTwoCards (clock : Instant) : Camera :=
  ((bare clock).addStorage cfExpressId (removableCard "CFexpress" 0x8000000000 0x6400000000)).addStorage sdId
    (removableCard "SD" 0x2000000000 0x1900000000)

/-- Takes a storage out, with every object on it. -/
def removeStorage (c : Camera) (id : UInt32) : Camera :=
  { c with
    storages := c.storages.erase id
    objects := c.objects.filter fun _ o => o.info.storageId ≠ id }

/-- Sets or lifts the write protection of a storage. -/
def setReadOnly (c : Camera) (id : UInt32) (readOnly : Bool) : Camera :=
  { c with
    storages := c.storages.adjust id fun s => { s with accessCapability := if readOnly then 1 else 0 } }

/-- Adds an object under the next handle and answers the handle. -/
def addObject (c : Camera) (info : ObjectInfo) (data : Bytes) : UInt32 × Camera :=
  (c.nextHandle, { c with nextHandle := c.nextHandle + 1, objects := c.objects.insert c.nextHandle ⟨info, data⟩ })

/-- Adds a file that was made just now. -/
def addFile (c : Camera) (id parent : UInt32) (name : String) (data : Bytes) : UInt32 × Camera :=
  let now := some c.clock.wholeSecond
  let format := (FileType.detect name).objectFormat
  let info := ObjectInfo.forUpload id parent name format (UInt32.ofNat data.length)
  c.addObject { info with captureDate := now, modificationDate := now } data

/-- Adds a folder. -/
def addFolder (c : Camera) (id parent : UInt32) (name : String) : UInt32 × Camera :=
  c.addObject { ObjectInfo.forUpload id parent name .association 0 with associationType := 1 } []

/-- Changes the description of an object. -/
def adjustInfo (c : Camera) (handle : UInt32) (f : ObjectInfo → ObjectInfo) : Camera :=
  { c with objects := c.objects.adjust handle fun o => { o with info := f o.info } }

/-- Sets the time at which an object was last changed. -/
def setModified (c : Camera) (handle : UInt32) (date : Instant) : Camera :=
  c.adjustInfo handle fun info => { info with modificationDate := some date }

/-- Sets the size of an image in pixels. -/
def setPixelSize (c : Camera) (handle width height : UInt32) : Camera :=
  c.adjustInfo handle fun info => { info with imagePixWidth := width, imagePixHeight := height }

/-- Arms a fault for the next command of an operation. -/
def injectFault (c : Camera) (operation : Operation) (fault : Fault) : Camera :=
  { c with faults := c.faults ++ [(operation, fault)] }

/-- Breaks the link for good. -/
def disconnect (c : Camera) : Camera :=
  { c with connected := false }

/-- Limits the transfers to the host, to no less than one byte. -/
def setMaxChunk (c : Camera) (bytes : Nat) : Camera :=
  { c with maxChunk := max bytes 1, maxChunk_pos := Nat.le_max_right bytes 1 }

/-- Number of commands of an operation received. -/
def countCommands (c : Camera) (operation : Operation) : Nat :=
  c.commands.countP fun command => command.1 = operation

end Camera

end Tether
