import Tether.FileType
import Tether.Ptp.ObjectInfo

/-!
# Tether.Store.Metadata — what is known about an object

The metadata of an object follow from the camera's description of it, the slot that its storage is in and the
model of the camera.  Exposure details are in no description: they come from the content, are recorded by whoever
reads it, and stay while the content stays the same.
-/

namespace Tether

open Calendar (Instant)
open Ptp (ObjectInfo)

/-- How an image or a video was taken. -/
structure CaptureMetadata where
  width : UInt32
  height : UInt32
  /-- Sensitivity, from the content. -/
  iso : Option UInt32 := none
  cameraModel : Option String := none
  /-- Lens, from the content. -/
  lensModel : Option String := none
deriving DecidableEq

/-- What is known about an object. -/
structure ObjectMetadata where
  /-- Handle of the folder around the object; 0 in the root of its storage. -/
  parent : UInt32 := 0
  storageId : UInt32 := 0
  /-- The slot that the storage was in when the description was read. -/
  slot : Option Nat := none
  name : String := ""
  fileType : FileType := .unknown
  /-- Bytes that can be read. -/
  size : UInt32 := 0
  created : Option Instant := none
  modified : Option Instant := none
  /-- The camera's protection status. -/
  attributes : UInt16 := 0
  capture : Option CaptureMetadata := none
deriving DecidableEq, Inhabited

namespace ObjectMetadata

/-- What a description tells. -/
def ofInfo (info : ObjectInfo) (slot : Option Nat) (cameraModel : Option String) : ObjectMetadata where
  parent := info.parent
  storageId := info.storageId
  slot := slot
  name := info.filename
  fileType := .ofObject info.format info.filename
  size := info.compressedSize
  created := info.captureDate
  modified := info.modificationDate
  attributes := info.protectionStatus
  capture :=
    if (FileType.ofObject info.format info.filename).hasCaptureMetadata then
      some { width := info.imagePixWidth, height := info.imagePixHeight, cameraModel }
    else none

/-- Whether the object is a folder. -/
def isFolder (m : ObjectMetadata) : Bool :=
  m.fileType = .folder

/-- Whether the object may be longer than its size: the camera reports the largest word for any size from it on. -/
def isSaturated (m : ObjectMetadata) : Bool :=
  m.size = 0xFFFFFFFF

/-- Whether another content is behind the same object now, by size and time of change. -/
def differs (old new : ObjectMetadata) : Bool :=
  old.size ≠ new.size || old.modified ≠ new.modified

/-- New metadata, with the exposure details of the old ones where the content is the same. -/
def refresh (old new : ObjectMetadata) : ObjectMetadata :=
  if old.differs new then new
  else
    match old.capture, new.capture with
    | some before, some now =>
      { new with
        capture := some { now with iso := now.iso.or before.iso, lensModel := now.lensModel.or before.lensModel } }
    | _, _ => new

end ObjectMetadata

/-- A file or a folder of the camera. -/
structure RemoteObject where
  /-- The camera's handle. -/
  handle : UInt32
  /-- What is known about the object. -/
  metadata : ObjectMetadata
  /-- The content, while it is cached. -/
  payload : Option Bytes := none
deriving DecidableEq, Inhabited

namespace RemoteObject

/-- Whether the content is cached. -/
def isCached (o : RemoteObject) : Bool :=
  o.payload.isSome

/-- Bytes cached. -/
def cachedLength (o : RemoteObject) : Nat :=
  (o.payload.map List.length).getD 0

end RemoteObject

end Tether
