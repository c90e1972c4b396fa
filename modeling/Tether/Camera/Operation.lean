import Tether.Camera.Basic

/-!
# Tether.Camera.Operation — what a camera does on a command

`perform` carries out one operation and answers its response parameters and its data, or the code of its refusal.
All but the description of the camera and the opening of a session need an open session.
-/

namespace Tether.Camera

open Ptp

/-- Objects of a camera by their handles. -/
abbrev Objects := OrderedMap UInt32 CameraObject

/-- Handles of the objects whose parent is `handle`. -/
def children (objects : Objects) (handle : UInt32) : List UInt32 :=
  (objects.filter fun _ o => o.info.parent = handle).keys

/-- Removes an object and everything below it; answers the bytes of content removed.  The first number bounds the
depth of the tree. -/
def removeBelow : Nat → UInt32 → Objects → Nat × Objects
  | 0, _, objects => (0, objects)
  | depth + 1, handle, objects =>
    let (freed, remaining) := (children objects handle).foldl
      (fun (freed, objects) child =>
        let (more, objects) := removeBelow depth child objects
        (freed + more, objects))
      (0, objects)
    match remaining.get? handle with
    | some o => (freed + o.data.length, remaining.erase handle)
    | none => (freed, remaining)

/-- Removes an object and everything below it.  A tree is no deeper than it has objects. -/
def removeTree (handle : UInt32) (objects : Objects) : Nat × Objects :=
  removeBelow (objects.size + 1) handle objects

/-- The parameter at a place of a command; one that is left out is 0. -/
def parameter (parameters : List UInt32) (i : Nat) : UInt32 :=
  parameters.getD i 0

/-- What a camera answers to an operation: response parameters, and data where there is any. -/
structure Reply where
  /-- Parameters of the response. -/
  parameters : List UInt32 := []
  /-- The data phase. -/
  data : Option Bytes := none

/-- A step of a camera, which may refuse with a response code. -/
abbrev Step (α : Type) := Action Camera ResponseCode α

/-- Refuses an id that is no storage's. -/
def checkStorage (id : UInt32) : Step Unit := fun c =>
  if id = allStorages ∨ c.storages.contains id then (.ok (), c) else (.error .invalidStorageId, c)

/-- Refuses a storage that cannot be written. -/
def checkWritable (id : UInt32) : Step Unit := fun c =>
  match c.storages.get? id with
  | some s => if s.isReadOnly then (.error .storeReadOnly, c) else (.ok (), c)
  | none => (.error .invalidStorageId, c)

/-- The object with a handle. -/
def findObject (handle : UInt32) : Step CameraObject := fun c =>
  match c.objects.get? handle with
  | some o => (.ok o, c)
  | none => (.error .invalidObjectHandle, c)

/-- Whether an object lies on a storage, or on any. -/
def liesOn (storage : UInt32) (o : CameraObject) : Bool :=
  storage = allStorages || o.info.storageId = storage

/-- Opens a session under an id other than 0, once. -/
def openSession (id : UInt32) : Step Reply := fun c =>
  if id = 0 then (.error .invalidParameter, c)
  else if c.sessionOpen then (.error .sessionAlreadyOpen, c)
  else (.ok {}, { c with sessionOpen := true })

/-- Counts the objects on a storage, of one format or of any. -/
def countObjects (storage format : UInt32) : Step Reply := do
  checkStorage storage
  let c ← Action.state
  let count := c.objects.values.countP fun o =>
    liesOn storage o && (format = 0 || o.info.format.code.toUInt32 = format)
  return { parameters := [UInt32.ofNat count] }

/-- Lists the handles on a storage: all of them, or those with one parent. -/
def listHandles (storage parent : UInt32) : Step Reply := do
  checkStorage storage
  let c ← Action.state
  if parent ≠ 0 ∧ parent ≠ wireRoot ∧ ¬ c.objects.contains parent then Action.fail .invalidParentObject
  else
    let handles := (c.objects.filter fun _ o =>
      liesOn storage o && (parent = 0 || o.info.parent = if parent = wireRoot then 0 else parent)).keys
    return { data := some (Dataset.ofU32List handles) }

/-- Describes an object; its size is that of its content. -/
def describe (handle : UInt32) : Step Reply := do
  let o ← findObject handle
  return { data := some { o.info with compressedSize := UInt32.ofNat o.data.length }.encode }

/-- Answers a part of an object's content and its length. -/
def readPart (handle offset length : UInt32) : Step Reply := do
  let o ← findObject handle
  let part := (o.data.drop offset.toNat).take length.toNat
  return { parameters := [UInt32.ofNat part.length], data := some part }

/-- Deletes an object and everything below it and gives its storage the room back, up to its capacity.  The room
is added up as a number; that a card with nearly 2^64 free bytes has no sum in a 64-bit word is left out. -/
def delete (handle : UInt32) : Step Reply := do
  let o ← findObject handle
  if o.info.protectionStatus ≠ 0 then Action.fail .objectWriteProtected
  else
    checkWritable o.info.storageId
    Action.change fun c =>
      let (freed, objects) := removeTree handle c.objects
      { c with
        objects
        storages := c.storages.adjust o.info.storageId fun s =>
          { s with freeSpaceBytes := UInt64.ofNat (min (s.freeSpaceBytes.toNat + freed) s.maxCapacity.toNat) } }
    return {}

/-- Begins an upload: a folder is there at once, a file waits for its content. -/
def beginUpload (storage parent : UInt32) (data : Option Bytes) : Step Reply := do
  let payload ← Action.ofOption .noValidObjectInfo data
  let info ← match ObjectInfo.parse payload with
    | .ok info => Action.done info
    | .error _ => Action.fail .noValidObjectInfo
  checkStorage storage
  checkWritable storage
  let parent := if parent = wireRoot then 0 else parent
  let c ← Action.state
  if parent ≠ 0 ∧ ¬ (c.objects.get? parent).any fun o => o.info.isFolder then Action.fail .invalidParentObject
  else if ((c.storages.get? storage).elim 0 StorageInfo.freeSpaceBytes) < info.compressedSize.toUInt64 then
    Action.fail .storeFull
  else
    let info := { info with
      storageId := storage
      parent
      modificationDate := some (info.modificationDate.getD c.clock.wholeSecond) }
    let handle := c.nextHandle
    Action.change fun c =>
      let c := { c with nextHandle := c.nextHandle + 1 }
      if info.isFolder then { c with objects := c.objects.insert handle ⟨info, []⟩ }
      else { c with pendingUpload := some ⟨handle, info⟩ }
    return { parameters := [storage, parent, handle] }

/-- Ends an upload with the content of the object, which takes its room on the storage. -/
def finishUpload (data : Option Bytes) : Step Reply := fun c =>
  match c.pendingUpload with
  | none => (.error .noValidObjectInfo, c)
  | some upload =>
    let content := data.getD []
    (.ok {}, { c with
      pendingUpload := none
      storages := c.storages.adjust upload.info.storageId fun s =>
        { s with freeSpaceBytes := UInt64.ofNat (s.freeSpaceBytes.toNat - content.length) }
      objects := c.objects.insert upload.handle ⟨upload.info, content⟩ })

/-- Empties a storage. -/
def format (storage : UInt32) : Step Reply := do
  checkStorage storage
  checkWritable storage
  Action.change fun c => { c with
    objects := c.objects.filter fun _ o => o.info.storageId ≠ storage
    storages := c.storages.adjust storage fun s => { s with freeSpaceBytes := s.maxCapacity } }
  return {}

/-- Carries out an operation that needs a session. -/
def performInSession (operation : Operation) (parameters : List UInt32) (data : Option Bytes) : Step Reply :=
  let p := parameter parameters
  match operation with
  | .closeSession => fun c => (.ok {}, { c with sessionOpen := false })
  | .getStorageIds => fun c => (.ok { data := some (Dataset.ofU32List c.storages.keys) }, c)
  | .getStorageInfo => fun c =>
    match c.storages.get? (p 0) with
    | some info => (.ok { data := some info.encode }, c)
    | none => (.error .invalidStorageId, c)
  | .getNumObjects => countObjects (p 0) (p 1)
  | .getObjectHandles => listHandles (p 0) (p 2)
  | .getObjectInfo => describe (p 0)
  | .getObject => do
    let o ← findObject (p 0)
    return { data := some o.data }
  | .getPartialObject => readPart (p 0) (p 1) (p 2)
  | .deleteObject => delete (p 0)
  | .sendObjectInfo => beginUpload (p 0) (p 1) data
  | .sendObject => finishUpload data
  | .formatStore => format (p 0)
  | _ => Action.fail .operationNotSupported

/-- Carries out an operation. -/
def perform (operation : Operation) (parameters : List UInt32) (data : Option Bytes) : Step Reply :=
  match operation with
  | .getDeviceInfo => fun c => (.ok { data := some c.deviceInfo.encode }, c)
  | .openSession => openSession (parameter parameters 0)
  | _ => fun c =>
    if c.sessionOpen then performInSession operation parameters data c else (.error .sessionNotOpen, c)

end Tether.Camera
