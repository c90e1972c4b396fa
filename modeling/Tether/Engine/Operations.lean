import Tether.Engine.Exchange
import Tether.Ptp.DeviceInfo
import Tether.Ptp.ObjectInfo
import Tether.Ptp.StorageInfo

/-!
# Tether.Engine.Operations — what a host asks a camera for

One call for every operation, with parameters and answers of their own types.  Handle 0 stands for the root of a
storage here; on the wire the root is the largest word.
-/

namespace Tether.Engine

open Ptp

variable {τ : Type} [Transport τ]

/-- A parent as it is written on the wire. -/
def wireParent (parent : UInt32) : UInt32 :=
  if parent = 0 then wireRoot else parent

/-- Asks for a dataset and reads it. -/
def askDataset {α : Type} (operation : Operation) (parameters : List UInt32) (parse : Bytes → Except PtpError α) :
    Action (Engine τ) PtpError α := do
  let response ← executeOk operation parameters none
  let bytes ← .ofExcept response.expectData
  .ofExcept (parse bytes)

/-- The camera's description. -/
def deviceInfo : Action (Engine τ) PtpError DeviceInfo :=
  askDataset .getDeviceInfo [] DeviceInfo.parse

/-- Ids of the storages. -/
def storageIds : Action (Engine τ) PtpError (List UInt32) :=
  askDataset .getStorageIds [] (Dataset.parseU32List "StorageIDs")

/-- Description of a storage. -/
def storageInfo (storage : UInt32) : Action (Engine τ) PtpError StorageInfo :=
  askDataset .getStorageInfo [storage] StorageInfo.parse

/-- Number of objects on a whole storage, of one format or of any. -/
def countObjects (storage : UInt32) (format : Option ObjectFormat) : Action (Engine τ) PtpError UInt32 := do
  let response ← executeOk .getNumObjects [storage, ((format.map ObjectFormat.code).getD 0).toUInt32, 0] none
  .ofOption (.framing .noCount) response.parameters[0]?

/-- Handles of the children of a folder, or of the root. -/
def handles (storage parent : UInt32) : Action (Engine τ) PtpError (List UInt32) :=
  askDataset .getObjectHandles [storage, 0, wireParent parent] (Dataset.parseU32List "ObjectHandles")

/-- Description of an object. -/
def objectInfo (handle : UInt32) : Action (Engine τ) PtpError ObjectInfo :=
  askDataset .getObjectInfo [handle] ObjectInfo.parse

/-- Content of an object. -/
def download (handle : UInt32) : Action (Engine τ) PtpError Bytes := do
  let response ← executeOk .getObject [handle] none
  return response.data.getD []

/-- Up to `length` bytes of an object from `offset` on. -/
def downloadPart (handle offset length : UInt32) : Action (Engine τ) PtpError Bytes := do
  let response ← executeOk .getPartialObject [handle, offset, length] none
  return response.data.getD []

/-- Deletes an object. -/
def deleteObject (handle : UInt32) : Action (Engine τ) PtpError Unit := do
  let _ ← executeOk .deleteObject [handle, 0] none

/-- Formats a storage. -/
def formatStore (storage : UInt32) : Action (Engine τ) PtpError Unit := do
  let _ ← executeOk .formatStore [storage] none

/-- Announces an upload; the camera answers with the handle of the new object. -/
def announceUpload (storage parent : UInt32) (info : ObjectInfo) : Action (Engine τ) PtpError UInt32 := do
  let response ← executeOk .sendObjectInfo [storage, wireParent parent] (some info.encode)
  .ofOption (.framing .noHandle) response.parameters[2]?

/-- Sends the content of the upload that was announced last. -/
def sendContent (content : Bytes) : Action (Engine τ) PtpError Unit := do
  let _ ← executeOk .sendObject [] (some content)

/-- Sends content of this length that is put together only if it can be sent. -/
def sendDeferred (length : Nat) (content : Unit → Bytes) : Action (Engine τ) PtpError Unit := fun e =>
  if maxWord < headerLength + length then (.error (.invalidArgument (.payloadTooLong .sendObject length)), e)
  else sendContent (content ()) e

/-- Content is sent as it is however it is put together. -/
theorem sendDeferred_eq (content : Unit → Bytes) :
    (sendDeferred (content ()).length content : Action (Engine τ) PtpError Unit) = sendContent (content ()) := by
  funext e
  unfold sendDeferred
  split
  · rename_i hlong
    have hcheck : checkCall .sendObject [] (some (content ())) e =
        .error (.invalidArgument (.payloadTooLong .sendObject (content ()).length)) := by
      rw [checkCall, if_neg (by decide), if_pos ⟨rfl, hlong⟩]
      rfl
    have hexecute : execute .sendObject [] (some (content ())) e =
        (.error (.invalidArgument (.payloadTooLong .sendObject (content ()).length)), e) := by
      rw [execute, hcheck]
    rw [sendContent, executeOk, Action.bind_apply, Action.bind_apply, hexecute]
  · rfl

/-- Uploads an object and answers with its handle. -/
def upload (storage parent : UInt32) (info : ObjectInfo) (content : Bytes) :
    Action (Engine τ) PtpError UInt32 := do
  let handle ← announceUpload storage parent info
  sendContent content
  return handle

end Tether.Engine
