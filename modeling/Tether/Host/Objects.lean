import Tether.Host.Basic

/-!
# Tether.Host.Objects — describing, reading, caching, uploading and deleting objects

Reads are served from the cache when the content is there, and from the camera otherwise, without caching it;
`cache` is the only way into the cache.  Everything that can be refused here is refused before a word goes to the
camera.
-/

namespace Tether.Host

open Ptp

variable {τ : Type} [Transport τ]

/-- A call to the camera about the object `handle`, if it is about one. -/
def call {α : Type} (handle : Option UInt32) (x : Action (Engine τ) PtpError α) : Action (Host τ) StorageError α :=
  .within Host.bay (fun bay h => { h with bay }) (Bay.call handle x)

/-- The metadata of a description, by the slot that its storage is in now. -/
def metadataOf (info : ObjectInfo) (h : Host τ) : ObjectMetadata :=
  .ofInfo info ((h.bay.table.slotOf info.storageId).map Fin.val) h.store.cameraModel

/-- Asks the camera to describe an object and takes the answer in. -/
def fetch (handle : UInt32) : Action (Host τ) StorageError ObjectRef := do
  if handle = 0 then .fail (.invalidArgument .rootHasNoObject)
  let info ← call (some handle) (Engine.objectInfo handle)
  let metadata ← .read (metadataOf info)
  onStore (Store.learn handle metadata)

/-- Up to `length` bytes of an object from `offset` on; none at its end and behind it. -/
def readRange (ref : ObjectRef) (length offset : Nat) : Action (Host τ) StorageError Bytes := do
  let o ← .read fun h : Host τ => h.store.index.object ref
  let cached := o.payload.getD []
  if offset < cached.length then
    let bytes := (cached.drop offset).take length
    .change fun h => (h.updateStore (·.updateIndex (·.touch o.handle))).count (Stats.recordCacheHit bytes.length)
    return bytes
  let size := o.metadata.size.toNat
  if size ≤ offset ∧ o.metadata.isSaturated then .fail (.fileTooLarge o.handle)
  if size ≤ offset ∨ length = 0 then return []
  let wanted := min length (size - offset)
  let data ← call (some o.handle) (Engine.downloadPart o.handle (.ofNat offset) (.ofNat wanted))
  let bytes := data.take length
  .change (count (Stats.recordCacheMiss bytes.length))
  return bytes

/-- Downloads an object into the cache as the most recently used one.  Answers whether it is cached now: one that
is longer than the budget, or that does not stand for its handle any more, is not. -/
def cache (ref : ObjectRef) : Action (Host τ) StorageError Bool := do
  let h ← .state
  let o := h.store.index.object ref
  if o.isCached then
    .change (updateStore (·.updateIndex (·.touch o.handle)))
    return true
  if h.store.index.budget < o.metadata.size.toNat then return false
  let payload ← call (some o.handle) (Engine.download o.handle)
  .change (count (Stats.recordCacheMiss payload.length))
  if h.store.index.budget < payload.length then return false
  onStore fun s =>
    let ((stored, _), index) := s.index.insertCached o.handle payload
    (stored, { s with index })

/-- Refuses names that no upload may have. -/
def checkName (name : String) : Except StorageError Unit :=
  if name = "" ∨ name = "." ∨ name = ".." then .error (.invalidArgument (.notAFileName name))
  else if name.toList.any fun c => c = '/' ∨ c = '\x00' then .error (.invalidArgument (.pathSeparator name))
  else if maxNameLength < name.utf8ByteSize then .error (.invalidArgument (.nameLength name.utf8ByteSize))
  else .ok ()

/-- The size of an upload as a description tells it. -/
def checkSize (content : Bytes) : Except StorageError UInt32 :=
  if content.length ≤ maxWord then .ok (.ofNat content.length)
  else .error (.invalidArgument (.uploadTooLarge content.length))

/-- The slot and the storage to which uploads go. -/
def uploadTarget (h : Host τ) : Except StorageError (Slot × UInt32) :=
  match h.bay.table.active with
  | none => .error (.noSuchDevice none)
  | some slot =>
    let v := h.bay.table.volume slot
    if v.writeProtected then .error .readOnly else .ok (slot, v.storageId)

/-- Uploads a new object into a folder of the active volume, 0 for its root. -/
def writeNew (name : String) (content : Bytes) (parent : UInt32) : Action (Host τ) StorageError ObjectRef := do
  .ofExcept (checkName name)
  let size ← .ofExcept (checkSize content)
  let h ← .state
  let (slot, storage) ← .ofExcept (uploadTarget h)
  let now := h.bay.engine.clock.wholeSecond
  let info := { ObjectInfo.forUpload storage parent name (FileType.detect name).objectFormat size with
    captureDate := some now
    modificationDate := some now }
  let handle ← call none (Engine.announceUpload storage parent info)
  call (some handle) (Engine.sendContent content)
  .change fun h => { h with bay := h.bay.touch slot }.count (Stats.recordWrite content.length)
  let metadata ← .read (metadataOf info)
  onStore (Store.add handle metadata)

/-- The size of an upload of so many bytes. -/
def checkLength (length : Nat) : Except StorageError UInt32 :=
  if length ≤ maxWord then .ok (.ofNat length) else .error (.invalidArgument (.uploadTooLarge length))

/-- Uploads content of this length that is put together only if it can be sent; see `writeDeferred_eq`. -/
def writeDeferred (name : String) (length : Nat) (content : Unit → Bytes) (parent : UInt32) :
    Action (Host τ) StorageError ObjectRef := do
  .ofExcept (checkName name)
  let size ← .ofExcept (checkLength length)
  let h ← .state
  let (slot, storage) ← .ofExcept (uploadTarget h)
  let now := h.bay.engine.clock.wholeSecond
  let info := { ObjectInfo.forUpload storage parent name (FileType.detect name).objectFormat size with
    captureDate := some now
    modificationDate := some now }
  let handle ← call none (Engine.announceUpload storage parent info)
  call (some handle) (Engine.sendDeferred length content)
  .change fun h => { h with bay := h.bay.touch slot }.count (Stats.recordWrite length)
  let metadata ← .read (metadataOf info)
  onStore (Store.add handle metadata)

/-- Content is uploaded as it is however it is put together. -/
theorem writeDeferred_eq (name : String) (content : Unit → Bytes) (parent : UInt32) :
    (writeDeferred name (content ()).length content parent : Action (Host τ) StorageError ObjectRef) =
      writeNew name (content ()) parent := by
  unfold writeDeferred
  rw [Engine.sendDeferred_eq]
  rfl

/-- Deletes an object on the camera and takes it out. -/
def delete (ref : ObjectRef) : Action (Host τ) StorageError Unit := do
  let handle ← .read fun h : Host τ => (h.store.index.object ref).handle
  call (some handle) (Engine.deleteObject handle)
  .change (updateStore fun s => (s.forget handle).2)

end Tether.Host
