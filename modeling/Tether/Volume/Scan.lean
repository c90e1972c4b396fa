import Tether.Volume.Bay

/-!
# Tether.Volume.Scan — bringing the table up to the camera's word

A scan fills the slots with the storages that the camera lists, in its order.  A slot that was mounted on the same
storage stays mounted.  A refresh only reads the mounted slots again, and empties those whose storage is gone.
-/

namespace Tether.Bay

open Ptp

variable {τ : Type} [Transport τ]

/-- Numbers of files and of folders. -/
structure Census where
  files : UInt32
  folders : UInt32
deriving DecidableEq

/-- Counts the files and the folders of a storage; when either count fails, neither is known and both are 0. -/
def census (storage : UInt32) (e : Engine τ) : Census × Engine τ :=
  let (all, e) := Engine.countObjects storage none e
  let (folders, e) := Engine.countObjects storage (some .association) e
  match all, folders with
  | .ok all, .ok folders => (⟨if folders ≤ all then all - folders else 0, folders⟩, e)
  | _, _ => (⟨0, 0⟩, e)

/-- What the camera tells about the storage of a slot, put into the slot's record; the state of the slot stays. -/
def inspect (storage : UInt32) (v : Volume) (b : Bay τ) : Except PtpError Volume × Bay τ :=
  match Engine.storageInfo storage b.engine with
  | (.error error, engine) => (.error error, { b with engine })
  | (.ok info, engine) =>
    let (census, engine) := census storage engine
    (.ok { v.describe storage info b.uploads with fileCount := census.files, folderCount := census.folders },
      { b with engine })

/-- The record of a slot whose storage cannot be read. -/
def unreadable (slot : Slot) (storage : UInt32) : Volume :=
  { Volume.empty slot with storageId := storage, status := .error }

/-- Fills a slot with a storage that the camera lists. -/
def fillSlot (slot : Slot) (storage : UInt32) (b : Bay τ) : Bay τ :=
  let before := b.table.volume slot
  match inspect storage before b with
  | (.ok v, b') =>
    if before.isMounted ∧ before.storageId = storage then
      b'.updateTable (·.adjust slot fun _ => { v with status := v.mountedStatus })
    else
      (b'.reportUnmounted slot).updateTable (·.adjust slot fun _ => { v with status := .inserted })
  | (.error _, b') => (b'.reportUnmounted slot).updateTable (·.adjust slot fun _ => unreadable slot storage)

/-- Fills a slot with the storage at its place in a list, or empties it. -/
def placeStorage (storages : List UInt32) (b : Bay τ) (slot : Slot) : Bay τ :=
  match storages[slot.val]? with
  | some storage => b.fillSlot slot storage
  | none => b.vacate slot

/-- Fills the slots with the storages that the camera lists and answers how many these are; there is room for as
many as there are slots. -/
def scan : Action (Bay τ) StorageError Nat := do
  let storages ← call none Engine.storageIds
  let storages := storages.take slotCount
  .change fun b => (Slot.all.foldl (placeStorage storages) b).updateTable (·.settleActive)
  return storages.length

/-- Reads a mounted slot again; one whose storage is gone is emptied.  The second part tells whether it was
read. -/
def refreshSlot (slot : Slot) (b : Bay τ) : Bay τ × Bool :=
  let before := b.table.volume slot
  if ¬ before.isMounted then (b, false)
  else
    match inspect before.storageId before b with
    | (.ok v, b) => (b.updateTable (·.adjust slot fun _ => { v with status := v.mountedStatus }), true)
    | (.error error, b) =>
      match StorageError.ofPtp none error with
      | .noSuchDevice _ => (b.vacate slot, false)
      | _ => (b, false)

/-- Reads the mounted slots again and answers how many of them were read. -/
def refresh (b : Bay τ) : Nat × Bay τ :=
  Slot.all.foldl (fun (n, b) slot =>
    let (b, read) := b.refreshSlot slot
    (if read then n + 1 else n, b)) (0, b)

/-- Formats the card of a mounted slot. -/
def format (slot : Nat) : Action (Bay τ) StorageError Unit := do
  let slot ← .ofExcept (Slot.check slot)
  let v ← .read fun b : Bay τ => b.table.volume slot
  if ¬ v.isMounted then .fail (.noSuchDevice (some slot))
  call none (Engine.formatStore v.storageId)
  .change fun b => (b.updateTable (·.adjust slot fun v =>
    let v := { v with
      freeBytes := v.totalBytes
      fileCount := 0
      folderCount := 0
      needsFormat := false
      lastAccess := some b.engine.clock }
    { v with status := v.mountedStatus })).report (.formatted slot)

end Tether.Bay
