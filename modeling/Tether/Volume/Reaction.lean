import Tether.Ptp.Event
import Tether.Volume.Scan

/-!
# Tether.Volume.Reaction — what the camera reports about its cards

Card events tell a new state of a slot, device events name a storage.  A card that comes is looked for by a scan
and mounted, a card that goes is unmounted.
-/

namespace Tether.Bay

open Ptp

variable {τ : Type} [Transport τ]

/-- Mounts a slot if there is a card in it that is not mounted. -/
def welcome (slot : Nat) : Action (Bay τ) StorageError Unit := do
  let v ← volume slot
  if v.status = .inserted then mount slot

/-- Notes that the card of a slot is full. -/
def noteFull (v : Volume) : Volume :=
  { v with freeBytes := 0, status := if v.isMounted ∧ ¬ v.writeProtected then .full else v.status }

/-- Notes that the card of a slot is protected. -/
def noteProtected (v : Volume) : Volume :=
  { v with writeProtected := true, status := if v.isMounted then .writeProtected else v.status }

/-- Notes that the card of a slot failed; it is no longer mounted nor active. -/
def noteFailed (slot : Slot) (b : Bay τ) : Bay τ :=
  (b.reportUnmounted slot).updateTable fun t =>
    let t := t.adjust slot fun v => { v with status := .error }
    { t with active := if t.active = some slot then none else t.active }

/-- Takes in a new state of a slot. -/
def handleCard (slot : Nat) (status : VolumeStatus) : Action (Bay τ) StorageError Unit := do
  let s ← .ofExcept (Slot.check slot)
  match status with
  | .inserted | .mounted => do
    let _ ← scan
    welcome slot
  | .empty => unmount slot
  | .full => .change (updateTable (·.adjust s noteFull))
  | .writeProtected => .change (updateTable (·.adjust s noteProtected))
  | .error => .change (noteFailed s)

/-- Takes in a new state of the slot that holds a storage, if one does. -/
def handleStorage (storage : UInt32) (status : VolumeStatus) : Action (Bay τ) StorageError Unit := do
  match ← .read fun b : Bay τ => b.table.slotOf storage with
  | some slot => handleCard slot status
  | none => return

/-- Takes in a report of the camera. -/
def reactTo : DeviceEvent → Action (Bay τ) StorageError Unit
  | .storeAdded storage => do
    let _ ← scan
    match ← .read fun b : Bay τ => b.table.slotOf storage with
    | some slot => welcome slot
    | none => return
  | .storeRemoved storage => handleStorage storage .empty
  | .storeFull storage => handleStorage storage .full
  | .storageInfoChanged _ => .change fun b => b.refresh.2
  | .deviceReset => do
    let _ ← scan
  | _ => pure ()

/-- Takes in a report of the camera; a failure on the way is the end of it. -/
def handleEvent (event : DeviceEvent) (b : Bay τ) : Bay τ :=
  (reactTo event b).2

end Tether.Bay
