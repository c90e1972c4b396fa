import Tether.Engine.Operations
import Tether.Volume.Table

/-!
# Tether.Volume.Bay — mounting, formatting and watching the cards

The bay keeps the slot table true to the camera.  Cards are found by a scan; `mount` and `unmount` change a slot
by the host's will, card events by the camera's word.  Whatever makes a slot cease to be mounted, and every
format, is put down as a change, for those who hold something that belongs to the card.
-/

namespace Tether

open Ptp

/-- What others have to know about a slot. -/
inductive VolumeChange where
  /-- The slot is no longer mounted. -/
  | unmounted (slot : Slot)
  /-- The card in the slot was formatted. -/
  | formatted (slot : Slot)
deriving DecidableEq

/-- An engine with the slots of its camera. -/
structure Bay (τ : Type) where
  /-- The host's end of the link. -/
  engine : Engine τ
  /-- The slots. -/
  table : VolumeTable := .empty
  /-- Whether the camera takes uploads. -/
  uploads : Bool := true
  /-- Changes that were not told to anyone yet, oldest first. -/
  changes : List VolumeChange := []

namespace Bay

variable {τ : Type}

/-- Changes the table. -/
def updateTable (f : VolumeTable → VolumeTable) (b : Bay τ) : Bay τ :=
  { b with table := f b.table }

/-- Puts a change down. -/
def report (change : VolumeChange) (b : Bay τ) : Bay τ :=
  { b with changes := b.changes ++ [change] }

/-- Puts down that a slot is no longer mounted, if it was. -/
def reportUnmounted (slot : Slot) (b : Bay τ) : Bay τ :=
  if (b.table.volume slot).isMounted then b.report (.unmounted slot) else b

/-- Records an access to a slot. -/
def touch (slot : Slot) (b : Bay τ) : Bay τ :=
  b.updateTable (·.adjust slot fun v => { v with lastAccess := some b.engine.clock })

/-- Empties a slot, and puts it down if the slot was mounted. -/
def vacate (slot : Slot) (b : Bay τ) : Bay τ :=
  (b.reportUnmounted slot).updateTable (·.reset slot)

/-- Empties every slot. -/
def unmountAll (b : Bay τ) : Bay τ :=
  Slot.all.foldl (fun b slot => b.vacate slot) b

/-- Empties a slot. -/
def unmount (slot : Nat) : Action (Bay τ) StorageError Unit := do
  let slot ← .ofExcept (Slot.check slot)
  .change (vacate slot)

/-- Mounts a slot with a card that is not mounted; the first one mounted becomes active. -/
def mount (slot : Nat) : Action (Bay τ) StorageError Unit := do
  let slot ← .ofExcept (Slot.check slot)
  let b ← .state
  if (b.table.volume slot).status ≠ .inserted then .fail (.noSuchDevice (some slot))
  .change fun b => b.updateTable fun t =>
    let t := t.adjust slot fun v => { v with status := v.mountedStatus, lastAccess := some b.engine.clock }
    { t with active := t.active.or (some slot) }

/-- Makes a mounted slot the active one. -/
def setActive (slot : Nat) : Action (Bay τ) StorageError Unit := do
  let slot ← .ofExcept (Slot.check slot)
  let b ← .state
  if ¬ (b.table.volume slot).isMounted then .fail (.noSuchDevice (some slot))
  .change fun b => (b.touch slot).updateTable fun t => { t with active := some slot }

/-- The record of a slot. -/
def volume (slot : Nat) : Action (Bay τ) StorageError Volume := do
  let slot ← .ofExcept (Slot.check slot)
  .read fun b => b.table.volume slot

/-- Free bytes on a slot. -/
def freeSpace (slot : Nat) : Action (Bay τ) StorageError UInt64 := do
  let v ← volume slot
  return v.freeBytes

variable [Transport τ]

/-- A call to the camera about the object `handle`, if it is about one. -/
def call {α : Type} (handle : Option UInt32) (x : Action (Engine τ) PtpError α) : Action (Bay τ) StorageError α :=
  .within Bay.engine (fun engine b => { b with engine }) (x.mapError (StorageError.ofPtp handle))

end Bay

end Tether
