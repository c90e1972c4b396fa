import Tether.StorageError
import Tether.Volume.Basic

/-!
# Tether.Volume.Table — the slots and the active one

A camera has two slots here, whatever it reports.  One mounted slot may be active: its card is what a file system
shows and where uploads go.
-/

namespace Tether

/-- Number of slots. -/
abbrev slotCount : Nat := 2

/-- A slot. -/
abbrev Slot := Fin slotCount

/-- Every slot, in order. -/
def Slot.all : List Slot :=
  [0, 1]

/-- The slot of a number, if it is one. -/
def Slot.check (n : Nat) : Except StorageError Slot :=
  if h : n < slotCount then .ok ⟨n, h⟩ else .error (.invalidSlot n)

/-- The records of all slots and the active slot. -/
structure VolumeTable where
  /-- The record of every slot. -/
  volumes : Vector Volume slotCount
  /-- The active slot. -/
  active : Option Slot
deriving DecidableEq

namespace VolumeTable

/-- The table of empty slots. -/
def empty : VolumeTable where
  volumes := .ofFn fun slot => Volume.empty slot
  active := none

/-- The record of a slot. -/
def volume (t : VolumeTable) (slot : Slot) : Volume :=
  t.volumes[slot]

/-- Changes the record of a slot. -/
def adjust (t : VolumeTable) (slot : Slot) (f : Volume → Volume) : VolumeTable :=
  { t with volumes := t.volumes.set slot (f t.volumes[slot]) }

/-- Empties a slot; an emptied slot is not active. -/
def reset (t : VolumeTable) (slot : Slot) : VolumeTable where
  volumes := t.volumes.set slot (Volume.empty slot)
  active := if t.active = some slot then none else t.active

/-- Gives up an active slot that is not mounted. -/
def settleActive (t : VolumeTable) : VolumeTable :=
  { t with active := t.active.filter fun slot => (t.volume slot).isMounted }

/-- The record of the active slot. -/
def activeVolume (t : VolumeTable) : Option Volume :=
  t.active.map t.volume

/-- The first slot that holds a storage; storage 0 is none. -/
def slotOf (t : VolumeTable) (storage : UInt32) : Option Slot :=
  if storage = 0 then none else Slot.all.find? fun slot => (t.volume slot).storageId = storage

/-- Whether writing to a slot has to be refused, as for any slot there is not. -/
def isWriteProtected (t : VolumeTable) (slot : Nat) : Bool :=
  if h : slot < slotCount then (t.volume ⟨slot, h⟩).writeProtected else true

end VolumeTable

end Tether
