import Tether.Store.Basic
import Tether.Volume.Reaction

/-!
# Tether.Host.Basic — the bay and the store together

Whatever the bay puts down about a slot is told to the store at once, and stays on record for other observers.
-/

namespace Tether

open Ptp (DeviceEvent)

/-- A bay, a store, and what others were told. -/
structure Host (τ : Type) where
  /-- The slots and the link. -/
  bay : Bay τ
  /-- The objects. -/
  store : Store
  /-- Changes of slots that observers were told about, oldest first. -/
  notices : List VolumeChange := []

namespace Host

variable {τ : Type}

/-- Tells the store and the observers about the changes that the bay has put down. -/
def settle (h : Host τ) : Host τ :=
  { bay := { h.bay with changes := [] }
    store := h.bay.changes.foldl Store.follow h.store
    notices := h.notices ++ h.bay.changes }

/-- A step of the bay. -/
def onBay {α : Type} (x : Action (Bay τ) StorageError α) : Action (Host τ) StorageError α := fun h =>
  ((x h.bay).1, { h with bay := (x h.bay).2 }.settle)

/-- A change of the bay. -/
def updateBay (f : Bay τ → Bay τ) (h : Host τ) : Host τ :=
  { h with bay := f h.bay }.settle

/-- A change of the store. -/
def updateStore (f : Store → Store) (h : Host τ) : Host τ :=
  { h with store := f h.store }

/-- A change of the store that answers something. -/
def onStore {α : Type} (f : Store → α × Store) : Action (Host τ) StorageError α :=
  .ofFunction fun h => ((f h.store).1, { h with store := (f h.store).2 })

/-- Changes the counters of the traffic. -/
def count (f : Stats → Stats) (h : Host τ) : Host τ :=
  { h with bay := { h.bay with engine := h.bay.engine.count f } }

/-- Reads the mounted slots again and answers how many of them were read. -/
def refresh [Transport τ] (h : Host τ) : Nat × Host τ :=
  (h.bay.refresh.1, h.updateBay fun b => b.refresh.2)

/-- Takes in a report of the camera, the bay before the store. -/
def handleEvent [Transport τ] (event : DeviceEvent) (h : Host τ) : Host τ :=
  (h.updateBay (Bay.handleEvent event)).updateStore (Store.handleEvent event)

end Host

end Tether
