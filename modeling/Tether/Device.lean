import Tether.Config
import Tether.Engine.Session
import Tether.Files.Mount

/-!
# Tether.Device — an attached camera

Attaching opens a session, reads the camera's description and scans its cards.  From then on the device passes
reports of the camera on, to its cards, to its objects and to listeners, until it is detached.  Detaching gives
everything up and closes the session; it cannot fail, and what was handed out before finds no card and no session
afterwards.
-/

namespace Tether

open Calendar (Instant)
open Ptp

/-- What another part of a program has got from a device. -/
structure Listener where
  /-- Reports, oldest first. -/
  heard : List DeviceEvent := []
  /-- How often it was told that the device detached. -/
  detachments : Nat := 0
deriving DecidableEq

/-- An attached camera. -/
structure Device (τ : Type) where
  /-- Cards and objects. -/
  host : Host τ
  /-- The camera's description. -/
  info : DeviceInfo
  /-- The configuration it was attached with. -/
  config : Config
  /-- Listeners, the first one registered first. -/
  listeners : List Listener := []
  /-- Whether it was detached. -/
  isDetached : Bool := false

namespace Host

variable {τ : Type}

/-- A host that has not spoken to its camera yet. -/
def ofLink (clock : Instant) (config : Config) (link : τ) : Host τ where
  bay := { engine := { link, clock, maxPacket := config.maxPacketSize.toNat } }
  store := .create config.cacheMaxBytes.toNat config.cacheTimeoutSecs.toNat

variable [Transport τ]

/-- Closes the session. -/
def closeSession (h : Host τ) : Host τ :=
  { h with bay := { h.bay with engine := h.bay.engine.closeSession } }

/-- Reads the camera's description and scans its cards. -/
def prepare : Action (Host τ) StorageError DeviceInfo := do
  let info ← call none Engine.deviceInfo
  .change fun h => { h with bay := { h.bay with uploads := info.supportsUpload } }
  let _ ← onBay Bay.scan
  .change (updateStore fun s => { s with cameraModel := if info.model = "" then none else some info.model })
  return info

/-- Gives up the objects and the cards and closes the session. -/
def tearDown (h : Host τ) : Host τ :=
  ((h.updateStore Store.clear).updateBay Bay.unmountAll).closeSession

end Host

namespace Device

variable {τ : Type} [Transport τ]

/-- Attaches the camera at the other end of a link.  When that fails after the session was opened, the session is
closed again.

The tasks that look after an attached device from time to time are left out, and with them that a host may be
unable to start them: then too the session would be closed again and the error answered. -/
def attach (clock : Instant) (config : Config) : Action τ StorageError (Device τ) := fun link =>
  match Host.call none Engine.openSession (Host.ofLink clock config link) with
  | (.error e, h) => (.error e, h.bay.engine.link)
  | (.ok (), h) =>
    match Host.prepare h with
    | (.error e, h) => (.error e, h.closeSession.bay.engine.link)
    | (.ok info, h) => (.ok { host := h, info, config }, h.bay.engine.link)

/-- Registers a listener. -/
def register (d : Device τ) : Device τ :=
  { d with listeners := d.listeners ++ [{}] }

/-- Passes a report of the camera on; answers whether it was, as it is until the device is detached. -/
def notify (event : DeviceEvent) (d : Device τ) : Bool × Device τ :=
  if d.isDetached then (false, d)
  else
    (true, { d with
      host := d.host.handleEvent event
      listeners := d.listeners.map fun l => { l with heard := l.heard ++ [event] } })

/-- Passes the report in a frame on. -/
def notifyFrame (frame : Bytes) (d : Device τ) : Except StorageError Bool × Device τ :=
  match DeviceEvent.decode frame with
  | .error e => (.error (.ofPtp none e), d)
  | .ok event => (.ok (d.notify event).1, (d.notify event).2)

/-- Takes in a new state of a slot; answers whether it did, as it does until the device is detached. -/
def notifyCard (slot : Nat) (status : VolumeStatus) (d : Device τ) : Bool × Device τ :=
  if d.isDetached then (false, d)
  else (true, { d with host := (Host.onBay (Bay.handleCard slot status) d.host).2 })

/-- Mounts a card as a file system. -/
def mount (options : MountOptions) : Action (Device τ) StorageError Mount := fun d =>
  if d.isDetached then (.error .notConnected, d)
  else
    let (result, host) := Mount.ofOptions options d.config.blockSize d.host
    (result, { d with host })

/-- Whether the session is open. -/
def isSessionOpen (d : Device τ) : Bool :=
  d.host.bay.engine.isSessionOpen

/-- Detaches the device, once. -/
def detach (d : Device τ) : Device τ :=
  if d.isDetached then d
  else
    { d with
      host := d.host.tearDown
      listeners := d.listeners.map fun l => { l with detachments := l.detachments + 1 }
      isDetached := true }

end Device

end Tether
