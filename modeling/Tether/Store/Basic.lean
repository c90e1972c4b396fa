import Tether.Ptp.Event
import Tether.Store.Budget
import Tether.Store.Index
import Tether.Volume.Bay

/-!
# Tether.Store.Basic — the object store

The store is the index with the budget's overrides, the age at which cached content becomes stale, and the model
of the camera, which becomes part of the metadata of images.  Nothing here talks to the camera.
-/

namespace Tether

open Calendar (Instant Cutoff)
open Ptp (DeviceEvent ObjectInfo)

/-- Known objects, the cache and its rules. -/
structure Store where
  /-- Known objects and the cached ones. -/
  index : Index
  /-- The budget of the cache. -/
  plan : BudgetPlan
  /-- Seconds after its last change from which on cached content is stale.  The settings give whole seconds, so
  that the parts of a second that a duration could have besides are always 0. -/
  staleness : Nat
  /-- Model of the camera. -/
  cameraModel : Option String := none

namespace Store

/-- A store that knows no object. -/
def create (budget staleness : Nat) : Store where
  index := { budget }
  plan := { default := budget }
  staleness := staleness

/-- Changes the index. -/
def updateIndex (f : Index → Index) (s : Store) : Store :=
  { s with index := f s.index }

/-- Takes the object of a handle out; answers whether there was one. -/
def forget (handle : UInt32) (s : Store) : Bool × Store :=
  let ((found, _), index) := s.index.remove handle
  (found, { s with index })

/-- Drops the cached content of a handle; answers whether there was some. -/
def invalidate (handle : UInt32) (s : Store) : Bool × Store :=
  let (payload, index) := s.index.uncache handle
  (payload.isSome, { s with index })

/-- Takes every object out. -/
def clear (s : Store) : Store :=
  s.updateIndex fun x => x.clear.2

/-- Puts the description of an object in: as new metadata of the object of the handle, whose content is dropped
when it differs, or as a new object. -/
def learn (handle : UInt32) (metadata : ObjectMetadata) (s : Store) : ObjectRef × Store :=
  match s.index.find? handle with
  | some ref =>
    let differs := (s.index.object ref).metadata.differs metadata
    let index := s.index.modify ref fun o => { o with metadata := o.metadata.refresh metadata }
    (ref, { s with index := if differs then (index.uncache handle).2 else index })
  | none =>
    let (ref, index) := s.index.insert { handle, metadata }
    (ref, { s with index })

/-- Lets a new object stand for its handle. -/
def add (handle : UInt32) (metadata : ObjectMetadata) (s : Store) : ObjectRef × Store :=
  let (ref, index) := s.index.insert { handle, metadata }
  (ref, { s with index })

/-- Records exposure details of an object; answers whether it is one that has some. -/
def recordExposure (ref : ObjectRef) (iso : Option UInt32) (lensModel : Option String)
    (s : Store) : Bool × Store :=
  ((s.index.object ref).metadata.capture.isSome,
    s.updateIndex (·.modify ref fun o =>
      { o with metadata.capture := o.metadata.capture.map fun c => { c with iso, lensModel } }))

/-- Cached handles whose content was last changed before some moment; without a time of change none is. -/
def staleHandles (start : Calendar.Stamp) (s : Store) : List UInt32 :=
  s.index.cachedHandles.filter fun handle =>
    match (s.index.lookup? handle).bind fun o => o.metadata.modified with
    | some modified => modified.stamp.before start
    | none => false

/-- Drops stale content and answers how many contents were dropped; no answer is possible when the window of fresh
content reaches back before the first day of the calendar. -/
def cleanup (now : Instant) (s : Store) : Option (Nat × Store) :=
  match Cutoff.back now s.staleness with
  | .unbounded => some (0, s)
  | .beforeCalendar => none
  | .opens start =>
    let (released, index) := s.index.uncacheAll (s.staleHandles start)
    some (released.length, { s with index })

/-- Changes the budget. -/
def setBudget (bytes : Nat) (s : Store) : Store :=
  s.updateIndex fun x => (x.setBudget bytes).2

/-- Brings back the budget of the youngest override, or the default. -/
def resetBudget (s : Store) : Store :=
  s.setBudget s.plan.current

/-- Overrides the budget until the token is released. -/
def overrideBudget (bytes : Nat) (s : Store) : OverrideToken × Store :=
  let (token, plan) := s.plan.override bytes
  (token, { s with plan }.setBudget bytes)

/-- Releases an override, once. -/
def releaseBudget (token : OverrideToken) (s : Store) : Store :=
  if s.plan.isLive token then { s with plan := s.plan.release token }.resetBudget else s

/-- Handles of the objects that were on a slot when they were described. -/
def handlesOn (slot : Slot) (cachedOnly : Bool) (s : Store) : List UInt32 :=
  ((s.index.tree.values.map s.index.object).filter fun o =>
    o.metadata.slot = some slot.val && (o.isCached || !cachedOnly)).map RemoteObject.handle

/-- Drops what belongs to a card that is gone: cached content after an unmount, the objects after a format. -/
def follow (s : Store) : VolumeChange → Store
  | .unmounted slot => s.updateIndex fun x => (x.uncacheAll (s.handlesOn slot true)).2
  | .formatted slot => (s.handlesOn slot false).foldl (fun s handle => (s.forget handle).2) s

/-- Takes in a report of the camera. -/
def handleEvent (event : DeviceEvent) (s : Store) : Store :=
  match event with
  | .objectRemoved handle => (s.forget handle).2
  | .objectInfoChanged handle => (s.invalidate handle).2
  | .deviceReset => s.clear
  | _ => s

end Store

end Tether
