import Tether.OrderedMap
import Tether.Store.Metadata

/-!
# Tether.Store.Index — known objects and the cached ones among them

The index holds every object ever made here, by a reference, and knows which of them stands for each handle now.
Others may still hold references to objects that no longer stand for their handle; such objects keep what they
have.

Cached objects have a place in the order of use, by ticks that only grow: `recency` maps ticks to handles,
`ticks` maps handles back to ticks.  When the cached bytes exceed the budget, the least recently used content
goes first.
-/

namespace Tether

/-- A reference to an object of an index. -/
abbrev ObjectRef := Nat

/-- Known objects and the order of use of the cached ones. -/
structure Index where
  /-- Every object made so far; a reference is a place in here. -/
  objects : Array RemoteObject := #[]
  /-- The object that stands for each handle. -/
  tree : OrderedMap UInt32 ObjectRef := .empty
  /-- Cached handles by tick, least recently used first. -/
  recency : OrderedMap Nat UInt32 := .empty
  /-- The tick of every cached handle. -/
  ticks : OrderedMap UInt32 Nat := .empty
  /-- The last tick given out. -/
  lastTick : Nat := 0
  /-- Bytes cached. -/
  cachedBytes : Nat := 0
  /-- Bytes that may be cached. -/
  budget : Nat
  /-- Whether a content was ever taken out that was longer than the bytes cached. -/
  overdrawn : Bool := false

namespace Index

/-- The object behind a reference; one never given out refers to an object without a name or content. -/
def object (x : Index) (ref : ObjectRef) : RemoteObject :=
  x.objects.getD ref default

/-- The reference to the object of a handle. -/
def find? (x : Index) (handle : UInt32) : Option ObjectRef :=
  x.tree.get? handle

/-- The object of a handle. -/
def lookup? (x : Index) (handle : UInt32) : Option RemoteObject :=
  (x.find? handle).map x.object

/-- Number of handles with an object. -/
def size (x : Index) : Nat :=
  x.tree.size

/-- Number of cached handles. -/
def cachedCount (x : Index) : Nat :=
  x.recency.size

/-- Cached handles, least recently used first. -/
def cachedHandles (x : Index) : List UInt32 :=
  x.recency.values

/-- Changes the object behind a reference. -/
def modify (x : Index) (ref : ObjectRef) (f : RemoteObject → RemoteObject) : Index :=
  { x with objects := x.objects.modify ref f }

/-- Makes a new object and lets it stand for its handle. -/
def insert (x : Index) (o : RemoteObject) : ObjectRef × Index :=
  (x.objects.size,
    { x with objects := x.objects.push o, tree := x.tree.insert o.handle x.objects.size })

/-- Takes a handle out of the order of use. -/
def dropTick (x : Index) (handle : UInt32) : Index :=
  match x.ticks.get? handle with
  | some tick => { x with recency := x.recency.erase tick, ticks := x.ticks.erase handle }
  | none => x

/-- Makes a handle the most recently used one. -/
def pushTick (x : Index) (handle : UInt32) : Index :=
  let x := x.dropTick handle
  { x with
    lastTick := x.lastTick + 1
    recency := x.recency.insert (x.lastTick + 1) handle
    ticks := x.ticks.insert handle (x.lastTick + 1) }

/-- Makes a cached handle the most recently used one. -/
def touch (x : Index) (handle : UInt32) : Index :=
  if x.ticks.contains handle then x.pushTick handle else x

/-- Takes the content of the object of a handle out and answers it. -/
def takePayload (x : Index) (handle : UInt32) : Option Bytes × Index :=
  match x.find? handle with
  | none => (none, x)
  | some ref =>
    match (x.object ref).payload with
    | none => (none, x)
    | some payload =>
      (some payload,
        { x.modify ref fun o => { o with payload := none } with
          cachedBytes := x.cachedBytes - payload.length
          overdrawn := x.overdrawn || x.cachedBytes < payload.length })

/-- Drops the content of a cached handle and answers it. -/
def uncache (x : Index) (handle : UInt32) : Option Bytes × Index :=
  if x.ticks.contains handle then (x.dropTick handle).takePayload handle else (none, x)

/-- Drops the contents of some handles, in order, and answers those there were. -/
def uncacheAll (x : Index) : List UInt32 → List Bytes × Index
  | [] => ([], x)
  | handle :: rest =>
    let (payload, x) := x.uncache handle
    let (others, x) := x.uncacheAll rest
    (payload.toList ++ others, x)

/-- Takes an object out of the index, with its content; answers whether there was one, and the content. -/
def remove (x : Index) (handle : UInt32) : (Bool × Option Bytes) × Index :=
  let (payload, x) := x.uncache handle
  ((x.tree.contains handle, payload), { x with tree := x.tree.erase handle })

/-- Drops the contents of some handles, in order, until the cached bytes are within the budget. -/
def evictFrom (x : Index) : List UInt32 → List Bytes × Index
  | [] => ([], x)
  | handle :: rest =>
    if x.cachedBytes ≤ x.budget then ([], x)
    else
      let (payload, x) := x.uncache handle
      let (others, x) := x.evictFrom rest
      (payload.toList ++ others, x)

/-- Drops the least recently used contents until the cached bytes are within the budget; that of `keep` stays. -/
def evict (x : Index) (keep : Option UInt32) : List Bytes × Index :=
  x.evictFrom (x.cachedHandles.filter fun handle => some handle ≠ keep)

/-- Changes the budget and answers the contents that had to go. -/
def setBudget (x : Index) (budget : Nat) : List Bytes × Index :=
  { x with budget }.evict none

/-- Gives the object of a handle a content, as the most recently used one; answers whether there is such an
object, and the contents that had to go. -/
def insertCached (x : Index) (handle : UInt32) (payload : Bytes) : (Bool × List Bytes) × Index :=
  match x.find? handle with
  | none => ((false, []), x)
  | some ref =>
    let (previous, x) := x.takePayload handle
    let x := x.modify ref fun o => { o with payload := some payload }
    let x := { x with cachedBytes := x.cachedBytes + payload.length }.pushTick handle
    let (released, x) := x.evict (some handle)
    ((true, previous.toList ++ released), x)

/-- Takes every object out of the index and answers the contents. -/
def clear (x : Index) : List Bytes × Index :=
  let (released, x) := x.uncacheAll x.cachedHandles
  (released, { x with tree := .empty })

end Index

end Tether
