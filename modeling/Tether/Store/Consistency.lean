import Tether.StorageError
import Tether.Store.Index

/-!
# Tether.Store.Consistency — a check of the index

`check` compares the order of use, the ticks, the contents and the byte count of an index and tells the first
thing that does not fit together.  One content alone may exceed the budget.
-/

namespace Tether

open Text (natural)
open StorageError (handleText)

/-- What does not fit together in an index. -/
inductive Inconsistency where
  /-- There are not as many handles in the order of use as there are ticks. -/
  | entryCounts (recency ticks : Nat)
  /-- A handle stands in the order of use at another place than its tick tells. -/
  | staleTick (handle : UInt32)
  /-- A handle in the order of use has no object. -/
  | noObject (handle : UInt32)
  /-- The object of a handle in the order of use has no content. -/
  | noPayload (handle : UInt32)
  /-- An object has a content and its handle no tick. -/
  | noTick (handle : UInt32)
  /-- The contents have another length than counted. -/
  | byteCount (counted total : Nat)
  /-- Several contents exceed the budget together. -/
  | overBudget (total budget : Nat)
deriving DecidableEq

namespace Inconsistency

/-- The finding in words. -/
def message : Inconsistency → String
  | .entryCounts recency ticks =>
    "recency has " ++ natural recency ++ " entries, tick map has " ++ natural ticks
  | .staleTick handle => "handle " ++ handleText handle ++ " has a stale tick"
  | .noObject handle => "cached handle " ++ handleText handle ++ " is not in the tree"
  | .noPayload handle => "handle " ++ handleText handle ++ " is on the recency list without a payload"
  | .noTick handle => "handle " ++ handleText handle ++ " has a payload but no tick"
  | .byteCount counted total =>
    "cached bytes " ++ natural counted ++ " but payloads sum to " ++ natural total
  | .overBudget total budget =>
    "cached bytes " ++ natural total ++ " exceed the budget " ++ natural budget

end Inconsistency

namespace Index

/-- The length of the content that stands in the order of use at a tick. -/
def entryLength (x : Index) (tick : Nat) (handle : UInt32) : Except Inconsistency Nat :=
  if x.ticks.get? handle ≠ some tick then .error (.staleTick handle)
  else
    match x.lookup? handle with
    | none => .error (.noObject handle)
    | some o =>
      match o.payload with
      | none => .error (.noPayload handle)
      | some payload => .ok payload.length

/-- The length of all contents in some places of the order of use. -/
def totalLength (x : Index) : List (Nat × UInt32) → Except Inconsistency Nat
  | [] => .ok 0
  | (tick, handle) :: rest => do
    let n ← x.entryLength tick handle
    let total ← x.totalLength rest
    return n + total

/-- A handle whose object has a content and which has no tick. -/
def untracked? (x : Index) : Option UInt32 :=
  (x.tree.values.map x.object).findSome? fun o =>
    if o.isCached && !x.ticks.contains o.handle then some o.handle else none

/-- The first thing that does not fit together. -/
def check (x : Index) : Except Inconsistency Unit := do
  if x.recency.size ≠ x.ticks.size then throw (.entryCounts x.recency.size x.ticks.size)
  let total ← x.totalLength x.recency.entries
  if let some handle := x.untracked? then throw (.noTick handle)
  if total ≠ x.cachedBytes then throw (.byteCount x.cachedBytes total)
  if x.budget < total ∧ 1 < x.recency.size then throw (.overBudget total x.budget)

end Index

end Tether
