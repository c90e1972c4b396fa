import Tether.Device

/-!
# Tether.Registry — attached cameras by id

Every camera that is attached gets an id of its own, which whoever registers it draws at random.  A device that
leaves the registry is detached.
-/

namespace Tether

open Text

/-- A random number of 128 bits. -/
structure DeviceId where
  high : UInt64
  low : UInt64
deriving DecidableEq

namespace DeviceId

instance : Ranked DeviceId where
  rank id := id.high.toNat * limit64 + id.low.toNat
  eq_of_rank_eq {a b} h := by
    have ha := a.low.toNat_lt
    have hb := b.low.toNat_lt
    obtain ⟨ah, al⟩ := a
    obtain ⟨bh, bl⟩ := b
    simp only [DeviceId.mk.injEq, ← UInt64.toNat_inj, limit64] at *
    omega

/-- Sixteen hexadecimal digits. -/
def hex (w : UInt64) : List Char :=
  (padZero 16 (hexSmall w.toNat)).toList

/-- The id as text, its number in five groups of hexadecimal digits. -/
def text (id : DeviceId) : String :=
  let high := hex id.high
  let low := hex id.low
  "camera-" ++ String.ofList (high.take 8) ++ "-" ++ String.ofList ((high.drop 8).take 4) ++ "-" ++
    String.ofList (high.drop 12) ++ "-" ++ String.ofList (low.take 4) ++ "-" ++ String.ofList (low.drop 4)

end DeviceId

/-- Attached cameras by id. -/
structure Registry (τ : Type) where
  devices : OrderedMap DeviceId (Device τ) := .empty

namespace Registry

variable {τ : Type}

/-- Number of devices. -/
def size (r : Registry τ) : Nat :=
  r.devices.size

/-- Whether there are no devices. -/
def isEmpty (r : Registry τ) : Bool :=
  r.size = 0

/-- The ids as text, ascending. -/
def ids (r : Registry τ) : List String :=
  r.devices.keys.map DeviceId.text

/-- The device of an id and the id's number. -/
def entry? (r : Registry τ) (id : String) : Option (DeviceId × Device τ) :=
  r.devices.entries.find? fun e => e.1.text = id

/-- The device of an id. -/
def get? (r : Registry τ) (id : String) : Option (Device τ) :=
  (r.entry? id).map Prod.snd

/-- Registers a device under a new id. -/
def insert (r : Registry τ) (id : DeviceId) (d : Device τ) : Registry τ :=
  ⟨r.devices.insert id d⟩

variable [Transport τ]

/-- Detaches and forgets the device of an id, and answers it for those who still hold it. -/
def detach (r : Registry τ) (id : String) : Option (Device τ) × Registry τ :=
  match r.entry? id with
  | some (key, d) => (some d.detach, ⟨r.devices.erase key⟩)
  | none => (none, r)

/-- Detaches and forgets every device, and answers them for those who still hold them. -/
def detachAll (r : Registry τ) : List (String × Device τ) × Registry τ :=
  (r.devices.entries.map fun (id, d) => (id.text, d.detach), ⟨.empty⟩)

end Registry

end Tether
