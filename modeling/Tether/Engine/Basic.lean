import Tether.Ptp.Container
import Tether.Stats

/-!
# Tether.Engine.Basic — the host's end of the link

An engine owns the link to one camera.  It counts transactions, knows whether a session is open and keeps the bytes
received that are no whole container yet.
-/

namespace Tether

open Calendar (Instant)

/-- The host's end of a link of type `τ`. -/
structure Engine (τ : Type) where
  /-- The link. -/
  link : τ
  /-- Time that the host shows. -/
  clock : Instant
  /-- Id of the next transaction. -/
  nextTransaction : UInt32 := 1
  /-- Id of the open session. -/
  session : Option UInt32 := none
  /-- Bytes received that are no whole container yet. -/
  received : Bytes := []
  /-- Counters of the traffic. -/
  stats : Stats := {}
  /-- Largest transfer to ask for, as configured. -/
  maxPacket : Nat

namespace Engine

variable {τ : Type}

/-- Largest transfer to ask for: a header fits in any case. -/
def packetLimit (e : Engine τ) : Nat :=
  max e.maxPacket Ptp.headerLength

theorem packetLimit_pos (e : Engine τ) : 0 < e.packetLimit :=
  Nat.lt_of_lt_of_le (by decide) (Nat.le_max_right _ _)

/-- The id after a transaction id; 0 and the largest word are reserved. -/
def nextId (id : UInt32) : UInt32 :=
  if id + 1 = 0 ∨ id + 1 = 0xFFFFFFFF then 1 else id + 1

theorem toNat_nextId (id : UInt32) :
    (nextId id).toNat = if id.toNat + 1 < 0xFFFFFFFF then id.toNat + 1 else 1 := by
  have h0 : (0 : UInt32).toNat = 0 := rfl
  have h1 : (1 : UInt32).toNat = 1 := rfl
  have hlast : (0xFFFFFFFF : UInt32).toNat = 0xFFFFFFFF := rfl
  have hid := id.toNat_lt
  have hwrap : id + 1 = 0 ∨ id + 1 = 0xFFFFFFFF ↔ ¬ id.toNat + 1 < 0xFFFFFFFF := by
    rw [← UInt32.toNat_inj, ← UInt32.toNat_inj, UInt32.toNat_add]
    omega
  unfold nextId
  split
  · rename_i h
    rw [if_neg (hwrap.mp h), h1]
  · rename_i h
    have hlt : id.toNat + 1 < 0xFFFFFFFF := Decidable.not_not.mp fun hn => h (hwrap.mpr hn)
    rw [if_pos hlt, UInt32.toNat_add]
    omega

/-- Changes the counters. -/
def count (f : Stats → Stats) (e : Engine τ) : Engine τ :=
  { e with stats := f e.stats }

/-- Whether a session is open. -/
def isSessionOpen (e : Engine τ) : Bool :=
  e.session.isSome

end Engine

end Tether
