import Mathlib.Data.List.Nodup
import Tether.Proofs.Volume.Steps

/-!
# Tether.Proofs.Volume.Rescan — which cards a scan keeps

A scan fills the slots by the camera's list, and a mounted slot keeps its card only if the list has this card's
storage at the place of the slot.  So a card stays mounted exactly as long as its place in the list stays
(`Bay.scan_keeps_in_place`); one that moves up because the card before it was taken out is no longer mounted
(`Bay.scan_drops_moved`).
-/

namespace Tether

open Ptp

namespace VolumeTable

/-- A storage is mounted in a slot. -/
def Holds (t : VolumeTable) (slot : Slot) (storage : UInt32) : Prop :=
  (t.volume slot).isMounted = true ∧ (t.volume slot).storageId = storage

instance (t : VolumeTable) (slot : Slot) (storage : UInt32) : Decidable (t.Holds slot storage) :=
  inferInstanceAs (Decidable (_ ∧ _))

/-- The storage of the active slot. -/
def activeStorage (t : VolumeTable) : Option UInt32 :=
  t.activeVolume.map Volume.storageId

theorem activeStorage_eq_some_iff {t : VolumeTable} {storage : UInt32} :
    t.activeStorage = some storage ↔ ∃ slot, t.active = some slot ∧ (t.volume slot).storageId = storage := by
  unfold activeStorage activeVolume
  rw [Option.map_map, Option.map_eq_some_iff]
  rfl

end VolumeTable

namespace Bay

variable {τ : Type} [Transport τ] {b b' : Bay τ} {storages : List UInt32} {engine : Engine τ}

/-- A storage is listed once, so it belongs to one slot. -/
theorem slot_of_nodup {s slot : Slot} {storage : UInt32} (hnodup : storages.Nodup)
    (hs : storages[s.val]? = some storage) (hslot : storages[slot.val]? = some storage) : s = slot := by
  obtain ⟨hlt, -⟩ := List.getElem?_eq_some_iff.mp hs
  have hval : s.val = slot.val := (List.getElem?_inj hlt hnodup).mp (hs.trans hslot.symm)
  exact Fin.ext hval

/-- A slot in which a scan found what the camera describes holds a storage exactly if it held it before and the
storage is at its place in the list. -/
theorem holds_found_iff {slot : Slot} {storage : UInt32}
    (hvolume : b'.table.volume slot = (b.table.volume slot).found b.uploads slot (finding storages slot engine))
    (hread : ∀ storage, finding storages slot engine ≠ .unreadable storage) :
    b'.table.Holds slot storage ↔ b.table.Holds slot storage ∧ storages[slot.val]? = some storage := by
  unfold VolumeTable.Holds
  rw [hvolume]
  constructor
  · rintro ⟨hm, hid⟩
    obtain ⟨hbefore, hcard⟩ := Volume.isMounted_found_iff.mp hm
    have hsame : (b.table.volume slot).storageId = storage := (Volume.storageId_found (.inr hcard)).symm.trans hid
    rw [hsame] at hcard
    exact ⟨⟨hbefore, hsame⟩, getElem?_of_isCardOf hcard⟩
  · rintro ⟨⟨hbefore, hsame⟩, hplace⟩
    have hcard : (finding storages slot engine).isCardOf storage = true :=
      (finding_of_getElem? hplace engine).resolve_left (hread storage)
    refine ⟨Volume.isMounted_found_iff.mpr ⟨hbefore, ?_⟩, Volume.storageId_found (.inr hcard)⟩
    rw [hsame]
    exact hcard

/-- When the camera lists no more storages than there are slots, each of them once, and describes every one: a
storage is mounted after the scan exactly if it was mounted before in the slot of its place in the list, and it
is the storage of the active slot exactly if, besides, this slot was the active one. -/
theorem scan_keeps_in_place (hlist : Engine.storageIds b.engine = (.ok storages, engine))
    (hfew : storages.length ≤ slotCount) (hnodup : storages.Nodup)
    (hread : ∀ slot storage, finding storages slot engine ≠ .unreadable storage) :
    ∃ b', scan b = (.ok storages.length, b') ∧
      ∀ (slot : Slot) (storage : UInt32), storages[slot.val]? = some storage →
        ((∃ s, b'.table.Holds s storage) ↔ b.table.Holds slot storage) ∧
          (b'.table.activeStorage = some storage ↔ b.table.active = some slot ∧ b.table.Holds slot storage) := by
  obtain ⟨b', hscan, -, hvolume, hactive⟩ := scan_of_listed hlist
  have hholds : ∀ s storage, b'.table.Holds s storage ↔
      b.table.Holds s storage ∧ storages[s.val]? = some storage :=
    fun s storage => holds_found_iff (hvolume s) (hread s)
  rw [Nat.min_eq_right hfew] at hscan
  refine ⟨b', hscan, fun slot storage hplace => ⟨?_, ?_⟩⟩
  · constructor
    · rintro ⟨s, hs⟩
      obtain ⟨hbefore, hsplace⟩ := (hholds s storage).mp hs
      obtain rfl := slot_of_nodup hnodup hsplace hplace
      exact hbefore
    · intro hbefore
      exact ⟨slot, (hholds slot storage).mpr ⟨hbefore, hplace⟩⟩
  · rw [VolumeTable.activeStorage_eq_some_iff]
    constructor
    · rintro ⟨s, ha, hid⟩
      obtain ⟨habefore, hm⟩ := (hactive s).mp ha
      obtain ⟨hbefore, hsplace⟩ := (hholds s storage).mp ⟨hm, hid⟩
      obtain rfl := slot_of_nodup hnodup hsplace hplace
      exact ⟨habefore, hbefore⟩
    · rintro ⟨habefore, hbefore⟩
      obtain ⟨hm, hid⟩ := (hholds slot storage).mpr ⟨hbefore, hplace⟩
      exact ⟨slot, (hactive slot).mpr ⟨habefore, hm⟩, hid⟩

/-- While both cards are in the camera, a scan keeps the second one mounted and active. -/
theorem scan_keeps_onSecond :
    ∃ engine b',
      (Engine.storageIds Host.onSecond.bay.engine = (.ok [Camera.cfExpressId, Camera.sdId], engine) ∧
        (∀ slot storage, finding [Camera.cfExpressId, Camera.sdId] slot engine ≠ .unreadable storage) ∧
        Host.onSecond.bay.table.active = some 1 ∧ Host.onSecond.bay.table.Holds 1 Camera.sdId) ∧
      scan Host.onSecond.bay = (.ok 2, b') ∧ (∃ s, b'.table.Holds s Camera.sdId) ∧
        b'.table.activeStorage = some Camera.sdId := by
  have hlist : (Engine.storageIds Host.onSecond.bay.engine).1 = .ok [Camera.cfExpressId, Camera.sdId] := by
    decide +kernel
  have hfirst :
      (finding [Camera.cfExpressId, Camera.sdId] 0 (Engine.storageIds Host.onSecond.bay.engine).2).isCardOf
      Camera.cfExpressId = true := by decide +kernel
  have hsecond :
      (finding [Camera.cfExpressId, Camera.sdId] 1 (Engine.storageIds Host.onSecond.bay.engine).2).isCardOf
      Camera.sdId = true := by decide +kernel
  have hread : ∀ slot storage, finding [Camera.cfExpressId, Camera.sdId] slot
      (Engine.storageIds Host.onSecond.bay.engine).2 ≠ .unreadable storage
    | 0, _ => Finding.ne_unreadable_of_isCardOf hfirst
    | 1, _ => Finding.ne_unreadable_of_isCardOf hsecond
  have hactive : Host.onSecond.bay.table.active = some 1 := by decide +kernel
  have hholds : Host.onSecond.bay.table.Holds 1 Camera.sdId := by decide +kernel
  have heq : Engine.storageIds Host.onSecond.bay.engine =
      (.ok [Camera.cfExpressId, Camera.sdId], (Engine.storageIds Host.onSecond.bay.engine).2) := Prod.ext hlist rfl
  obtain ⟨b', hscan, hkept⟩ := scan_keeps_in_place heq (by decide) (by decide) hread
  obtain ⟨hmounted, hstays⟩ := hkept 1 Camera.sdId rfl
  exact ⟨_, b', ⟨heq, hread, hactive, hholds⟩, hscan, hmounted.mpr hholds, hstays.mpr ⟨hactive, hholds⟩⟩

end Bay

/-! ## A card that moves up -/

/-- The host that has mounted the second of two cards, after the first one was taken out of the camera. -/
def Host.movedUp : Host Link :=
  Host.onSecond.runCalls [.step (.engine fun e =>
    { e with link := { e.link with camera := e.link.camera.removeStorage Camera.cfExpressId } })]

namespace Bay

/-- When the first card is gone, the second one is at the first place of the list.  The camera still lists and
describes it, and it was mounted and active; after a scan it is neither. -/
theorem scan_drops_moved :
    ∃ engine b', Engine.storageIds Host.movedUp.bay.engine = (.ok [Camera.sdId], engine) ∧
      (∀ slot storage, finding [Camera.sdId] slot engine ≠ .unreadable storage) ∧
      Host.movedUp.bay.table.Holds 1 Camera.sdId ∧ Host.movedUp.bay.table.activeStorage = some Camera.sdId ∧
      scan Host.movedUp.bay = (.ok 1, b') ∧ (∀ s, ¬ b'.table.Holds s Camera.sdId) ∧
      b'.table.activeStorage = none := by
  have hlist : (Engine.storageIds Host.movedUp.bay.engine).1 = .ok [Camera.sdId] := by decide +kernel
  have hfirst :
      (finding [Camera.sdId] 0 (Engine.storageIds Host.movedUp.bay.engine).2).isCardOf Camera.sdId = true := by
    decide +kernel
  have hread : ∀ slot storage, finding [Camera.sdId] slot (Engine.storageIds Host.movedUp.bay.engine).2 ≠
      .unreadable storage
    | 0, _ => Finding.ne_unreadable_of_isCardOf hfirst
    | 1, _ => fun h => by cases h
  have hscan : (scan Host.movedUp.bay).1 = .ok 1 := by decide +kernel
  refine ⟨_, _, Prod.ext hlist rfl, hread, by decide +kernel, by decide +kernel, Prod.ext hscan rfl, ?_, ?_⟩
  · decide +kernel
  · decide +kernel

end Bay

end Tether
