import Tether.Files.Mount
import Tether.Proofs.Volume.Steps

/-!
# Tether.Proofs.Volume.Sound — what is always true of the slots

The record of a slot knows its slot, has no more bytes free than there are, and its state, while it is mounted,
agrees with its protection and with its free bytes (`Volume.Sound`).  Turns, mounts and formats keep this, and
the active slot is mounted, so it is so wherever a run comes (`Host.table_sound`).
-/

namespace Tether

open Relation (ReflTransGen)
open Tether.Action

namespace Volume

/-- What is true of the record of a slot at all times. -/
structure Sound (slot : Slot) (v : Volume) : Prop where
  slot_eq : v.slot = slot.val
  free_le : v.freeBytes ≤ v.totalBytes
  protected_iff : v.isMounted = true → (v.status = .writeProtected ↔ v.writeProtected = true)
  full : v.status = .full → v.writeProtected = false ∧ v.freeBytes = 0

variable {slot : Slot} {v w : Volume}

theorem mountedStatus_eq_writeProtected_iff (v : Volume) :
    v.mountedStatus = .writeProtected ↔ v.writeProtected = true := by
  unfold mountedStatus
  by_cases hp : v.writeProtected = true
  · simp [hp]
  · rw [if_neg hp]
    refine ⟨fun h => ?_, fun h => absurd h hp⟩
    split at h <;> cases h

theorem of_mountedStatus_eq_full (h : v.mountedStatus = .full) : v.writeProtected = false ∧ v.freeBytes = 0 := by
  unfold mountedStatus at h
  by_cases hp : v.writeProtected = true
  · rw [if_pos hp] at h
    cases h
  · rw [if_neg hp] at h
    by_cases hf : v.totalBytes ≠ 0 ∧ v.freeBytes = 0
    · exact ⟨Bool.eq_false_iff.mpr hp, hf.2⟩
    · rw [if_neg hf] at h
      cases h

/-- A mounted state is chosen by the protection and the free bytes. -/
theorem sound_remounted (hslot : v.slot = slot.val) (hfree : v.freeBytes ≤ v.totalBytes) :
    v.remounted.Sound slot where
  slot_eq := hslot
  free_le := hfree
  protected_iff _ := mountedStatus_eq_writeProtected_iff v
  full := of_mountedStatus_eq_full

/-- While a slot is not mounted nothing is asked of its state. -/
theorem sound_of_not_mounted (hslot : v.slot = slot.val) (hfree : v.freeBytes ≤ v.totalBytes)
    (hm : v.isMounted = false) :
    v.Sound slot where
  slot_eq := hslot
  free_le := hfree
  protected_iff h := by
    rw [hm] at h
    cases h
  full h := by
    have hmounted : v.isMounted = true := by
      unfold isMounted
      rw [h]
      rfl
    rw [hm] at hmounted
    cases hmounted

theorem sound_empty (slot : Slot) : (empty slot).Sound slot :=
  sound_of_not_mounted rfl (UInt64.le_refl 0) rfl

theorem free_le_reported (storage : UInt32) (info : Ptp.StorageInfo) (census : Bay.Census) (uploads : Bool)
    (v : Volume) :
    (v.reported storage info census uploads).freeBytes ≤ (v.reported storage info census uploads).totalBytes := by
  show (if info.freeSpaceBytes ≤ info.maxCapacity then info.freeSpaceBytes else info.maxCapacity) ≤
    info.maxCapacity
  split
  · assumption
  · exact UInt64.le_refl _

theorem Sound.noteFull (h : v.Sound slot) : (Bay.noteFull v).Sound slot where
  slot_eq := h.slot_eq
  free_le := UInt64.zero_le
  protected_iff hm := by
    rw [isMounted_noteFull] at hm
    unfold Bay.noteFull
    by_cases hp : v.writeProtected = true
    · have hkept : ¬ (v.isMounted = true ∧ ¬ v.writeProtected = true) := fun hn => hn.2 hp
      rw [if_neg hkept]
      exact h.protected_iff hm
    · rw [if_pos ⟨hm, hp⟩]
      exact ⟨fun hs => (by cases hs), fun hs => absurd hs hp⟩
  full hs := by
    unfold Bay.noteFull at hs
    by_cases hfull : v.isMounted = true ∧ ¬ v.writeProtected = true
    · exact ⟨Bool.eq_false_iff.mpr hfull.2, rfl⟩
    · rw [if_neg hfull] at hs
      exact ⟨(h.full hs).1, rfl⟩

theorem Sound.noteProtected (h : v.Sound slot) : (Bay.noteProtected v).Sound slot := by
  by_cases hm : v.isMounted = true
  · have hstatus : (Bay.noteProtected v).status = .writeProtected := if_pos hm
    refine ⟨h.slot_eq, h.free_le, fun _ => ⟨fun _ => rfl, fun _ => hstatus⟩, fun hs => ?_⟩
    rw [hstatus] at hs
    cases hs
  · refine sound_of_not_mounted h.slot_eq h.free_le ?_
    rw [isMounted_noteProtected]
    exact Bool.eq_false_iff.mpr hm

/-- Every turn keeps a record sound. -/
theorem Turn.sound {uploads : Bool} (ht : Turn uploads slot v w) (h : v.Sound slot) : w.Sound slot := by
  cases ht with
  | accessed time => exact ⟨h.slot_eq, h.free_le, h.protected_iff, h.full⟩
  | reread info census hm => exact sound_remounted h.slot_eq (free_le_reported _ info census uploads v)
  | inserted storage info census =>
    exact sound_of_not_mounted h.slot_eq (free_le_reported storage info census uploads v) rfl
  | unreadable storage => exact sound_of_not_mounted rfl (UInt64.le_refl 0) rfl
  | emptied => exact sound_empty slot
  | full => exact h.noteFull
  | writeProtected => exact h.noteProtected
  | failed => exact sound_of_not_mounted h.slot_eq h.free_le rfl

end Volume

/-! ## The table -/

/-- What is true of the slots at all times. -/
structure VolumeTable.Sound (t : VolumeTable) : Prop where
  volume : ∀ slot, (t.volume slot).Sound slot
  seated : t.Seated

theorem VolumeTable.sound_empty : VolumeTable.empty.Sound where
  volume slot := by
    rw [VolumeTable.volume_empty]
    exact Volume.sound_empty slot
  seated slot h := by cases h

/-! ## Steps and runs -/

section Runs

variable {τ : Type} [Transport τ]

/-- Every step keeps the table sound. -/
theorem BayStep.sound_run (s : BayStep τ) (b : Bay τ) (h : b.table.Sound) : (s.run b).table.Sound where
  volume := by
    refine s.volume_run Volume.Turn.sound (fun _ hv => ?_) (fun time _ hv => ?_) h.volume
    · exact Volume.sound_remounted hv.slot_eq hv.free_le
    · exact Volume.sound_remounted hv.slot_eq (UInt64.le_refl _)
  seated := s.seated_run h.seated

theorem Host.sound_runCalls (calls : List (BayCall τ)) {h : Host τ} (hs : h.bay.table.Sound) :
    (h.runCalls calls).bay.table.Sound :=
  runCalls_induction BayStep.sound_run calls hs

end Runs

/-! ## The capacity of a file system -/

namespace Mount

variable {τ : Type}

/-- A mounted file system has blocks of at least one byte. -/
theorem leaves_ofOptions (options : MountOptions) (blockSize : UInt32) (g : Host τ) :
    (ofOptions options blockSize).Leaves g (fun m _ => m.blockSize ≠ 0) fun _ _ => True := by
  have hpositive : (if blockSize = 0 then 1 else blockSize) ≠ 0 := by
    by_cases hzero : blockSize = 0
    · rw [if_pos hzero]
      decide
    · rw [if_neg hzero]
      exact hzero
  unfold ofOptions
  generalize (if blockSize = 0 then 1 else blockSize) = size at hpositive ⊢
  refine leaves_bind_all (fun v g => ?_) fun _ _ => trivial
  -- whatever is done about the slot and the budget, the last step makes the mount
  cases options.cacheSize
  all_goals
    dsimp only
    split
    any_goals split
    all_goals
      repeat refine leaves_bind_all (fun _ _ => ?_) fun _ _ => trivial
      exact leaves_pure hpositive

/-- No more blocks can be written than are free, and no more are free than there are. -/
theorem capacity_le (m : Mount) {h : Host τ} (hs : h.bay.table.Sound) :
    (m.capacity h).blocksAvailable ≤ (m.capacity h).blocksFree ∧
    (m.capacity h).blocksFree ≤ (m.capacity h).blocks := by
  unfold capacity VolumeTable.activeVolume
  cases h.bay.table.active with
  | none => exact ⟨UInt64.le_refl 0, UInt64.le_refl 0⟩
  | some slot =>
    have hfree := (hs.volume slot).free_le
    dsimp only [Option.map_some]
    refine ⟨?_, ?_⟩
    · split
      · exact UInt64.zero_le
      · exact UInt64.le_refl _
    · rw [UInt64.le_iff_toNat_le] at hfree ⊢
      rw [UInt64.toNat_div, UInt64.toNat_div]
      exact Nat.div_le_div_right hfree

end Mount

/-! ## Wherever a run comes -/

namespace Host

variable {τ : Type} [Transport τ]

/-- Wherever calls come from empty slots, whatever the camera answers: the slots are sound, and a scan that fails
leaves them as they are.  A file system that was mounted, with whatever block size, divides by a number that is
not 0, can write to no more blocks than are free, and has no more free than there are. -/
theorem table_sound {engine : Engine τ} {store : Store} {calls : List (BayCall τ)} {h : Host τ}
    (hrun : h = (vacant engine store).runCalls calls) :
    h.bay.table.Sound ∧
      (∀ error b', Bay.scan h.bay = (.error error, b') → b'.table = h.bay.table) ∧
      ∀ (options : MountOptions) (blockSize : UInt32) (g g' : Host τ) (m : Mount),
        Mount.ofOptions options blockSize g = (.ok m, g') →
          m.blockSize.toUInt64 ≠ 0 ∧ (m.capacity h).blocksAvailable ≤ (m.capacity h).blocksFree ∧
            (m.capacity h).blocksFree ≤ (m.capacity h).blocks := by
  have hsound : h.bay.table.Sound := by
    rw [hrun]
    exact sound_runCalls calls VolumeTable.sound_empty
  refine ⟨hsound, fun error b' hscan => ?_, fun options blockSize g g' m hm => ?_⟩
  · exact ((Bay.leaves_scan h.bay).2 error b' hscan).2
  · have hsize := (Mount.leaves_ofOptions options blockSize g).1 m g' hm
    have hdivisor : m.blockSize.toUInt64 ≠ 0 := by
      intro hzero
      refine hsize (UInt32.toNat_inj.mp ?_)
      rw [← UInt32.toNat_toUInt64, hzero]
      rfl
    exact ⟨hdivisor, m.capacity_le hsound⟩

/-- The second card is mounted, then the session ends: a scan fails, and a file system on the card still tells its
blocks. -/
theorem table_sound_mountSecond :
    ∃ h : Host Link,
      (h.bay.table.active = some 1 ∧ (Bay.scan h.bay).1 = .error .notConnected ∧
        (Mount.ofOptions { slot := 1 } 0 h).1 = .ok ⟨{ slot := 1 }, 1, none⟩) ∧
      (h.bay.table.volume 1).isMounted = true ∧ (Bay.scan h.bay).2.table = h.bay.table ∧
        (Mount.capacity ⟨{ slot := 1 }, 1, none⟩ h).blocksFree ≤
          (Mount.capacity ⟨{ slot := 1 }, 1, none⟩ h).blocks := by
  obtain ⟨h, hrun⟩ : ∃ h : Host Link, h =
      (vacant .idle (.create 100 300)).runCalls (BayCall.mountSecond ++ [.step (.engine Engine.closeSession)]) :=
        ⟨_, rfl⟩
  have hactive : h.bay.table.active = some 1 := by
    rw [hrun]
    decide +kernel
  have hscan : (Bay.scan h.bay).1 = .error .notConnected := by
    rw [hrun]
    decide +kernel
  have hmount : (Mount.ofOptions { slot := 1 } 0 h).1 = .ok ⟨{ slot := 1 }, 1, none⟩ := by
    rw [hrun]
    decide +kernel
  obtain ⟨hsound, hkept, hblocks⟩ := table_sound hrun
  refine ⟨h, ⟨hactive, hscan, hmount⟩, hsound.seated 1 hactive, hkept _ _ (Prod.ext hscan rfl), ?_⟩
  exact (hblocks _ 0 h _ _ (Prod.ext hmount rfl)).2.2

end Host

end Tether
