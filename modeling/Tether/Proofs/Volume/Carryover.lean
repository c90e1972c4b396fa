import Tether.Proofs.Volume.Rescan
import Tether.Proofs.Volume.Sound

/-!
# Tether.Proofs.Volume.Carryover — what a scan carries over

A scan that reads a card writes what the camera tells into the record of the slot, and makes a new record where
there is no card or none that can be read.  So what it leaves of another card's record is the time of the last
access, and that only where a card was read (`Volume.found_of_not_kept`): against a scan of slots that were newly
made, with the same answers, nothing else differs (`Host.scan_carries_access`).
-/

namespace Tether

open Ptp

namespace Volume

variable {uploads : Bool} {slot : Slot} {finding : Finding} {v w : Volume}

/-- No camera reports the size of a cluster. -/
theorem Turn.clusterSize (h : Turn uploads slot v w) (hv : v.clusterSize = 0) : w.clusterSize = 0 := by
  cases h with
  | unreadable storage => rfl
  | emptied => rfl
  | _ => exact hv

/-- Beside what the camera tells, a record has its slot, its state, its cluster size and its last access. -/
theorem reported_eq (storage : UInt32) (info : StorageInfo) (census : Bay.Census) (uploads : Bool) (v w : Volume) :
    v.reported storage info census uploads =
      { w.reported storage info census uploads with
        slot := v.slot, status := v.status, clusterSize := v.clusterSize, lastAccess := v.lastAccess } :=
  rfl

/-- A card that was not mounted in the slot is put into the record as one that is inserted. -/
theorem found_card_of_not_kept {storage : UInt32} (info : StorageInfo) (census : Bay.Census)
    (h : ¬ (v.isMounted = true ∧ v.storageId = storage)) :
    v.found uploads slot (.card storage info census) =
      { v.reported storage info census uploads with status := .inserted } :=
  if_neg h

/-- A slot that is not kept mounted gets the record that an empty slot would get, but keeps its last access if a
card is read. -/
theorem found_of_not_kept (hslot : v.slot = slot.val) (hcluster : v.clusterSize = 0)
    (hgiven : ¬ (v.found uploads slot finding).isMounted = true) :
    v.found uploads slot finding = { (empty slot).found uploads slot finding with
      lastAccess := if ((empty slot).found uploads slot finding).status = .inserted then v.lastAccess
        else none } := by
  cases finding with
  | nothing => rfl
  | unreadable storage => rfl
  | card storage info census =>
    have hkept : ¬ (v.isMounted = true ∧ v.storageId = storage) := by
      rintro ⟨hm, hid⟩
      exact hgiven (isMounted_found_iff.mpr ⟨hm, decide_eq_true hid.symm⟩)
    have hempty : ¬ ((empty slot).isMounted = true ∧ (empty slot).storageId = storage) := fun h => by cases h.1
    rw [found_card_of_not_kept info census hkept, found_card_of_not_kept info census hempty, if_pos rfl,
      reported_eq storage info census uploads v (empty slot), hslot, hcluster]
    rfl

/-- A card that is found in an empty slot was not accessed. -/
theorem lastAccess_found_empty (uploads : Bool) (slot : Slot) (finding : Finding) :
    ((empty slot).found uploads slot finding).lastAccess = none := by
  cases finding with
  | nothing => rfl
  | unreadable storage => rfl
  | card storage info census =>
    unfold found
    dsimp only
    split <;> rfl

/-- So it gets the same record exactly if no card is read or there was no last access. -/
theorem found_eq_found_empty_iff (hslot : v.slot = slot.val) (hcluster : v.clusterSize = 0)
    (hgiven : ¬ (v.found uploads slot finding).isMounted = true) :
    v.found uploads slot finding = (empty slot).found uploads slot finding ↔
      (((empty slot).found uploads slot finding).status = .inserted → v.lastAccess = none) := by
  have hrecord := found_of_not_kept hslot hcluster hgiven
  have hnew := lastAccess_found_empty uploads slot finding
  constructor
  · intro hsame hinserted
    have haccess : (v.found uploads slot finding).lastAccess =
        if ((empty slot).found uploads slot finding).status = .inserted then v.lastAccess else none :=
      congrArg Volume.lastAccess hrecord
    rw [hsame, hnew, if_pos hinserted] at haccess
    exact haccess.symm
  · intro hnone
    have haccess : (if ((empty slot).found uploads slot finding).status = .inserted then v.lastAccess else none) =
        ((empty slot).found uploads slot finding).lastAccess := by
      rw [hnew]
      exact ite_eq_right_iff.mpr hnone
    rw [hrecord, haccess]

end Volume

section Runs

variable {τ : Type} [Transport τ]

namespace Bay

variable {b b' : Bay τ} {n : Nat}

/-- A scan that goes well asks the same and finds the same, whatever is in the table. -/
theorem scan_anew (h : scan b = (.ok n, b')) (t : VolumeTable) :
    ∃ (fresh : Bay τ) (findings : Slot → Finding), scan { b with table := t } = (.ok n, fresh) ∧
      fresh.engine = b'.engine ∧
      (∀ slot, b'.table.volume slot = (b.table.volume slot).found b.uploads slot (findings slot)) ∧
      ∀ slot, fresh.table.volume slot = (t.volume slot).found b.uploads slot (findings slot) := by
  cases hx : Engine.storageIds b.engine with
  | mk r engine =>
    cases r with
    | error error =>
      rw [scan_of_unlisted hx] at h
      cases h
    | ok storages =>
      have hx' : Engine.storageIds { b with table := t }.engine = (.ok storages, engine) := hx
      obtain ⟨scanned, hscan, -, hvolume, -⟩ := scan_of_listed hx
      obtain ⟨fresh, hfresh, -, hfound, -⟩ := scan_of_listed hx'
      have hasked := (engine_scan hx).trans (engine_scan hx').symm
      rw [h, hfresh] at hasked
      rw [h] at hscan
      cases hscan
      exact ⟨fresh, (finding storages · engine), hfresh, hasked.symm, hvolume, hfound⟩

omit [Transport τ] in
/-- A slot that is mounted after a scan is mounted on the storage that it was mounted on. -/
theorem held_of_isMounted {slot : Slot} {finding : Finding}
    (hvolume : b'.table.volume slot = (b.table.volume slot).found b.uploads slot finding)
    (hm : (b'.table.volume slot).isMounted = true) :
    ∃ storage, b.table.Holds slot storage ∧ b'.table.Holds slot storage := by
  have hfound := hm
  rw [hvolume] at hfound
  obtain ⟨hbefore, hcard⟩ := Volume.isMounted_found_iff.mp hfound
  refine ⟨(b.table.volume slot).storageId, ⟨hbefore, rfl⟩, hm, ?_⟩
  rw [hvolume]
  exact Volume.storageId_found (.inr hcard)

end Bay

namespace Host

theorem clusterSize_runCalls (engine : Engine τ) (store : Store) (calls : List (BayCall τ)) (slot : Slot) :
    (((vacant engine store).runCalls calls).bay.table.volume slot).clusterSize = 0 :=
  volume_runCalls (P := fun _ v => v.clusterSize = 0) (fun _ => rfl) Volume.Turn.clusterSize (fun _ hv => hv)
    (fun _ _ hv => hv) engine store calls slot

/-- Wherever calls come from empty slots, whatever the camera answers: a scan that goes well, and the same scan
of slots that were newly made, find the same.  A slot that does not stay mounted on its storage then has the same
record after both scans, but for its last access: if a card was read into it, the one from before the scan
stays. -/
theorem scan_carries_access {engine : Engine τ} {store : Store} {calls : List (BayCall τ)} {h : Host τ} {n : Nat}
    {b' : Bay τ} (hrun : h = (vacant engine store).runCalls calls) (hscan : Bay.scan h.bay = (.ok n, b')) :
    ∃ fresh, Bay.scan { h.bay with table := .empty } = (.ok n, fresh) ∧ fresh.engine = b'.engine ∧
      ∀ slot, (¬ ∃ storage, h.bay.table.Holds slot storage ∧ b'.table.Holds slot storage) →
        b'.table.volume slot = { fresh.table.volume slot with
          lastAccess := if (fresh.table.volume slot).status = .inserted then (h.bay.table.volume slot).lastAccess
            else none } ∧
        (b'.table.volume slot = fresh.table.volume slot ↔
          ((fresh.table.volume slot).status = .inserted → (h.bay.table.volume slot).lastAccess = none)) := by
  obtain ⟨fresh, findings, hfresh, hengine, hvolume, hnew⟩ := Bay.scan_anew hscan .empty
  refine ⟨fresh, hfresh, hengine, fun slot hgiven => ?_⟩
  have hslot : (h.bay.table.volume slot).slot = slot.val := by
    rw [hrun]
    exact ((sound_runCalls calls VolumeTable.sound_empty).volume slot).slot_eq
  have hcluster : (h.bay.table.volume slot).clusterSize = 0 := by
    rw [hrun]
    exact clusterSize_runCalls engine store calls slot
  have hnot : ¬ ((h.bay.table.volume slot).found h.bay.uploads slot (findings slot)).isMounted = true := by
    rw [← hvolume slot]
    exact fun hm => hgiven (Bay.held_of_isMounted (hvolume slot) hm)
  rw [hvolume slot, hnew slot, VolumeTable.volume_empty]
  exact ⟨Volume.found_of_not_kept hslot hcluster hnot, Volume.found_eq_found_empty_iff hslot hcluster hnot⟩

end Host

end Runs

/-! ## A card that is taken out -/

/-- The calls that open a session, look for cards and mount the first one, which is then taken out of the
camera. -/
def BayCall.takeFirst : List (BayCall Link) :=
  [.step (.engine fun e => (Engine.openSession e).2), .step .scan, .step (.mount 0),
    .step (.engine fun e =>
      { e with link := { e.link with camera := e.link.camera.removeStorage Camera.cfExpressId } })]

namespace Host

/-- The host whose first card was taken out. -/
def firstTaken : Host Link :=
  (vacant .idle (.create 100 300)).runCalls BayCall.takeFirst

/-- A scan then finds the second card in the first slot, and only the last access tells its record from a new
one; nothing is found in the second slot, and its record is new. -/
theorem scan_carries_access_firstTaken :
    ∃ b' fresh, (firstTaken = (vacant .idle (.create 100 300)).runCalls BayCall.takeFirst ∧
        Bay.scan firstTaken.bay = (.ok 1, b')) ∧
      Bay.scan { firstTaken.bay with table := .empty } = (.ok 1, fresh) ∧
      b'.table.volume 0 = { fresh.table.volume 0 with lastAccess := (firstTaken.bay.table.volume 0).lastAccess } ∧
      b'.table.volume 1 = fresh.table.volume 1 := by
  obtain ⟨b', hb'⟩ : ∃ b', b' = (Bay.scan firstTaken.bay).2 := ⟨_, rfl⟩
  have hanswer : (Bay.scan firstTaken.bay).1 = .ok 1 := by decide +kernel
  have hscan : Bay.scan firstTaken.bay = (.ok 1, b') := Prod.ext hanswer hb'.symm
  have hother : (firstTaken.bay.table.volume 0).storageId ≠ (b'.table.volume 0).storageId := by
    rw [hb']
    decide +kernel
  have hunmounted : ¬ (firstTaken.bay.table.volume 1).isMounted = true := by decide +kernel
  obtain ⟨fresh, hfresh, -, hrecord⟩ := scan_carries_access (h := firstTaken) rfl hscan
  have hsame : (Bay.scan { firstTaken.bay with table := .empty }).2 = fresh := congrArg Prod.snd hfresh
  have hfirst : (fresh.table.volume 0).status = .inserted := by
    rw [← hsame]
    decide +kernel
  have hsecond : (fresh.table.volume 1).status ≠ .inserted := by
    rw [← hsame]
    decide +kernel
  refine ⟨b', fresh, ⟨rfl, hscan⟩, hfresh, ?_, ?_⟩
  · have hvolume := (hrecord 0 ?_).1
    · rwa [if_pos hfirst] at hvolume
    · rintro ⟨storage, ⟨-, hbefore⟩, -, hafter⟩
      exact hother (hbefore.trans hafter.symm)
  · refine (hrecord 1 ?_).2.mpr fun hinserted => absurd hinserted hsecond
    rintro ⟨storage, ⟨hm, -⟩, -⟩
    exact hunmounted hm

/-- The first card was mounted, and so last accessed.  The second card is found in its place and was not, but a
scan of the slots leaves the time in its record, which it does not when the slots are new. -/
theorem scan_of_firstTaken_ne :
    ∃ b' fresh, Bay.scan firstTaken.bay = (.ok 1, b') ∧ Bay.scan { firstTaken.bay with table := .empty } =
      (.ok 1, fresh) ∧
      firstTaken.bay.table.Holds 0 Camera.cfExpressId ∧ (b'.table.volume 0).storageId = Camera.sdId ∧
      (b'.table.volume 0).status = .inserted ∧ (b'.table.volume 0).lastAccess ≠ none ∧
      (fresh.table.volume 0).lastAccess = none ∧ b'.table.volume 0 ≠ fresh.table.volume 0 := by
  have hanswer : (Bay.scan firstTaken.bay).1 = .ok 1 := by decide +kernel
  have hfresh : (Bay.scan { firstTaken.bay with table := .empty }).1 = .ok 1 := by decide +kernel
  refine ⟨_, _, Prod.ext hanswer rfl, Prod.ext hfresh rfl, ?_⟩
  decide +kernel

end Host

end Tether
