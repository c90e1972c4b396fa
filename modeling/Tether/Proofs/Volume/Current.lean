import Tether.Proofs.Camera.Storages
import Tether.Proofs.Host.Asking

/-!
# Tether.Proofs.Volume.Current — slots that are up to date with a camera

At a camera without faults a scan makes every record tell what the camera has at its place, and a record that
does is left as it is by the next scan (`Bay.Scanned.unmoved`).  A refresh does the same to the mounted slots
(`Bay.refreshed`).  Nothing is put down about a slot that is left as it is.
-/

namespace Tether

open Ptp Tether.Action
open Engine (Ready)

/-- Tables with the same records and the same active slot are equal. -/
theorem VolumeTable.eq_of_volume {t t' : VolumeTable} (hvolume : ∀ slot, t'.volume slot = t.volume slot)
    (hactive : t'.active = t.active) : t' = t := by
  obtain ⟨volumes, active⟩ := t
  obtain ⟨volumes', active'⟩ := t'
  obtain rfl : active' = active := hactive
  refine congrArg (VolumeTable.mk · active') (Vector.ext fun i hi => ?_)
  exact hvolume ⟨i, hi⟩

/-- A record that is put in its own place. -/
theorem VolumeTable.adjust_of_eq {t : VolumeTable} {slot : Slot} (f : Volume → Volume)
    (h : f (t.volume slot) = t.volume slot) : t.adjust slot f = t := by
  refine eq_of_volume (fun other => ?_) rfl
  by_cases hne : other = slot
  · subst hne
    rw [volume_adjust_self, h]
  · exact volume_adjust_of_ne hne

/-! ## Records -/

namespace Volume

variable {uploads : Bool} {slot : Slot} {finding : Finding} {v : Volume}

/-- The record tells what is found in the slot. -/
def Tells (uploads : Bool) (slot : Slot) (finding : Finding) (v : Volume) : Prop :=
  v.found uploads slot finding = v

/-- What was found is told. -/
theorem tells_found (uploads : Bool) (slot : Slot) (finding : Finding) (v : Volume) :
    (v.found uploads slot finding).Tells uploads slot finding := by
  unfold Tells
  cases finding with
  | nothing => rfl
  | unreadable storage => rfl
  | card storage info census =>
    by_cases hkept : v.isMounted = true ∧ v.storageId = storage
    · have hfound : v.found uploads slot (.card storage info census) =
          (v.reported storage info census uploads).remounted :=
        if_pos hkept
      rw [hfound]
      exact if_pos ⟨isMounted_remounted _, rfl⟩
    · have hfound : v.found uploads slot (.card storage info census) =
          { v.reported storage info census uploads with status := .inserted } := if_neg hkept
      have hnot : ¬ ((v.found uploads slot (.card storage info census)).isMounted = true ∧
          (v.found uploads slot (.card storage info census)).storageId = storage) := by
        rw [hfound]
        rintro ⟨hm, -⟩
        cases hm
      refine (if_neg hnot).trans ?_
      rw [hfound]
      rfl

/-- What is told of a card is told of it also when it is mounted. -/
theorem Tells.mounted (h : v.Tells uploads slot finding) (hinserted : v.status = .inserted)
    (time : Option Calendar.Instant) : { v with lastAccess := time }.remounted.Tells uploads slot finding := by
  unfold Tells at *
  cases finding with
  | nothing =>
    rw [← h] at hinserted
    cases hinserted
  | unreadable storage =>
    rw [← h] at hinserted
    cases hinserted
  | card storage info census =>
    have hnot : ¬ (v.isMounted = true ∧ v.storageId = storage) := by
      unfold isMounted
      rw [hinserted]
      exact fun h => by cases h.1
    have hfound : { v.reported storage info census uploads with status := .inserted } = v :=
      (if_neg hnot).symm.trans h
    rw [← hfound]
    exact if_pos ⟨isMounted_remounted _, rfl⟩

/-- If the slot is mounted, the record tells what the camera has of its storage. -/
def Fresh (c : Camera) (uploads : Bool) (v : Volume) : Prop :=
  v.isMounted = true → ∃ info, c.storages.get? v.storageId = some info ∧
    (v.reported v.storageId info.told (c.census v.storageId) uploads).remounted = v

end Volume

namespace Bay

variable {b b' : Bay Camera}

/-! ## What becomes of a bay that only asks -/

/-- From `b` to `b'` the camera was only asked. -/
structure Asked (b b' : Bay Camera) : Prop where
  ready : Ready b'.engine
  alike : b.engine.link.Alike b'.engine.link
  uploads : b'.uploads = b.uploads

/-- From `b` to `b'` the camera was only asked, no slot changed and nothing was put down. -/
structure Unmoved (b b' : Bay Camera) : Prop extends Asked b b' where
  table : b'.table = b.table
  changes : b'.changes = b.changes

theorem Asked.refl (h : Ready b.engine) : Asked b b :=
  ⟨h, .refl _, rfl⟩

theorem Asked.trans {b'' : Bay Camera} (h : Asked b b') (h' : Asked b' b'') : Asked b b'' :=
  ⟨h'.ready, h.alike.trans h'.alike, h'.uploads.trans h.uploads⟩

theorem Asked.vacate (h : Asked b b') (slot : Slot) : Asked b (b'.vacate slot) := by
  have hengine : (b'.vacate slot).engine = b'.engine := engine_vacate slot b'
  refine ⟨?_, ?_, (fills_vacate slot b').uploads.trans h.uploads⟩
  · rw [hengine]
    exact h.ready
  · rw [hengine]
    exact h.alike

theorem Unmoved.refl (h : Ready b.engine) : Unmoved b b :=
  ⟨.refl h, rfl, rfl⟩

/-- A course that changes no slot puts nothing down. -/
theorem Course.changes_of_table (hc : Course b b') (htable : b'.table = b.table) (hnil : b.changes = []) :
    b'.changes = b.changes := by
  rw [hnil]
  refine hc.changes_eq_nil hnil fun slot => ?_
  unfold mountedOn
  rw [htable]

/-! ## Scans -/

/-- From `b` to `b'` a scan was answered. -/
structure Scanned (b b' : Bay Camera) : Prop extends Asked b b' where
  lists : b.engine.link.ListsStorages
  course : Course b b'
  volume : ∀ slot, b'.table.volume slot = (b.table.volume slot).found b.uploads slot (b.engine.link.findingIn slot)
  active : ∀ slot, b'.table.active = some slot ↔ b.table.active = some slot ∧
    (b'.table.volume slot).isMounted = true

/-- Every question of a scan is answered, if the list of storages is not too long to be sent. -/
theorem leaves_scan_ready (h : Ready b.engine) : scan.Leaves b (fun _ b' => Scanned b b')
    fun _ b' => Unmoved b b' ∧ ¬ b.engine.link.ListsStorages := by
  cases hx : Engine.storageIds b.engine with
  | mk r engine =>
    cases r with
    | error error =>
      obtain ⟨hready, halike, hlong⟩ := h.leaves_storageIds.2 error engine hx
      exact leaves_of_eq_error (scan_of_unlisted hx) ⟨⟨⟨hready, halike, rfl⟩, rfl, rfl⟩, hlong⟩
    | ok storages =>
      obtain ⟨hready, halike, rfl, hlists⟩ := h.leaves_storageIds.1 storages engine hx
      rw [← halike.storages] at hx
      obtain ⟨b', hscan, hcourse, hvolume, hactive⟩ := scan_of_listed hx
      have hengine :
          b'.engine = Slot.all.foldl (fun e slot => (lookAt engine.link.storages.keys slot e).2) engine := by
        rw [← engine_scan hx, hscan]
      obtain ⟨hready', halike'⟩ := Ready.foldl_lookAt engine.link.storages.keys Slot.all hready
      rw [← hengine] at hready' halike'
      refine leaves_of_eq_ok hscan ⟨⟨hready', halike.trans halike', hcourse.uploads⟩, hlists, hcourse,
        fun slot => ?_, hactive⟩
      rw [hvolume slot, hready.fst_finding slot, halike.findingIn]

/-- Every record tells what the camera has at its place. -/
def Current (b : Bay Camera) : Prop :=
  ∀ slot, (b.table.volume slot).Tells b.uploads slot (b.engine.link.findingIn slot)

theorem Scanned.current (h : Scanned b b') : Current b' := by
  intro slot
  rw [h.volume, h.uploads, h.alike.findingIn]
  exact Volume.tells_found _ _ _ _

theorem Scanned.seated (h : Scanned b b') : b'.table.Seated :=
  fun slot hactive => ((h.active slot).mp hactive).2

/-- A scan leaves what is up to date. -/
theorem Scanned.unmoved (h : Scanned b b') (hcurrent : Current b) (hseated : b.table.Seated)
    (hnil : b.changes = []) :
    Unmoved b b' := by
  have hvolume : ∀ slot, b'.table.volume slot = b.table.volume slot :=
    fun slot => (h.volume slot).trans (hcurrent slot)
  have htable : b'.table = b.table := by
    refine VolumeTable.eq_of_volume hvolume (Option.ext fun slot => ?_)
    rw [h.active slot, hvolume slot]
    exact ⟨And.left, fun ha => ⟨ha, hseated slot ha⟩⟩
  exact ⟨h.toAsked, htable, h.course.changes_of_table htable hnil⟩

/-! ## Refreshes -/

/-- What is read of a slot is what the camera has of its storage, if it has it. -/
theorem inspect_ready (h : Ready b.engine) (storage : UInt32) (v : Volume) :
    (∃ engine, b.engine.link.storages.get? storage = none ∧ Asked b { b with engine } ∧
      inspect storage v b = (.error (.device .getStorageInfo .invalidStorageId), { b with engine })) ∨
    ∃ info engine, b.engine.link.storages.get? storage = some info ∧ Asked b { b with engine } ∧
      inspect storage v b =
        (.ok (v.reported storage info.told (b.engine.link.census storage) b.uploads), { b with engine }) := by
  rcases inspect_cases storage v b with ⟨error, engine, hi, he⟩ | ⟨info, engine, hi, he⟩
  · obtain ⟨hready, halike, hnone, rfl⟩ := (h.leaves_storageInfo storage).2 error engine hi
    exact .inl ⟨engine, hnone, ⟨hready, halike, rfl⟩, he⟩
  · obtain ⟨hready, halike, info, hinfo, rfl⟩ := (h.leaves_storageInfo storage).1 info engine hi
    have hstorage : engine.link.HasStorage storage := by
      refine .inr (OrderedMap.contains_iff.mpr ⟨info, ?_⟩)
      rw [halike.storages, hinfo]
    obtain ⟨hcensus, hready', halike'⟩ := hready.census hstorage
    rw [hcensus, halike.census] at he
    exact .inr ⟨info, _, hinfo, ⟨hready', halike.trans halike', rfl⟩, he⟩

/-- A mounted slot is given up if its storage is gone, and read again if it is there. -/
theorem refreshSlot_cases (h : Ready b.engine) {slot : Slot} (hm : (b.table.volume slot).isMounted = true) :
    (∃ engine, b.engine.link.storages.get? (b.table.volume slot).storageId = none ∧ Asked b { b with engine } ∧
      (b.refreshSlot slot).1 = { b with engine }.vacate slot) ∨
    ∃ info engine, b.engine.link.storages.get? (b.table.volume slot).storageId = some info ∧
      Asked b { b with engine } ∧
      (b.refreshSlot slot).1 = { b with engine }.updateTable (·.adjust slot fun _ =>
        ((b.table.volume slot).reported (b.table.volume slot).storageId info.told
          (b.engine.link.census (b.table.volume slot).storageId) b.uploads).remounted) := by
  unfold refreshSlot
  dsimp only
  rw [if_neg (not_not_intro hm)]
  rcases inspect_ready h (b.table.volume slot).storageId (b.table.volume slot) with
    ⟨engine, hnone, hasked, he⟩ | ⟨info, engine, hinfo, hasked, he⟩
  · refine .inl ⟨engine, hnone, hasked, ?_⟩
    rw [he]
    rfl
  · refine .inr ⟨info, engine, hinfo, hasked, ?_⟩
    rw [he]
    rfl

/-- A slot that was read again is fresh, and one that is fresh is left as it is. -/
theorem refreshed_slot (h : Ready b.engine) (slot : Slot) :
    Asked b (b.refreshSlot slot).1 ∧
      ((b.refreshSlot slot).1.table.volume slot).Fresh b.engine.link b.uploads ∧
      (∀ other, other ≠ slot → (b.refreshSlot slot).1.table.volume other = b.table.volume other) ∧
      ((b.table.volume slot).Fresh b.engine.link b.uploads → (b.refreshSlot slot).1.table = b.table) := by
  by_cases hm : (b.table.volume slot).isMounted = true
  · rcases refreshSlot_cases h hm with ⟨engine, hnone, hasked, hslot⟩ | ⟨info, engine, hinfo, hasked, hslot⟩
    · have hvacate := fills_vacate slot { b with engine }
      rw [hslot]
      refine ⟨hasked.vacate slot, fun hm' => ?_, hvacate.other, fun hfresh => ?_⟩
      · rw [hvacate.volume] at hm'
        cases hm'
      · -- a fresh slot has its storage
        obtain ⟨info, hinfo, -⟩ := hfresh hm
        rw [hnone] at hinfo
        cases hinfo
    · rw [hslot]
      refine ⟨⟨hasked.ready, hasked.alike, rfl⟩, fun _ => ?_, fun other hne => VolumeTable.volume_adjust_of_ne hne,
        fun hfresh => ?_⟩
      · unfold updateTable
        rw [VolumeTable.volume_adjust_self]
        exact ⟨info, hinfo, rfl⟩
      · obtain ⟨info', hinfo', heq⟩ := hfresh hm
        obtain rfl : info = info' := Option.some.inj (hinfo.symm.trans hinfo')
        exact VolumeTable.adjust_of_eq (fun _ => Volume.remounted _) heq
  · have hslot : (b.refreshSlot slot).1 = b := by
      unfold refreshSlot
      dsimp only
      rw [if_pos hm]
    rw [hslot]
    exact ⟨.refl h, fun hm' => absurd hm' hm, fun _ _ => rfl, fun _ => rfl⟩

/-- After a refresh every slot is fresh, and a refresh leaves slots that are fresh as they are. -/
theorem refreshed (h : Ready b.engine) :
    Asked b b.refresh.2 ∧ (∀ slot, (b.refresh.2.table.volume slot).Fresh b.engine.link b.uploads) ∧
      ((∀ slot, (b.table.volume slot).Fresh b.engine.link b.uploads) → b.refresh.2.table = b.table) := by
  have hrefresh : b.refresh.2 = ((b.refreshSlot 0).1.refreshSlot 1).1 := by
    rw [snd_refresh]
    rfl
  obtain ⟨hasked, hfresh, hother, hsame⟩ := refreshed_slot h 0
  obtain ⟨hasked', hfresh', hother', hsame'⟩ := refreshed_slot hasked.ready 1
  have hcamera : ∀ v : Volume, v.Fresh (b.refreshSlot 0).1.engine.link (b.refreshSlot 0).1.uploads ↔
      v.Fresh b.engine.link b.uploads := by
    intro v
    unfold Volume.Fresh
    simp only [hasked.uploads, hasked.alike.storages, hasked.alike.census]
  rw [hrefresh]
  refine ⟨hasked.trans hasked', fun slot => ?_, fun hall => ?_⟩
  · match slot with
    | 0 =>
      rw [hother' 0 (by decide)]
      exact hfresh
    | 1 => exact (hcamera _).mp hfresh'
  · have hfirst := hsame (hall 0)
    rw [hsame' ((hcamera _).mpr (hfirst ▸ hall 1)), hfirst]

end Bay

end Tether
