import Tether.Proofs.Camera.Armed
import Tether.Proofs.Host.Operated
import Tether.Proofs.Host.Uploading
import Tether.Proofs.Volume.Rescan

/-!
# Tether.Proofs.Host.Apart — a storage is in one slot

A camera lists each of its storages once, and only a scan puts storages into slots: every other step leaves a
slot its storage or takes it away.  So wherever a run at a camera comes, whatever faults are armed, no storage is
in two slots (`Operated.apart`), and the slot that an event about a storage means is the only one.
-/

namespace Tether

open Ptp Tether.Action
open Engine (Calm)

namespace VolumeTable

/-- No storage is in two slots. -/
def Apart (t : VolumeTable) : Prop :=
  ∀ slot other, (t.volume slot).storageId = (t.volume other).storageId → (t.volume slot).storageId ≠ 0 →
    slot = other

/-- From `t` to `t'` every slot kept its storage or lost it. -/
def Thins (t t' : VolumeTable) : Prop :=
  ∀ slot, (t'.volume slot).storageId = (t.volume slot).storageId ∨ (t'.volume slot).storageId = 0

variable {t t' t'' : VolumeTable} {slot : Slot}

theorem Thins.refl (t : VolumeTable) : t.Thins t :=
  fun _ => .inl rfl

theorem Thins.trans (h : t.Thins t') (h' : t'.Thins t'') : t.Thins t'' := by
  intro slot
  rcases h' slot with hsame | hzero
  · rw [hsame]
    exact h slot
  · exact .inr hzero

/-- What only loses storages does not bring two together. -/
theorem Thins.apart (h : t.Thins t') (ha : t.Apart) : t'.Apart := by
  intro slot other heq hne
  have hslot := (h slot).resolve_right hne
  have hother := (h other).resolve_right (heq ▸ hne)
  exact ha slot other (hslot.symm.trans (heq.trans hother)) (hslot ▸ hne)

/-- One slot may get another record, with the same storage or none. -/
theorem thins_of_slot (slot : Slot)
    (hself : (t'.volume slot).storageId = (t.volume slot).storageId ∨ (t'.volume slot).storageId = 0)
    (hother : ∀ other, other ≠ slot → t'.volume other = t.volume other) : t.Thins t' := by
  intro other
  by_cases hne : other = slot
  · exact hne ▸ hself
  · rw [hother other hne]
    exact .inl rfl

theorem thins_adjust {f : Volume → Volume} (hf : (f (t.volume slot)).storageId = (t.volume slot).storageId) :
    t.Thins (t.adjust slot f) := by
  refine thins_of_slot slot (.inl ?_) fun _ hne => volume_adjust_of_ne hne
  rw [volume_adjust_self]
  exact hf

theorem thins_reset (t : VolumeTable) (slot : Slot) : t.Thins (t.reset slot) := by
  refine thins_of_slot slot (.inr ?_) fun _ hne => volume_reset_of_ne hne
  rw [volume_reset_self]
  rfl

theorem apart_empty : VolumeTable.empty.Apart := by
  intro slot other _ hne
  rw [volume_empty] at hne
  exact absurd rfl hne

/-- A storage that is in a slot is found there. -/
theorem Apart.slotOf_eq_some_iff (h : t.Apart) {storage : UInt32} (hzero : storage ≠ 0) :
    t.slotOf storage = some slot ↔ (t.volume slot).storageId = storage := by
  unfold slotOf
  rw [if_neg hzero]
  constructor
  · intro hfind
    have hfound := List.find?_some hfind
    exact of_decide_eq_true hfound
  · intro hid
    have hmem : slot ∈ Slot.all := by
      match slot with
      | 0 | 1 => decide
    cases hfind : Slot.all.find? fun slot => (t.volume slot).storageId = storage with
    | none => exact absurd (decide_eq_true hid) (List.find?_eq_none.mp hfind slot hmem)
    | some other =>
      have hfound := List.find?_some hfind
      have hother : (t.volume other).storageId = storage := of_decide_eq_true hfound
      rw [h other slot (hother.trans hid.symm) (hother ▸ hzero)]

end VolumeTable

/-! ## Steps that only lose storages -/

namespace Bay

variable {τ : Type} {b : Bay τ}

theorem thins_vacate (slot : Slot) (b : Bay τ) : b.table.Thins (b.vacate slot).table := by
  show b.table.Thins ((b.reportUnmounted slot).table.reset slot)
  rw [table_reportUnmounted]
  exact b.table.thins_reset slot

theorem thins_noteFailed (slot : Slot) (b : Bay τ) : b.table.Thins (noteFailed slot b).table := by
  have hadjust : b.table.Thins (b.table.adjust slot fun v => { v with status := .error }) :=
    VolumeTable.thins_adjust rfl
  unfold noteFailed updateTable
  dsimp only
  rw [table_reportUnmounted]
  exact hadjust

theorem Mounts.thins {slot : Slot} {b b' : Bay τ} (h : Mounts slot b b') : b.table.Thins b'.table := by
  refine VolumeTable.thins_of_slot slot (.inl ?_) h.other
  rw [h.volume]
  rfl

theorem Formats.thins {slot : Slot} {b b' : Bay τ} (h : Formats slot b b') : b.table.Thins b'.table := by
  refine VolumeTable.thins_of_slot slot (.inl ?_) h.other
  rw [h.volume]
  rfl

theorem thins_setActive (n : Nat) (b : Bay τ) : b.table.Thins (setActive n b).2.table := by
  have hleaves : (setActive n).Leaves b (fun _ b' => b.table.Thins b'.table) fun _ b' =>
      b.table.Thins b'.table := by
    refine leaves_check (fun slot _ => leaves_bind (leaves_state ?_)) (.refl _)
    split
    · exact leaves_bind (leaves_fail (.refl _))
    · exact leaves_change fun other => .inl (storageId_touch slot other b)
  exact hleaves.state

variable [Transport τ]

theorem thins_refreshSlot (slot : Slot) (b : Bay τ) : b.table.Thins (b.refreshSlot slot).1.table := by
  unfold refreshSlot
  dsimp only
  split
  · exact .refl _
  · rcases inspect_cases (b.table.volume slot).storageId (b.table.volume slot) b with
      ⟨error, engine, -, he⟩ | ⟨info, engine, -, he⟩
    · rw [he]
      dsimp only
      split
      · exact thins_vacate slot _
      · exact .refl _
    · rw [he]
      exact VolumeTable.thins_adjust rfl

end Bay

namespace BayStep

variable {s : BayStep Camera} {b : Bay Camera}

/-- Only a scan puts storages into slots. -/
theorem thins_run (hplain : s.Plain) (hscan : s ≠ .scan) (b : Bay Camera) : b.table.Thins (s.run b).table := by
  cases s with
  | scan => exact absurd rfl hscan
  | refresh =>
    show b.table.Thins b.refresh.2.table
    rw [Bay.snd_refresh]
    exact (Bay.thins_refreshSlot 0 b).trans (Bay.thins_refreshSlot 1 _)
  | mount n =>
    refine Leaves.state (P := fun b' => b.table.Thins b'.table) ((Bay.leaves_mount n b).mono ?_ ?_)
    · rintro _ b' ⟨slot, -, hm⟩
      exact hm.thins
    · rintro _ b' rfl
      exact .refl _
  | unmount n =>
    refine Leaves.state (P := fun b' => b.table.Thins b'.table) ((Bay.leaves_unmount n b).mono ?_ ?_)
    · rintro _ b' ⟨slot, -, rfl⟩
      exact Bay.thins_vacate slot b
    · rintro _ b' rfl
      exact .refl _
  | format n =>
    refine Leaves.state (P := fun b' => b.table.Thins b'.table) ((Bay.leaves_format n b).mono ?_ ?_)
    · rintro _ b' ⟨slot, -, hf⟩
      exact hf.thins
    · rintro _ b' ⟨engine, rfl⟩
      exact .refl _
  | setActive n => exact Bay.thins_setActive n b
  | touch slot => exact fun other => .inl (Bay.storageId_touch slot other b)
  | noteFull slot => exact VolumeTable.thins_adjust rfl
  | noteProtected slot => exact VolumeTable.thins_adjust rfl
  | noteFailed slot => exact Bay.thins_noteFailed slot b
  | takeUploads uploads => exact .refl _
  | engine f => exact hplain.elim

end BayStep

/-! ## The scan -/

namespace Bay

/-- After a scan a slot has the storage at its place in the list. -/
theorem storageId_found_finding {τ : Type} [Transport τ] (uploads : Bool) (slot : Slot) (v : Volume)
    (storages : List UInt32)
    (e : Engine τ) :
    (v.found uploads slot (finding storages slot e)).storageId = (storages[slot.val]?).getD 0 := by
  cases hs : storages[slot.val]? with
  | none =>
    have hnothing : finding storages slot e = .nothing := by
      unfold finding lookAt
      rw [hs]
    rw [hnothing]
    rfl
  | some storage => exact Volume.storageId_found (finding_of_getElem? hs e)

/-- A camera lists each of its storages once. -/
theorem apart_scan {b : Bay Camera} (hcalm : Calm b.engine) (ha : b.table.Apart) : (scan b).2.table.Apart := by
  cases h : Engine.storageIds b.engine with
  | mk r engine =>
    cases r with
    | error error =>
      rw [scan_of_unlisted h]
      exact ha
    | ok storages =>
      obtain ⟨rfl, -⟩ := hcalm.leaves_storageIds.1 storages engine h
      obtain ⟨b', hscan, -, hvolume, -⟩ := scan_of_listed h
      rw [hscan]
      intro slot other heq hne
      rw [hvolume, storageId_found_finding] at heq hne
      rw [hvolume, storageId_found_finding] at heq
      cases hslot : b.engine.link.storages.keys[slot.val]? with
      | none =>
        rw [hslot] at hne
        exact absurd rfl hne
      | some storage =>
        cases hother : b.engine.link.storages.keys[other.val]? with
        | none =>
          rw [hslot] at heq hne
          rw [hother] at heq
          exact absurd heq hne
        | some storage' =>
          rw [hslot, hother] at heq
          obtain rfl : storage = storage' := heq
          exact slot_of_nodup b.engine.link.storages.nodup_keys hslot hother

end Bay

/-! ## Calls of a bay -/

theorem BayStep.apart_run {s : BayStep Camera} (hplain : s.Plain) {b : Bay Camera} (hcalm : Calm b.engine)
    (ha : b.table.Apart) : (s.run b).table.Apart := by
  by_cases hscan : s = .scan
  · subst hscan
    exact Bay.apart_scan hcalm ha
  · exact (thins_run hplain hscan b).apart ha

namespace BayCall

variable {c : BayCall Camera} {b : Bay Camera}

/-- Nothing of a plain call happens to the link by itself. -/
theorem plain_steps (hc : c.Plain) (b : Bay Camera) : ∀ s ∈ c.steps b, s.Plain := by
  refine forall_steps (fun s hs => ?_) (fun s hs => ?_) (fun _ => trivial) b
  · rwa [hs] at hc
  · cases s with
    | engine f => exact hs
    | _ => exact trivial

/-- Calls leave a storage in one slot. -/
theorem apart_run (hc : c.Plain) (hcalm : Calm b.engine) (ha : b.table.Apart) : (c.run b).table.Apart := by
  rw [← c.runAll_steps b]
  have hplain := plain_steps hc b
  generalize c.steps b = steps at hplain
  induction steps generalizing b with
  | nil => exact ha
  | cons s rest ih =>
    have hs := hplain s List.mem_cons_self
    exact ih (s.lasts_run (Engine.lasting_calm fun _ => True) hs hcalm) (s.apart_run hs hcalm ha)
      fun s' hs' => hplain s' (List.mem_cons_of_mem _ hs')

end BayCall

/-! ## Calls of a store -/

namespace Host

variable {ids : Slot → UInt32}

/-- A call to the camera changes no slot. -/
theorem keeps_storageId_call {α : Type} {handle : Option UInt32} {x : Action (Engine Camera) PtpError α} :
    (call handle x).Keeps fun h : Host Camera => ∀ slot, (h.bay.table.volume slot).storageId = ids slot :=
  fun _ h => h

theorem keeps_storageId_onStore {α : Type} (f : Store → α × Store) :
    (onStore f : Action (Host Camera) StorageError α).Keeps fun h =>
      ∀ slot, (h.bay.table.volume slot).storageId = ids slot :=
  fun _ h => h

/-- Calls of a store leave each slot its storage; an upload writes down that the card was accessed. -/
theorem storageId_run {c : StoreCall Camera} (hc : c.Plain) (h : Host Camera) (slot : Slot) :
    ((c.run h).bay.table.volume slot).storageId = (h.bay.table.volume slot).storageId := by
  have hkept : ∀ {α : Type} {x : Action (Host Camera) StorageError α},
      (x.Keeps fun h' => ∀ slot, (h'.bay.table.volume slot).storageId = (h.bay.table.volume slot).storageId) →
        ((x h).2.bay.table.volume slot).storageId = (h.bay.table.volume slot).storageId :=
    fun hx => hx h (fun _ => rfl) slot
  cases c with
  | fetch handle =>
    refine hkept (keeps_guard (keeps_bind keeps_storageId_call fun info => ?_))
    exact keeps_bind (keeps_read _) fun metadata => keeps_storageId_onStore _
  | readRange ref length offset =>
    refine hkept (keeps_bind (keeps_read _) fun o => ?_)
    refine keeps_ite (keeps_bind (keeps_change fun _ h => h) fun _ => keeps_pure _) (keeps_guard ?_)
    refine keeps_ite (keeps_pure _) (keeps_bind keeps_storageId_call fun data => ?_)
    exact keeps_bind (keeps_change fun _ h => h) fun _ => keeps_pure _
  | cache ref =>
    refine hkept (keeps_bind keeps_state fun h => ?_)
    refine keeps_ite (keeps_bind (keeps_change fun _ h => h) fun _ => keeps_pure _) (keeps_ite (keeps_pure _) ?_)
    refine keeps_bind keeps_storageId_call fun payload => keeps_bind (keeps_change fun _ h => h) fun _ => ?_
    exact keeps_ite (keeps_pure _) (keeps_storageId_onStore _)
  | writeNew name content parent =>
    refine hkept (keeps_bind (keeps_ofExcept _) fun _ => keeps_bind (keeps_ofExcept _) fun size => ?_)
    refine keeps_bind keeps_state fun h => keeps_bind (keeps_ofExcept _) fun target => ?_
    refine keeps_bind keeps_storageId_call fun handle => keeps_bind keeps_storageId_call fun _ => ?_
    refine keeps_bind (keeps_change fun h' hids other => ?_) fun _ =>
      keeps_bind (keeps_read _) fun metadata => keeps_storageId_onStore _
    exact (Bay.storageId_touch target.1 other h'.bay).trans (hids other)
  | delete ref =>
    refine hkept (keeps_bind (keeps_read _) fun handle => ?_)
    exact keeps_bind keeps_storageId_call fun _ => keeps_change fun _ h => h
  | bay f => exact hc.elim
  | _ => rfl

end Host

/-! ## Runs -/

/-- Wherever a run at a camera comes, no storage is in two slots. -/
theorem Operated.apart {may : Engine Camera → Prop} {h : Host Camera}
    (hr : Operated may h) : h.bay.table.Apart := by
  induction hr with
  | new budget staleness _ _ => exact VolumeTable.apart_empty
  | @store c h _ hc _ ih =>
    have hthins : h.bay.table.Thins (c.run h).bay.table := fun slot => .inl (Host.storageId_run hc h slot)
    exact hthins.apart ih
  | bay c hr hc ih => exact c.apart_run hc hr.calm ih
  | request r _ _ ih => exact ih
  | idle f _ _ ih => exact ih
  | camera s _ _ ih => exact ih

end Tether
