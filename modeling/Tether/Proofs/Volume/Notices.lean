import Tether.Proofs.Volume.Steps

/-!
# Tether.Proofs.Volume.Notices — what observers hear about the slots

Every step adds to what was put down about a slot exactly what it did to the slot: a mount that succeeds is owed
one notice that the slot is no longer mounted, and this notice is given once, when the slot ceases to be mounted
(`BayStep.unmounts_run`).  Over a run the notices balance the mounts, and every format that succeeds is told
(`Host.notices_balance`).
-/

namespace Tether

open Tether.Action

variable {τ : Type}

namespace Bay

variable {b b' : Bay τ} {slot : Slot}

/-- A slot whose card was formatted is still mounted, and the others are what they were. -/
theorem Formats.mountedOn (h : Formats slot b b') (other : Slot) : b'.mountedOn other = b.mountedOn other := by
  unfold Bay.mountedOn
  by_cases hne : other = slot
  · subst hne
    rw [h.isMounted, h.mounted]
  · rw [h.other other hne]

end Bay

namespace BayStep

variable [Transport τ]

/-- 1 if a slot went into a mounted state through this step, as a mount of it. -/
def mounts (slot : Slot) (s : BayStep τ) (b : Bay τ) : Nat :=
  match s with
  | .mount n =>
    if n = slot.val ∧ ¬ (b.table.volume slot).isMounted ∧
      ((Bay.mount n b).2.table.volume slot).isMounted then 1 else 0
  | _ => 0

/-- 1 if this step is a format of a slot that succeeds. -/
def formats (slot : Slot) (s : BayStep τ) (b : Bay τ) : Nat :=
  match s with
  | .format n => if n = slot.val ∧ (Bay.format n b).1 = .ok () then 1 else 0
  | _ => 0

omit [Transport τ] in
/-- A mount makes a slot one that a notice is owed for. -/
theorem unmounts_mount (slot : Slot) (n : Nat) (b : Bay τ) :
    (Bay.mount n b).2.unmountsOf slot + (Bay.mount n b).2.mountedOn slot =
      b.unmountsOf slot + b.mountedOn slot + mounts slot (.mount n) b := by
  refine Leaves.state (P := fun b' => b'.unmountsOf slot + b'.mountedOn slot =
    b.unmountsOf slot + b.mountedOn slot +
    if n = slot.val ∧ ¬ (b.table.volume slot).isMounted ∧ (b'.table.volume slot).isMounted then 1 else 0)
    ((Bay.leaves_mount n b).mono ?_ ?_)
  · rintro _ b' ⟨target, rfl, hm⟩
    have hunmounts : b'.unmountsOf slot = b.unmountsOf slot := by
      unfold Bay.unmountsOf
      rw [hm.changes]
    rw [hunmounts]
    unfold Bay.mountedOn
    -- the notice that is owed for the mount is one for the slot's being mounted now
    by_cases hne : slot = target
    · subst hne
      simp [hm.not_mounted, hm.isMounted]
    · have hval : target.val ≠ slot.val := fun h => hne (Fin.ext h.symm)
      simp [hm.other slot hne, hval]
  · rintro _ b' rfl
    simp

/-- What is put down about a slot, and one for its being mounted, grow by the mounts of it. -/
theorem unmounts_run (slot : Slot) (s : BayStep τ) (b : Bay τ) :
    (s.run b).unmountsOf slot + (s.run b).mountedOn slot =
      b.unmountsOf slot + b.mountedOn slot + s.mounts slot b := by
  cases s with
  | mount n => exact unmounts_mount slot n b
  | format n =>
    refine Leaves.state (P := fun b' => b'.unmountsOf slot + b'.mountedOn slot =
      b.unmountsOf slot + b.mountedOn slot)
      ((Bay.leaves_format n b).mono ?_ ?_)
    · rintro _ b' ⟨target, -, hf⟩
      have hunmounts : b'.unmountsOf slot = b.unmountsOf slot := by
        unfold Bay.unmountsOf
        rw [hf.changes, List.count_append]
        simp
      rw [hunmounts, hf.mountedOn slot]
    · rintro _ b' ⟨engine, rfl⟩
      rfl
  | takeUploads uploads => rfl
  | _ =>
    refine (course_run ?_ b).unmounts slot
    exact trivial

/-- The formats that are put down grow by those that succeed. -/
theorem formats_run (slot : Slot) (s : BayStep τ) (b : Bay τ) :
    (s.run b).formatsOf slot = b.formatsOf slot + s.formats slot b := by
  cases s with
  | mount n =>
    refine Leaves.state (P := fun b' => b'.formatsOf slot = b.formatsOf slot) ((Bay.leaves_mount n b).mono ?_ ?_)
    · rintro _ b' ⟨target, -, hm⟩
      unfold Bay.formatsOf
      rw [hm.changes]
    · rintro _ b' rfl
      rfl
  | format n =>
    show (Bay.format n b).2.formatsOf slot =
      b.formatsOf slot + if n = slot.val ∧ (Bay.format n b).1 = .ok () then 1 else 0
    cases hformat : Bay.format n b with
    | mk r b' =>
      cases r with
      | ok u =>
        obtain ⟨target, rfl, hf⟩ := (Bay.leaves_format n b).1 u b' hformat
        unfold Bay.formatsOf
        rw [hf.changes, List.count_append]
        by_cases hne : target = slot
        · subst hne
          simp
        · have hval : target.val ≠ slot.val := fun h => hne (Fin.ext h)
          have hchange : VolumeChange.formatted target ≠ .formatted slot :=
            fun h => hne (VolumeChange.formatted.inj h)
          rw [if_neg (fun h => hval h.1), List.count_singleton, beq_eq_false_iff_ne.mpr hchange]
          rfl
      | error e =>
        obtain ⟨engine, rfl⟩ := (Bay.leaves_format n b).2 e b' hformat
        rw [if_neg (fun h => by cases h.2)]
        rfl
  | takeUploads uploads => rfl
  | _ =>
    refine (course_run ?_ b).formats slot
    exact trivial

end BayStep

/-! ## Over a run -/

namespace Host

variable [Transport τ] {h : Host τ}

omit [Transport τ] in
theorem count_updateBay (change : VolumeChange) (f : Bay τ → Bay τ) (h : Host τ) :
    (h.updateBay f).notices.count change = h.notices.count change + (f h.bay).changes.count change :=
  List.count_append

/-- Between calls every change was told. -/
theorem changes_runCalls (calls : List (BayCall τ)) (hq : h.bay.changes = []) :
    (h.runCalls calls).bay.changes = [] := by
  induction calls generalizing h with
  | nil => exact hq
  | cons c rest ih => exact ih rfl

/-- What every step puts down, with something that is read off the table, adds up over the calls of a run. -/
theorem tally_of_step {count : BayStep τ → Bay τ → Nat} {change : VolumeChange} {m : VolumeTable → Nat}
    (hstep : ∀ (s : BayStep τ) b, (s.run b).changes.count change + m (s.run b).table =
      b.changes.count change + m b.table + count s b)
    (calls : List (BayCall τ)) (hq : h.bay.changes = []) :
    (h.runCalls calls).notices.count change + m (h.runCalls calls).bay.table =
      h.notices.count change + m h.bay.table + tally count calls h := by
  -- each call starts with nothing put down, so what its steps put down is what is told at its end
  induction calls generalizing h with
  | nil => rfl
  | cons c rest ih =>
    have hcall := BayStep.tally_of_step (m := fun b => b.changes.count change + m b.table) hstep
        (c.steps h.bay) h.bay
    have hrest : (h.runCalls (c :: rest)).notices.count change + m (h.runCalls (c :: rest)).bay.table =
      (h.updateBay c.run).notices.count change + m (c.run h.bay).table + tally count rest (h.updateBay c.run) :=
        ih rfl
    rw [c.runAll_steps, hq, List.count_nil] at hcall
    rw [hrest, count_updateBay, tally]
    omega

/-- A scan puts down that a mounted slot is no longer mounted, unless it finds the card of the slot's storage in
it. -/
theorem unmounts_scan {b : Bay τ} {slot : Slot} {storages : List UInt32} {engine : Engine τ}
    (hm : (b.table.volume slot).isMounted = true) (hlist : Engine.storageIds b.engine = (.ok storages, engine)) :
    (Bay.scan b).2.unmountsOf slot = b.unmountsOf slot +
      if (Bay.finding storages slot engine).isCardOf (b.table.volume slot).storageId then 0 else 1 := by
  obtain ⟨b', hscan, hcourse, hvolume, -⟩ := Bay.scan_of_listed hlist
  have hbalance := hcourse.unmounts slot
  rw [hscan]
  unfold Bay.mountedOn at hbalance
  by_cases hcard : (Bay.finding storages slot engine).isCardOf (b.table.volume slot).storageId = true
  · have hm' : (b'.table.volume slot).isMounted = true := by
      rw [hvolume slot]
      exact Volume.isMounted_found_iff.mpr ⟨hm, hcard⟩
    rw [if_pos hm, if_pos hm'] at hbalance
    rw [if_pos hcard]
    exact Nat.add_right_cancel hbalance
  · have hm' : ¬ (b'.table.volume slot).isMounted = true := by
      rw [hvolume slot]
      exact fun h => hcard (Volume.isMounted_found_iff.mp h).2
    rw [if_pos hm, if_neg hm'] at hbalance
    rw [if_neg hcard]
    exact hbalance

/-- Wherever calls come from empty slots, whatever the camera answers: the mounts of a slot are as many as the
notices that it is no longer mounted, and one more while it is mounted; the notices that its card was formatted
are as many as the formats that succeeded; and a scan adds one notice about a mounted slot unless it finds the
card of the slot's storage in it. -/
theorem notices_balance {engine : Engine τ} {store : Store} {calls : List (BayCall τ)}
    (hrun : h = (vacant engine store).runCalls calls) (slot : Slot) :
    (tally (BayStep.mounts slot) calls (vacant engine store) =
        h.notices.count (.unmounted slot) + if (h.bay.table.volume slot).isMounted then 1 else 0) ∧
      h.notices.count (.formatted slot) = tally (BayStep.formats slot) calls (vacant engine store) ∧
      ∀ storages engine, (h.bay.table.volume slot).isMounted = true →
        Engine.storageIds h.bay.engine = (.ok storages, engine) →
        (h.updateBay fun b => (Bay.scan b).2).notices.count (.unmounted slot) = h.notices.count (.unmounted slot) +
          if (Bay.finding storages slot engine).isCardOf (h.bay.table.volume slot).storageId then 0 else 1 := by
  refine ⟨?_, ?_, fun storages engine hm hlist => ?_⟩
  · have hbalance := tally_of_step (h := vacant engine store)
      (m := fun t => if (t.volume slot).isMounted then 1 else 0) (BayStep.unmounts_run slot) calls rfl
    rw [← hrun] at hbalance
    have hnew : ((vacant engine store).bay.table.volume slot).isMounted = false := by
      show (VolumeTable.empty.volume slot).isMounted = false
      rw [VolumeTable.volume_empty]
      rfl
    simp only [hnew] at hbalance
    exact (hbalance.trans (Nat.zero_add _)).symm
  · have hbalance := tally_of_step (m := fun _ => 0) (BayStep.formats_run slot) calls
        (h := vacant engine store) rfl
    rw [← hrun] at hbalance
    exact hbalance.trans (Nat.zero_add _)
  · have hq : h.bay.changes = [] := by
      rw [hrun]
      exact changes_runCalls calls rfl
    have hscan := unmounts_scan hm hlist
    unfold Bay.unmountsOf at hscan
    rw [hq, List.count_nil, Nat.zero_add] at hscan
    rw [count_updateBay, hscan]

/-- The second card is mounted, formatted and taken out: a scan tells once that it is gone. -/
theorem notices_balance_mountSecond :
    ∃ h : Host Link,
      ((h.bay.table.volume 1).isMounted = true ∧ (Engine.storageIds h.bay.engine).1 = .ok [Camera.cfExpressId]) ∧
      h.notices.count (.unmounted 1) = 0 ∧ h.notices.count (.formatted 1) = 1 ∧
        (h.updateBay fun b => (Bay.scan b).2).notices.count (.unmounted 1) = 1 := by
  let calls := BayCall.mountSecond ++ [.step (.format 1), .step (.engine fun e =>
    { e with link := { e.link with camera := e.link.camera.removeStorage Camera.sdId } })]
  obtain ⟨h, hrun⟩ : ∃ h : Host Link, h = (vacant .idle (.create 100 300)).runCalls calls := ⟨_, rfl⟩
  have hm : (h.bay.table.volume 1).isMounted = true := by
    rw [hrun]
    decide +kernel
  have hlist : (Engine.storageIds h.bay.engine).1 = .ok [Camera.cfExpressId] := by
    rw [hrun]
    decide +kernel
  have hmounts : tally (BayStep.mounts 1) calls (vacant .idle (.create 100 300)) = 1 := by decide +kernel
  have hformats : tally (BayStep.formats 1) calls (vacant .idle (.create 100 300)) = 1 := by decide +kernel
  obtain ⟨hunmounted, hformatted, hscan⟩ := notices_balance hrun 1
  rw [hmounts, if_pos hm] at hunmounted
  have hnone : h.notices.count (.unmounted 1) = 0 := by omega
  have hgone := hscan _ _ hm (Prod.ext hlist rfl)
  refine ⟨h, ⟨hm, hlist⟩, hnone, hformatted.trans hformats, ?_⟩
  rw [hgone, hnone]
  rfl

end Host

end Tether
